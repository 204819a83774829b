import Shop.Proofs.Variant.Choices
import Shop.Proofs.Variant.Counting
import Shop.Variant.Build

/-!
# Walks list the choices

A walk turns counters, `choices` is a recursion without any.  The two meet in `ahead`, the choices
that are still to come where the counters stand: one turn of the counters removes exactly its first
element.  So a walk from the start lists the choices in their order, and the variants of an option
set are one for each choice of its values.
-/

namespace Shop
namespace Variant

namespace Walk

abbrev Inside (axes : List (List α)) (position : List Nat) : Prop :=
  List.Forall₂ (fun axis i => i < axis.length) axes position

/-- The choices still to come where the counters stand, the present one first. -/
def ahead : List (List α) → List Nat → List (List α)
  | axis :: axes, i :: position =>
    match axis.drop i with
    | [] => []
    | a :: later => (ahead axes position).map (a :: ·) ++ choices (later :: axes)
  | _, _ => [[]]

theorem ahead_cons {axis : List α} {a : α} {later : List α} {i : Nat}
    (dropped : axis.drop i = a :: later) (axes : List (List α)) (position : List Nat) :
    ahead (axis :: axes) (i :: position) =
      (ahead axes position).map (a :: ·) ++ choices (later :: axes) := by
  simp only [ahead, dropped]

/-- At the first elements, all choices are still to come. -/
theorem ahead_first {axes : List (List α)} (filled : [] ∉ axes) :
    ahead axes (axes.map fun _ => 0) = choices axes := by
  induction axes with
  | nil => rfl
  | cons axis axes inductionHypothesis =>
    rw [List.mem_cons, not_or] at filled
    cases axis with
    | nil => exact absurd rfl filled.1
    | cons a later =>
      rw [List.map_cons, ahead_cons (List.drop_zero), inductionHypothesis filled.2]
      rfl

theorem filled_of_inside {axes : List (List α)} {position : List Nat}
    (inside : Inside axes position) : [] ∉ axes := by
  induction inside with
  | nil => exact List.not_mem_nil
  | @cons axis i _ _ less _ inductionHypothesis =>
    rw [List.mem_cons, not_or]
    refine ⟨?_, inductionHypothesis⟩
    rintro rfl
    exact Nat.not_lt_zero i less

/-- Counters at the first elements of filled lists stand on elements. -/
theorem inside_first {axes : List (List α)} (filled : [] ∉ axes) :
    Inside axes (axes.map fun _ => 0) := by
  induction axes with
  | nil => exact .nil
  | cons axis axes inductionHypothesis =>
    rw [List.mem_cons, not_or] at filled
    exact .cons (List.length_pos_of_ne_nil (Ne.symm filled.1)) (inductionHypothesis filled.2)

/-- One turn of the counters: the present choice is the first one ahead, and what is left behind it
is ahead of the new position, or nothing if the first counter went round.  The counters that went
round stand at the first elements again. -/
theorem turn_spec {axes : List (List α)} {position : List Nat} (inside : Inside axes position) :
    ∃ chosen, picks axes position = some chosen ∧
      match turn axes position with
      | (next, false) =>
        Inside axes next ∧ ahead axes position = chosen :: ahead axes next
      | (next, true) =>
        next = (axes.map fun _ => 0) ∧ ahead axes position = [chosen] := by
  induction inside with
  | nil => exact ⟨[], rfl, rfl, rfl⟩
  | @cons axis i axes position less inside inductionHypothesis =>
    rcases inductionHypothesis with ⟨rest, picked, turned⟩
    have dropped : axis.drop i = axis[i] :: axis.drop (i + 1) := List.drop_eq_getElem_cons less
    refine ⟨axis[i] :: rest, by simp [picks, picked, less], ?_⟩
    rw [ahead_cons dropped]
    -- This counter moves only when those behind it went round.
    rcases turnedInner : turn axes position with ⟨next, round⟩
    rw [turnedInner] at turned
    cases round with
    | false =>
      simp only [turn, turnedInner]
      exact ⟨.cons less turned.1, by rw [turned.2, ahead_cons dropped]; rfl⟩
    | true =>
      rcases turned with ⟨rfl, last⟩
      by_cases more : i + 1 < axis.length
      · simp only [turn, turnedInner, more, if_true]
        refine ⟨.cons more (inside_first (filled_of_inside inside)), ?_⟩
        rw [last, ahead_cons (List.drop_eq_getElem_cons more), ahead_first (filled_of_inside inside),
          List.drop_eq_getElem_cons more]
        rfl
      · simp only [turn, turnedInner, more, if_false]
        refine ⟨rfl, ?_⟩
        rw [last, List.drop_eq_nil_of_le (Nat.le_of_not_lt more)]
        rfl

/-- A walk that is not finished lists what is ahead of its counters. -/
theorem take_eq_ahead (w : Walk V) (going : w.finished = false)
    (inside : Inside w.axes w.position) (steps : Nat) :
    w.take steps = ((ahead w.axes w.position).take steps).map .ofPicks := by
  induction steps generalizing w with
  | zero => rw [List.take_zero]; rfl
  | succ steps inductionHypothesis =>
    rcases turn_spec inside with ⟨chosen, picked, turned⟩
    rcases turnedInner : turn w.axes w.position with ⟨next, round⟩
    have stepped : w.next? = some (.ofPicks chosen, { w with
        position := next, finished := round, remaining := w.remaining.map (· - 1) }) := by
      simp [next?, going, picked, turnedInner]
    rw [turnedInner] at turned
    simp only [take, stepped]
    cases round with
    | false =>
      rw [turned.2, List.take_succ_cons, List.map_cons]
      exact congrArg _ (inductionHypothesis _ rfl turned.1)
    | true =>
      rw [turned.2, List.take_succ_cons, List.take_nil, List.map_cons, List.map_nil]
      cases steps <;> rfl

/-- A walk from the start lists the choices in their order. -/
theorem take_start (axes : List (List (Placeholder V))) (steps : Nat) :
    (start axes).take steps = ((choices axes).take steps).map .ofPicks := by
  by_cases filled : [] ∈ axes
  · have finished : (start axes).finished = true :=
      List.any_eq_true.mpr ⟨[], filled, rfl⟩
    rw [choices_eq_nil_iff.mpr filled, List.take_nil, List.map_nil]
    cases steps with
    | zero => rfl
    | succ steps => simp only [take, next?, finished, if_true]
  · have going : (start axes).finished = false := by
      refine List.any_eq_false.mpr fun axis member empty => filled ?_
      rwa [← List.isEmpty_iff.mp empty]
    rw [take_eq_ahead _ going (inside_first filled), ← ahead_first filled]
    rfl

end Walk

/-! ## The variants of an option set -/

/-- An option set that is let through has as many choices as its sizes multiply to, and no more than
a root may have products. -/
theorem ensureLimit_ok {sizes : List Nat} {n : Nat} (ensured : ensureLimit sizes = .ok n) :
    n = sizes.prod ∧ n ≤ maxVariants := by
  rcases ensureLimit_eq_ok_iff.mp ensured with ⟨product, within, _⟩
  exact ⟨product.symm, within⟩

def placeholder (label : V → String) (name : String) (value : V) : Placeholder V :=
  ⟨name ++ ": " ++ label value, Text.lowercase (label value), value⟩

theorem placeholders_eq_map (label : V → String) (name : String) (values : List V) :
    placeholders label name values = values.map (placeholder label name) := rfl

theorem choices_placeholders (label : V → String) (options : List (Axis V)) :
    choices (options.map fun option => placeholders label option.1 option.2) =
      (choices (options.map (·.2))).map
        (List.zipWith (placeholder label) (options.map (·.1))) := by
  induction options with
  | nil => rfl
  | cons option options inductionHypothesis =>
    simp only [List.map_cons, choices, inductionHypothesis]
    simp only [placeholders_eq_map, List.flatMap_map, List.map_flatMap, List.map_map,
      Function.comp_def, List.zipWith_cons_cons]

/-- The variant of chosen values: its SKU is the prefix and the lowercased values, its summary the
pairs of names and values. -/
def ofChoice (label : V → String) (base : String) (names : List String) (choice : List V) :
    Variant V where
  sku := joinSku base (choice.map fun value => Text.lowercase (label value))
  optionSummary :=
    joinSummary (List.zipWith (fun name value => name ++ ": " ++ label value) names choice)
  values := choice

/-- What the placeholders of chosen values combine to. -/
theorem ofPicks_zipWith (label : V → String) {names : List String} {choice : List V}
    (same : names.length = choice.length) :
    Combination.ofPicks (List.zipWith (placeholder label) names choice) =
      ⟨List.zipWith (fun name value => name ++ ": " ++ label value) names choice,
        choice.map fun value => Text.lowercase (label value), choice⟩ := by
  induction names generalizing choice with
  | nil =>
    rw [List.length_eq_zero_iff.mp same.symm]
    rfl
  | cons name names inductionHypothesis =>
    cases choice with
    | nil => cases same
    | cons value choice =>
      have rest := inductionHypothesis (Nat.succ.inj same)
      simp only [Combination.ofPicks, Combination.mk.injEq] at rest
      simp only [Combination.ofPicks, List.zipWith_cons_cons, List.map_cons, rest, placeholder]

/-- An option set that is let through has one variant for each choice of its values. -/
theorem build_eq (label : V → String) (base : String) (options : List (Axis V)) :
    build label base options = (ensureLimit (options.map (·.2.length))).map fun _ =>
      (choices (options.map (·.2))).map (ofChoice label base (options.map (·.1))) := by
  have sizes : (options.map fun option => placeholders label option.1 option.2).map
      (·.length) = options.map (·.2.length) := by
    simp only [List.map_map, Function.comp_def, placeholders, List.length_map]
  unfold build
  simp only [sizes]
  cases ensured : ensureLimit (options.map (·.2.length)) with
  | error refusal => rfl
  | ok n =>
    rcases ensureLimit_ok ensured with ⟨rfl, _⟩
    refine congrArg Except.ok ?_
    rw [Walk.take_start, List.take_of_length_le, choices_placeholders, List.map_map, List.map_map]
    · refine List.map_congr_left fun choice chosen => ?_
      have same : (options.map (·.1)).length = choice.length := by
        rw [length_of_mem_choices chosen, List.length_map, List.length_map]
      simp only [Function.comp_apply, ofPicks_zipWith label same]
      rfl
    · rw [length_choices, ← sizes]

/-! ## Option sets that are let through -/

/-- As many variants are built as the limit was asked about. -/
theorem length_build (label : V → String) (base : String) (options : List (Axis V)) :
    (build label base options).map List.length = ensureLimit (options.map (·.2.length)) := by
  rw [build_eq]
  cases ensured : ensureLimit (options.map (·.2.length)) with
  | error refusal => rfl
  | ok n =>
    rcases ensureLimit_ok ensured with ⟨rfl, _⟩
    refine congrArg Except.ok ?_
    rw [List.length_map, length_choices, List.map_map]
    rfl

/-- An option set is let through, with the product of its sizes as the number of its variants, exactly
if a root may have as many products and the sizes before the first empty option can be multiplied in
64 bits.  Where every option has values, the product alone decides, in whatever order the options
stand. -/
theorem letThrough_iff (sizes : List Nat) :
    (∀ n, ensureLimit sizes = .ok n ↔
      sizes.prod = n ∧ n ≤ maxVariants ∧ (sizes.takeWhile (· ≠ 0)).prod < countBound) ∧
    (0 ∉ sizes →
      (∀ n, ensureLimit sizes = .ok n ↔ sizes.prod = n ∧ n ≤ maxVariants) ∧
      ∀ others, others.Perm sizes → ensureLimit others = ensureLimit sizes) ∧
    ∀ (V : Type) (label : V → String) (base : String) (options : List (Axis V)),
      options.map (·.2.length) = sizes →
        (build label base options).map List.length = ensureLimit sizes := by
  refine ⟨fun n => ensureLimit_eq_ok_iff, fun filled => ⟨fun n => ?_, fun others perm => ?_⟩, ?_⟩
  · exact ensureLimit_eq_ok_iff_of_filled filled
  · exact ensureLimit_perm perm filled
  · rintro V label base options rfl
    exact length_build label base options

/-- Ten shirts of two colours in five sizes, however the options are ordered. -/
theorem letThrough_iff_shirts :
    ensureLimit [2, 5] = .ok 10 ∧ ensureLimit [5, 2] = ensureLimit [2, 5] ∧
      (build id "shirt" [("colour", ["red", "blue"]), ("size", ["XS", "S", "M", "L", "XL"])]).map
        List.length = .ok 10 := by
  rcases letThrough_iff [2, 5] with ⟨exactly, filled, built⟩
  have through : ensureLimit [2, 5] = .ok 10 := (exactly 10).mpr (by decide)
  refine ⟨through, (filled (by decide)).2 [5, 2] (.swap 2 5 []), ?_⟩
  rw [← through]
  exact built String id "shirt" _ rfl

/-- Sixty-four options of two values and one without any stand for no product at all, but are let
through only if the empty option is not the last: the others lead out of the bits first. -/
theorem ensureLimit_overrun :
    let sizes := List.replicate 64 2 ++ [0]
    sizes.prod = 0 ∧
      ensureLimit sizes = .error (.invalid "options would produce more than 1000 products") ∧
      ensureLimit sizes.reverse = .ok 0 := by
  decide +kernel

end Variant
end Shop
