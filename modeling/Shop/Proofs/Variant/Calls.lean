import Shop.Proofs.Variant.Walk

/-!
# Calls on a walk

A walk is called again and again, also after its last choice.  After some calls from the start its
counters stand at the list of positions of that number, so the positions are those of `places` one
after the other: all that stay within the sizes, in strictly rising lexicographic order.  A call
answers with what stands at these positions, and once the positions are used up no call answers.

The number of choices still to come is kept beside the counters and agrees with them, if all choices
can be counted.  If they cannot, the walk says at every call that at least the largest number are to
come, which is wrong as soon as fewer are.
-/

namespace Shop
namespace Variant

/-- What a combination holds stands at positions of the axes, one position for each axis. -/
structure Combination.StandsAt (c : Combination V) (axes : List (List (Placeholder V)))
    (place : List Nat) : Prop where
  summaries : c.summaries.map some = List.zipWith (fun axis i => axis[i]?.map (·.summary)) axes place
  fragments : c.fragments.map some = List.zipWith (fun axis i => axis[i]?.map (·.fragment)) axes place
  values : c.values.map some = List.zipWith (fun axis i => axis[i]?.map (·.value)) axes place

namespace Walk

/-- A walk after some calls.  A call that finds no choice leaves it where it is. -/
def called (w : Walk V) : Nat → Walk V
  | 0 => w
  | calls + 1 =>
    match (w.called calls).next? with
    | some (_, later) => later
    | none => w.called calls

/-! ## Positions in place of elements -/

/-- Axes of the same sizes whose elements are their own positions. -/
abbrev ranges (axes : List (List α)) : List (List Nat) := (axes.map List.length).map List.range

theorem inside_ranges {axes : List (List α)} {position : List Nat} :
    Inside (ranges axes) position ↔ Inside axes position := by
  simp only [Inside, ranges, List.map_map, List.forall₂_map_left_iff, Function.comp_apply,
    List.length_range]

/-- Turning the counters looks at the sizes of the axes alone. -/
theorem turn_ranges (axes : List (List α)) (position : List Nat) :
    turn (ranges axes) position = turn axes position := by
  induction axes generalizing position with
  | nil => cases position <;> rfl
  | cons axis axes inductionHypothesis =>
    cases position with
    | nil => rfl
    | cons i position =>
      change turn (List.range axis.length :: ranges axes) (i :: position) = _
      simp only [turn, inductionHypothesis, List.length_range]

/-- Where the counters stand on elements, these are found, and they stand at the positions. -/
theorem picks_of_inside {axes : List (List α)} {position : List Nat} (inside : Inside axes position) :
    ∃ chosen, picks axes position = some chosen ∧
      chosen.map some = List.zipWith (fun axis i => axis[i]?) axes position := by
  induction inside with
  | nil => exact ⟨[], rfl, rfl⟩
  | @cons axis i axes position less _ inductionHypothesis =>
    rcases inductionHypothesis with ⟨rest, picked, standing⟩
    refine ⟨axis[i] :: rest, by simp [picks, picked, less], ?_⟩
    rw [List.map_cons, standing, List.zipWith_cons_cons, List.getElem?_eq_getElem less]

/-- Counters that stand on positions pick these. -/
theorem picks_ranges {axes : List (List α)} {position : List Nat} (inside : Inside axes position) :
    picks (ranges axes) position = some position := by
  induction inside with
  | nil => rfl
  | @cons axis i axes position less _ inductionHypothesis =>
    change picks (List.range axis.length :: ranges axes) (i :: position) = _
    have found : (List.range axis.length)[i]? = some i := List.getElem?_range less
    simp only [picks, found, inductionHypothesis]
    rfl

/-- One turn leads from the first of the positions ahead to the next, if there is one. -/
theorem ahead_turn {axes : List (List α)} {position : List Nat} (inside : Inside axes position) :
    match turn axes position with
    | (next, false) => Inside axes next ∧
      ahead (ranges axes) position = position :: ahead (ranges axes) next
    | (_, true) => ahead (ranges axes) position = [position] := by
  rcases turn_spec (inside_ranges.mpr inside) with ⟨chosen, picked, turned⟩
  rw [picks_ranges inside] at picked
  cases picked
  rw [turn_ranges] at turned
  rcases turnedTo : turn axes position with ⟨next, round⟩
  rw [turnedTo] at turned
  cases round with
  | false => exact ⟨inside_ranges.mp turned.1, turned.2⟩
  | true => exact turned.2

/-! ## Where a walk stands -/

theorem next?_of_finished {w : Walk V} (finished : w.finished = true) : w.next? = none :=
  if_pos finished

/-- The number of all choices. -/
abbrev total (axes : List (List α)) : Nat := (axes.map List.length).prod

/-- Where a walk stands after some calls from the start: on elements, with the positions from this
number on ahead, and with as many choices to come; or it is finished, and all positions were had. -/
structure Stands (axes : List (List (Placeholder V))) (calls : Nat) (w : Walk V) : Prop where
  axes_eq : w.axes = axes
  inside : w.finished = true ∨ Inside axes w.position
  places_drop : (places (axes.map List.length)).drop calls =
    if w.finished then [] else ahead (ranges axes) w.position
  remaining_eq : w.remaining = if total axes < countBound then some (total axes - calls) else none

theorem stands_start (axes : List (List (Placeholder V))) : Stands axes 0 (start axes) := by
  have finished_iff : (start axes).finished = true ↔ [] ∈ axes := by
    simp only [start, List.any_eq_true, List.isEmpty_iff, exists_eq_right]
  by_cases filled : [] ∈ axes
  · have finished := finished_iff.mpr filled
    have nothing : total axes = 0 :=
      List.prod_eq_zero_iff.mpr (List.mem_map.mpr ⟨[], filled, rfl⟩)
    refine ⟨rfl, .inl finished, ?_, ?_⟩
    · rw [finished, if_pos rfl, List.drop_zero, ← List.length_eq_zero_iff, length_places]
      exact nothing
    · have started : 0 < countBound := Nat.two_pow_pos 64
      rw [nothing, if_pos started]
      exact if_pos finished
  · have going : (start axes).finished = false := Bool.eq_false_iff.mpr (mt finished_iff.mp filled)
    have positive : 0 ∉ axes.map List.length := by
      simpa only [List.mem_map, List.length_eq_zero_iff, exists_eq_right] using filled
    have inside := inside_first filled
    refine ⟨rfl, .inr inside, ?_, ?_⟩
    · have first := ahead_first (filled_of_inside (inside_ranges.mpr inside))
      rw [going, if_neg Bool.false_ne_true, List.drop_zero, places, ← first, ranges, List.map_map,
        List.map_map]
      rfl
    · change (if (start axes).finished = true then some 0 else count _) = _
      rw [going, if_neg Bool.false_ne_true, count_of_filled positive]
      rfl

namespace Stands

variable {axes : List (List (Placeholder V))} {calls : Nat} {w : Walk V}

/-- The positions that are left start with those of the counters, unless the walk is finished. -/
theorem place? (stands : Stands axes calls w) :
    (places (axes.map List.length))[calls]? = if w.finished then none else some w.position := by
  rw [← List.head?_drop, stands.places_drop]
  cases finished : w.finished with
  | true => rfl
  | false =>
    have inside := stands.inside.resolve_left (Bool.eq_false_iff.mp finished)
    have turned := ahead_turn inside
    rw [if_neg Bool.false_ne_true, if_neg Bool.false_ne_true]
    split at turned
    · rw [turned.2]
      rfl
    · rw [turned]
      rfl

/-- A walk that is not finished answers with what stands at its counters, and turns them. -/
theorem next?_of_going (stands : Stands axes calls w) (going : w.finished = false) :
    ∃ c, c.StandsAt axes w.position ∧ w.next? = some (c, { w with
      position := (turn axes w.position).1
      finished := (turn axes w.position).2
      remaining := w.remaining.map (· - 1) }) := by
  have inside := stands.inside.resolve_left (Bool.eq_false_iff.mp going)
  rcases picks_of_inside inside with ⟨chosen, picked, standing⟩
  refine ⟨.ofPicks chosen, ?_, by simp [next?, going, stands.axes_eq, picked]⟩
  have member {β : Type} (f : Placeholder V → β) : (chosen.map f).map some =
      List.zipWith (fun axis i => axis[i]?.map f) axes w.position := by
    rw [← List.map_zipWith, ← standing, List.map_map, List.map_map]
    rfl
  exact ⟨member _, member _, member _⟩

/-- A call leads a walk to the next number. -/
theorem called (stands : Stands axes calls w) : Stands axes (calls + 1) (w.called 1) := by
  have dropped : (places (axes.map List.length)).drop (calls + 1) =
      ((places (axes.map List.length)).drop calls).drop 1 := by rw [List.drop_drop]
  have counted : total axes - (calls + 1) = total axes - calls - 1 := Nat.sub_add_eq _ _ _
  cases finished : w.finished with
  | true =>
    have still : w.called 1 = w := by
      simp only [Walk.called, next?_of_finished finished]
    have none : (places (axes.map List.length)).drop calls = [] := by
      rw [stands.places_drop, finished, if_pos rfl]
    have had : total axes ≤ calls := by
      rw [total, ← length_places]
      exact List.drop_eq_nil_iff.mp none
    rw [still]
    refine ⟨stands.axes_eq, .inl finished, ?_, ?_⟩
    · rw [dropped, none, finished]
      rfl
    · rw [stands.remaining_eq, counted, Nat.sub_eq_zero_of_le had]
  | false =>
    rcases stands.next?_of_going finished with ⟨c, _, answered⟩
    have moved : w.called 1 = { w with
        position := (turn axes w.position).1
        finished := (turn axes w.position).2
        remaining := w.remaining.map (· - 1) } := by
      simp only [Walk.called, answered]
    have turned := ahead_turn (stands.inside.resolve_left (Bool.eq_false_iff.mp finished))
    have before := stands.places_drop
    rw [finished, if_neg Bool.false_ne_true] at before
    have left : w.remaining.map (· - 1) =
        if total axes < countBound then some (total axes - (calls + 1)) else none := by
      rw [stands.remaining_eq, counted, apply_ite (Option.map (· - 1))]
      rfl
    rw [moved]
    rcases turnedTo : turn axes w.position with ⟨next, round⟩
    rw [turnedTo] at turned
    cases round with
    | false =>
      refine ⟨stands.axes_eq, .inr turned.1, ?_, left⟩
      rw [dropped, before, turned.2]
      rfl
    | true =>
      refine ⟨stands.axes_eq, .inl rfl, ?_, left⟩
      rw [dropped, before, turned]
      rfl

end Stands

/-- After any number of calls from the start, a walk stands at this number. -/
theorem stands_called (axes : List (List (Placeholder V))) (calls : Nat) :
    Stands axes calls ((start axes).called calls) := by
  induction calls with
  | zero => exact stands_start axes
  | succ calls inductionHypothesis => exact inductionHypothesis.called

/-- A call answers exactly as long as there is a position of its number. -/
theorem isSome_next?_called (axes : List (List (Placeholder V))) (calls : Nat) :
    ((start axes).called calls).next?.isSome = decide (calls < total axes) := by
  have stands := stands_called axes calls
  have place? := stands.place?
  rw [total, ← length_places]
  cases finished : ((start axes).called calls).finished with
  | true =>
    rw [finished, if_pos rfl, List.getElem?_eq_none_iff] at place?
    rw [next?_of_finished finished, decide_eq_false (Nat.not_lt.mpr place?)]
    rfl
  | false =>
    rw [finished, if_neg Bool.false_ne_true] at place?
    rcases stands.next?_of_going finished with ⟨c, _, answered⟩
    rw [answered, decide_eq_true (List.getElem?_eq_some_iff.mp place?).1]
    rfl

/-- Called again and again from the start, a walk never looks for an element outside an axis, and
answers with what stands at the lists of positions that stay within the sizes: with each exactly once,
in strictly rising lexicographic order.  There are as many as the sizes multiply to, none if an axis is
empty; after these, no call answers. -/
theorem called_answers (axes : List (List (Placeholder V))) :
    let sizes := axes.map List.length
    (∀ calls, ((start axes).called calls).finished = true ∨
      Inside axes ((start axes).called calls).position) ∧
    (∀ calls, Option.Rel (fun c place => c.StandsAt axes place)
      (((start axes).called calls).next?.map (·.1)) (places sizes)[calls]?) ∧
    (∀ place, place ∈ places sizes ↔ List.Forall₂ (· < ·) place sizes) ∧
    (places sizes).Pairwise (· < ·) ∧
    (places sizes).length = sizes.prod ∧ (sizes.prod = 0 ↔ [] ∈ axes) := by
  refine ⟨fun calls => (stands_called axes calls).inside, fun calls => ?_, fun _ => mem_places_iff,
    places_pairwise_lt _, length_places _, ?_⟩
  · have stands := stands_called axes calls
    rw [stands.place?]
    cases finished : ((start axes).called calls).finished with
    | true =>
      rw [next?_of_finished finished]
      exact .none
    | false =>
      rcases stands.next?_of_going finished with ⟨c, standing, answered⟩
      rw [answered]
      exact .some standing
  · rw [List.prod_eq_zero_iff, List.mem_map]
    simp only [List.length_eq_zero_iff, exists_eq_right]

/-- Without axes there is one choice, which is empty. -/
example : ((start ([] : List (List (Placeholder String)))).called 0).next?.map (·.1.values) =
    some [] := rfl

/-! ## Hints -/

/-- After any number of calls, as many calls answer as choices are left of all.  If all can be counted,
the hint says so exactly.  If they cannot, it gives the largest number as the lower bound and no upper
bound; this is right as long as so many are left, and wrong from then on. -/
theorem sizeHint_called (axes : List (List (Placeholder V))) (calls : Nat) :
    let left := total axes - calls
    let hint := ((start axes).called calls).sizeHint
    (∀ more, ((start axes).called (calls + more)).next?.isSome = decide (more < left)) ∧
    hint = (if total axes < countBound then (left, some left) else (countBound - 1, none)) ∧
    ((hint.1 ≤ left ∧ ∀ upper ∈ hint.2, left ≤ upper) ↔
      total axes < countBound ∨ countBound - 1 ≤ left) := by
  intro left hint
  have counted : hint = if total axes < countBound then (left, some left) else (countBound - 1, none) := by
    have remaining := (stands_called axes calls).remaining_eq
    by_cases within : total axes < countBound
    · rw [if_pos within] at remaining ⊢
      simp only [hint, sizeHint, remaining, left]
    · rw [if_neg within] at remaining ⊢
      simp only [hint, sizeHint, remaining]
  refine ⟨fun more => ?_, counted, ?_⟩
  · rw [isSome_next?_called, decide_eq_decide]
    omega
  · rw [counted]
    by_cases within : total axes < countBound
    · simp [within]
    · simp [within]

/-- Sixteen options of sixteen values each. -/
def wideAxes : List (List (Placeholder String)) :=
  List.replicate 16 (placeholders id "axis" ((List.range 16).map fun i => "v" ++ toString i))

/-- After two calls on sixteen options of sixteen values, the hint says that there are more choices to
come than are left. -/
theorem sizeHint_wideAxes :
    total wideAxes = countBound ∧
      total wideAxes - 2 < ((start wideAxes).called 2).sizeHint.1 := by
  have sizes : wideAxes.map List.length = List.replicate 16 16 := rfl
  have all : total wideAxes = countBound := by
    rw [total, sizes]
    decide +kernel
  refine ⟨all, ?_⟩
  have uncounted : ((start wideAxes).called 2).remaining = none := by
    rw [(stands_called wideAxes 2).remaining_eq, all, if_neg (Nat.lt_irrefl _)]
  rw [sizeHint, uncounted, all]
  decide +kernel

end Walk
end Variant
end Shop
