import Mathlib.Data.List.Nodup
import Shop.Proofs.Rule.Accepted
import Shop.Proofs.Variant.Walk
import Shop.Service.Command

/-!
# When the SKUs of an option set differ

The SKU of a variant is the prefix of its root with the lowercased values behind it, each after an
underscore.  The values of one option differ when lowercased, but they may hold underscores
themselves, so two choices can still join to one text.  That takes two options: an earlier one with
a value that goes on behind another of its values after an underscore, and a later one with a value
that ends with another of its values after an underscore.
-/

namespace Shop
namespace Variant

/-! ## Joined fragments -/

/-- A joined SKU is its prefix and then each fragment after an underscore. -/
theorem toList_joinSku (base : String) (fragments : List String) :
    (joinSku base fragments).toList =
      base.toList ++ fragments.flatMap fun fragment => '_' :: fragment.toList := by
  unfold joinSku
  induction fragments generalizing base with
  | nil => simp
  | cons fragment fragments inductionHypothesis =>
    rw [String.intercalate_cons_cons, String.toList_append, String.toList_append,
      inductionHypothesis, List.flatMap_cons]
    simp

section Joins

variable {α : Type} (mark : α)

/-- Some element goes on behind another one after the mark. -/
def Continued (axis : List (List α)) : Prop :=
  ∃ v ∈ axis, ∃ w ∈ axis, v ++ [mark] <+: w

/-- Some element ends with another one after the mark. -/
def Preceded (axis : List (List α)) : Prop :=
  ∃ v ∈ axis, ∃ w ∈ axis, mark :: v <:+ w

instance [DecidableEq α] (axis : List (List α)) : Decidable (Continued mark axis) :=
  inferInstanceAs (Decidable (∃ v ∈ axis, ∃ w ∈ axis, v ++ [mark] <+: w))

instance [DecidableEq α] (axis : List (List α)) : Decidable (Preceded mark axis) :=
  inferInstanceAs (Decidable (∃ v ∈ axis, ∃ w ∈ axis, mark :: v <:+ w))

variable {mark}

/-- Of two texts that agree with something marked behind each, one goes on behind the other unless
they are the same. -/
theorem eq_or_continued {axis : List (List α)} {v w left right : List α}
    (first : v ∈ axis) (second : w ∈ axis)
    (leftMarked : left = [] ∨ ∃ rest, left = mark :: rest)
    (rightMarked : right = [] ∨ ∃ rest, right = mark :: rest)
    (same : v ++ left = w ++ right) : v = w ∨ Continued mark axis := by
  rcases List.append_eq_append_iff.mp same with ⟨more, rfl, tail⟩ | ⟨more, rfl, tail⟩
  · cases more with
    | nil => exact .inl (List.append_nil v).symm
    | cons a more =>
      rcases leftMarked with rfl | ⟨rest, rfl⟩
      · cases tail
      · cases List.head_eq_of_cons_eq tail
        exact .inr ⟨v, first, _, second, ⟨more, by simp⟩⟩
  · cases more with
    | nil => exact .inl (List.append_nil w)
    | cons a more =>
      rcases rightMarked with rfl | ⟨rest, rfl⟩
      · cases tail
      · cases List.head_eq_of_cons_eq tail
        exact .inr ⟨w, second, _, first, ⟨more, by simp⟩⟩

/-- Of two marked texts that agree with something before each, one ends with the other unless
they are the same. -/
theorem eq_or_preceded {axis : List (List α)} {v w left right : List α}
    (first : v ∈ axis) (second : w ∈ axis) (same : left ++ mark :: v = right ++ mark :: w) :
    left = right ∨ Preceded mark axis := by
  rcases List.append_eq_append_iff.mp same with ⟨more, rfl, tail⟩ | ⟨more, rfl, tail⟩
  · cases more with
    | nil => exact .inl (List.append_nil left).symm
    | cons a more =>
      exact .inr ⟨w, second, v, first, ⟨more, (List.cons.inj tail).2.symm⟩⟩
  · cases more with
    | nil => exact .inl (List.append_nil right)
    | cons a more =>
      exact .inr ⟨v, first, w, second, ⟨more, (List.cons.inj tail).2.symm⟩⟩

/-- Marked fragments joined behind each other. -/
def marked (mark : α) (fragments : List (List α)) : List α := fragments.flatMap (mark :: ·)

theorem marked_cases (fragments : List (List α)) :
    marked mark fragments = [] ∨ ∃ rest, marked mark fragments = mark :: rest := by
  cases fragments with
  | nil => exact .inl rfl
  | cons fragment fragments => exact .inr ⟨_, rfl⟩

/-- What stands before joined fragments can be told where no element ends with another one. -/
theorem left_eq_of_marked_eq {axes : List (List (List α))} {p q : List (List α)}
    (first : List.Forall₂ (· ∈ ·) p axes) (second : List.Forall₂ (· ∈ ·) q axes)
    (plain : ∀ axis ∈ axes, ¬ Preceded mark axis) {left right : List α}
    (same : left ++ marked mark p = right ++ marked mark q) : left = right := by
  induction first generalizing q left right with
  | nil =>
    cases second
    simpa [marked] using same
  | @cons v axis p axes member _ inductionHypothesis =>
    rcases second with _ | ⟨secondMember, second⟩
    rename_i w q
    -- The first fragments join what stands before, so that the rest is shorter.
    have shifted : (left ++ mark :: v) ++ marked mark p = (right ++ mark :: w) ++ marked mark q := by
      simpa [marked] using same
    have agree := inductionHypothesis second
      (fun other inside => plain other (List.mem_cons_of_mem _ inside)) shifted
    exact (eq_or_preceded member secondMember agree).resolve_right (plain axis List.mem_cons_self)

/-- Joined fragments can be told apart unless an option with a continued value stands before one
with a preceded value. -/
theorem eq_of_marked_eq {axes : List (List (List α))} {p q : List (List α)}
    (first : List.Forall₂ (· ∈ ·) p axes) (second : List.Forall₂ (· ∈ ·) q axes)
    (uncrossed : axes.Pairwise fun earlier later =>
      ¬ (Continued mark earlier ∧ Preceded mark later))
    (same : marked mark p = marked mark q) : p = q := by
  induction first generalizing q with
  | nil => cases second; rfl
  | @cons v axis p axes member firstRest inductionHypothesis =>
    rcases second with _ | ⟨secondMember, second⟩
    rename_i w q
    rw [List.pairwise_cons] at uncrossed
    have agree : v ++ marked mark p = w ++ marked mark q := (List.cons.inj same).2
    -- Were the first fragments different, this option would be continued.  Then no later one is
    -- preceded, so the first fragments can be read off from the end after all.
    have heads : v = w := by
      rcases eq_or_continued member secondMember (marked_cases p) (marked_cases q) agree with
        heads | continued
      · exact heads
      · exact left_eq_of_marked_eq firstRest second
          (fun later inside preceded => uncrossed.1 later inside ⟨continued, preceded⟩) agree
    subst heads
    rw [inductionHypothesis second uncrossed.2 (List.append_cancel_left agree)]

end Joins

/-! ## The SKUs of a request -/

/-- Behind one prefix, as many fragments give the same SKU exactly if they join to the same text. -/
theorem joinSku_eq_iff (base : String) {p q : List String} (same : p.length = q.length) :
    joinSku base p = joinSku base q ↔ String.intercalate "_" p = String.intercalate "_" q := by
  cases p with
  | nil => rw [List.length_eq_zero_iff.mp same.symm]; simp
  | cons first p =>
    cases q with
    | nil => cases same
    | cons second q =>
      unfold joinSku
      rw [String.intercalate_cons_cons, String.intercalate_cons_cons, String.append_right_inj]

theorem choices_nodup {axes : List (List α)} (distinct : ∀ axis ∈ axes, axis.Nodup) :
    (choices axes).Nodup := by
  induction axes with
  | nil => simp [choices]
  | cons axis axes inductionHypothesis =>
    have rest := inductionHypothesis fun other inside => distinct other (List.mem_cons_of_mem _ inside)
    rw [choices, List.nodup_flatMap]
    constructor
    · intro a _
      exact rest.map fun p q same => (List.cons.inj same).2
    · refine (distinct axis List.mem_cons_self).imp fun different => ?_
      intro p first second
      rcases List.mem_map.mp first with ⟨_, _, rfl⟩
      rcases List.mem_map.mp second with ⟨_, _, same⟩
      exact different (List.cons.inj same).1.symm

end Variant

namespace RootRequest

def axes (r : RootRequest) : List (Variant.Axis String) :=
  r.options.map fun option => (option.name, option.values)

/-- The lowercased values of the options of a request. -/
def fragments (r : RootRequest) : List (List String) :=
  r.options.map fun option => option.values.map Text.lowercase

/-- An option with a value that goes on behind another one after an underscore stands before an
option with a value that ends with another one after an underscore. -/
def Crossed (r : RootRequest) : Prop :=
  ¬ (r.fragments.map (List.map String.toList)).Pairwise fun earlier later =>
    ¬ (Variant.Continued '_' earlier ∧ Variant.Preceded '_' later)

instance (r : RootRequest) : Decidable r.Crossed :=
  inferInstanceAs (Decidable (¬ _))

theorem fragments_nodup {r : RootRequest} (accepted : r.problems.isEmpty = true) :
    ∀ axis ∈ r.fragments, axis.Nodup := by
  intro axis member
  rcases List.mem_map.mp member with ⟨option, inside, rfl⟩
  exact (OptionInput.accepted_values (r.accepted_option accepted inside)).2

end RootRequest

namespace Variant

/-- The SKUs that the options of a request stand for. -/
theorem map_sku_ofChoice (r : RootRequest) :
    ((choices (r.axes.map (·.2))).map (ofChoice id r.sku (r.axes.map (·.1)))).map (·.sku) =
      (choices r.fragments).map (joinSku r.sku) := by
  have lowered : r.fragments = (r.axes.map (·.2)).map (List.map Text.lowercase) := by
    simp only [RootRequest.fragments, RootRequest.axes, List.map_map, Function.comp_def]
  rw [lowered, choices_map, List.map_map, List.map_map]
  rfl

/-- Fragments that join to one text are the same where no options are crossed. -/
theorem eq_of_intercalate_eq {r : RootRequest} (uncrossed : ¬ r.Crossed) {p q : List String}
    (first : p ∈ choices r.fragments) (second : q ∈ choices r.fragments)
    (same : String.intercalate "_" p = String.intercalate "_" q) : p = q := by
  have lengths : p.length = q.length := by
    rw [length_of_mem_choices first, length_of_mem_choices second]
  have joined := congrArg String.toList ((joinSku_eq_iff "" lengths).mpr same)
  rw [toList_joinSku, toList_joinSku] at joined
  have markedSame : marked '_' (p.map String.toList) = marked '_' (q.map String.toList) := by
    simpa [marked, List.flatMap_map] using joined
  have inAxes {choice : List String} (chosen : choice ∈ choices r.fragments) :
      List.Forall₂ (· ∈ ·) (choice.map String.toList)
        (r.fragments.map (List.map String.toList)) := by
    rw [← mem_choices_iff, choices_map]
    exact List.mem_map_of_mem chosen
  have lists := eq_of_marked_eq (inAxes first) (inAxes second) (not_not.mp uncrossed) markedSame
  exact List.map_injective_iff.mpr (fun _ _ => String.toList_inj.mp) lists

/-- When the SKUs of an accepted request differ.  They do exactly if no two choices of lowercased
values join to the same text, and for that it is enough that no options are crossed. -/
theorem skus_nodup_iff (request : Accepted RootRequest.problems) {n : Nat}
    (limited : ensureLimit request.val.optionSizes = .ok n) :
    ∃ variants, build id request.val.sku request.val.axes = .ok variants ∧
      ((variants.map (·.sku)).Nodup ↔
        ∀ p ∈ choices request.val.fragments, ∀ q ∈ choices request.val.fragments,
          String.intercalate "_" p = String.intercalate "_" q → p = q) ∧
      (¬ request.val.Crossed → (variants.map (·.sku)).Nodup) := by
  rcases request with ⟨r, accepted⟩
  have sizes : r.axes.map (·.2.length) = r.optionSizes := by
    simp only [RootRequest.axes, RootRequest.optionSizes, List.map_map, Function.comp_def]
  have distinct : ((choices r.fragments).map (joinSku r.sku)).Nodup ↔
      ∀ p ∈ choices r.fragments, ∀ q ∈ choices r.fragments,
        String.intercalate "_" p = String.intercalate "_" q → p = q := by
    rw [List.nodup_map_iff_inj_on (choices_nodup (r.fragments_nodup accepted))]
    refine forall₄_congr fun p first q second => ?_
    rw [joinSku_eq_iff]
    rw [length_of_mem_choices first, length_of_mem_choices second]
  refine ⟨_, by rw [build_eq, sizes, limited]; rfl, ?_⟩
  rw [map_sku_ofChoice]
  exact ⟨distinct, fun uncrossed => distinct.mpr fun p first q second same =>
    eq_of_intercalate_eq uncrossed first second same⟩

/-- A shirt in two colours and two sizes, which passes every check, has four different SKUs. -/
theorem shirt_skus_nodup :
    ∃ request : Accepted RootRequest.problems,
      ensureLimit request.val.optionSizes = .ok 4 ∧ ¬ request.val.Crossed ∧
      ∃ variants, build id request.val.sku request.val.axes = .ok variants ∧
        (variants.map (·.sku)).Nodup := by
  let request : Accepted RootRequest.problems :=
    ⟨.ofOptions "Shirt" "shirt" [⟨"color", ["Red", "dark_red"]⟩, ⟨"size", ["S", "M"]⟩],
      by decide +kernel⟩
  have limited : ensureLimit request.val.optionSizes = .ok 4 := rfl
  have uncrossed : ¬ request.val.Crossed := by decide +kernel
  rcases skus_nodup_iff request limited with ⟨variants, built, _, distinct⟩
  exact ⟨request, limited, uncrossed, variants, built, distinct uncrossed⟩

/-- Two choices of values from a request that passes every check join to one SKU: `x` with `y_z`, and
`x_y` with `z`. -/
theorem skus_collide :
    ∃ request : Accepted RootRequest.problems,
      Rule.uniqueNames (request.val.options.map (·.name)) = .ok () ∧
      ensureLimit request.val.optionSizes = .ok 4 ∧
      ∃ variants, build id request.val.sku request.val.axes = .ok variants ∧
        ¬ (variants.map (·.sku)).Nodup := by
  let request : Accepted RootRequest.problems :=
    ⟨.ofOptions "Shirt" "shirt" [⟨"cut", ["x", "x_y"]⟩, ⟨"size", ["y_z", "z"]⟩],
      by decide +kernel⟩
  refine ⟨request, Rule.uniqueNames_eq_ok_iff.mpr (by decide), rfl, _, rfl, ?_⟩
  decide +kernel

end Variant
end Shop
