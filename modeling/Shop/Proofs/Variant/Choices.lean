import Mathlib.Algebra.BigOperators.Ring.List
import Mathlib.Algebra.Ring.Nat
import Mathlib.Data.List.Forall2
import Shop.Variant.Choice

/-!
# The choices from an option set

`choices` lists every choice of one element from each list.  Here it is compared with something that
knows no elements at all: the lists of positions that stay below given sizes.  These positions stand
in strictly rising lexicographic order, so each occurs once and the last one moves fastest, and the
choices are what they select.
-/

namespace Shop
namespace Variant

/-! ## Membership and number -/

/-- A choice takes one element from each list, in the order of the lists. -/
theorem mem_choices_iff {axes : List (List α)} {choice : List α} :
    choice ∈ choices axes ↔ List.Forall₂ (· ∈ ·) choice axes := by
  induction axes generalizing choice with
  | nil => simp [choices]
  | cons axis axes inductionHypothesis =>
    simp only [choices, List.mem_flatMap, List.mem_map]
    constructor
    · rintro ⟨a, member, rest, chosen, rfl⟩
      exact .cons member (inductionHypothesis.mp chosen)
    · intro chosen
      rcases chosen with _ | ⟨member, rest⟩
      exact ⟨_, member, _, inductionHypothesis.mpr rest, rfl⟩

theorem length_of_mem_choices {axes : List (List α)} {choice : List α}
    (chosen : choice ∈ choices axes) : choice.length = axes.length :=
  (mem_choices_iff.mp chosen).length_eq

/-- There are as many choices as the product of the sizes: one without options, none if an option is
empty. -/
theorem length_choices (axes : List (List α)) :
    (choices axes).length = (axes.map List.length).prod := by
  induction axes with
  | nil => rfl
  | cons axis axes inductionHypothesis =>
    simp only [choices, List.length_flatMap, List.length_map, inductionHypothesis, List.map_cons,
      List.prod_cons, List.map_const', List.sum_replicate_nat]

theorem choices_map (f : α → β) (axes : List (List α)) :
    choices (axes.map (List.map f)) = (choices axes).map (List.map f) := by
  induction axes with
  | nil => rfl
  | cons axis axes inductionHypothesis =>
    simp only [List.map_cons, choices, inductionHypothesis, List.flatMap_map, List.map_flatMap,
      List.map_map, Function.comp_def, List.map_cons]

/-- There is nothing to choose exactly if an option is empty. -/
theorem choices_eq_nil_iff {axes : List (List α)} : choices axes = [] ↔ [] ∈ axes := by
  rw [← List.length_eq_zero_iff, length_choices, List.prod_eq_zero_iff, List.mem_map]
  simp only [List.length_eq_zero_iff, exists_eq_right]

/-! ## Positions -/

/-- The lists of positions that select from lists of given sizes. -/
def places (sizes : List Nat) : List (List Nat) := choices (sizes.map List.range)

/-- Exactly the lists of positions within the sizes are listed. -/
theorem mem_places_iff {sizes place : List Nat} :
    place ∈ places sizes ↔ List.Forall₂ (· < ·) place sizes := by
  simp only [places, mem_choices_iff, List.forall₂_map_right_iff, List.mem_range]

theorem length_places (sizes : List Nat) : (places sizes).length = sizes.prod := by
  simp only [places, length_choices, List.map_map, Function.comp_def, List.length_range,
    List.map_id']

/-- The positions rise strictly in lexicographic order. -/
theorem places_pairwise_lt (sizes : List Nat) : (places sizes).Pairwise (· < ·) := by
  induction sizes with
  | nil => simp [places, choices]
  | cons size sizes inductionHypothesis =>
    change ((List.range size).flatMap fun i => (places sizes).map (i :: ·)).Pairwise (· < ·)
    rw [List.pairwise_flatMap]
    constructor
    · intro i _
      rw [List.pairwise_map]
      exact inductionHypothesis.imp fun less => List.cons_lt_cons_iff.mpr (.inr ⟨rfl, less⟩)
    · refine List.pairwise_lt_range.imp fun {i j} less => ?_
      intro first firstMember second secondMember
      rcases List.mem_map.mp firstMember with ⟨_, _, rfl⟩
      rcases List.mem_map.mp secondMember with ⟨_, _, rfl⟩
      exact List.cons_lt_cons_iff.mpr (.inl less)

private theorem map_getElem?_range (axis : List α) :
    (List.range axis.length).map (axis[·]?) = axis.map some := by
  apply List.ext_getElem?
  intro i
  by_cases inside : i < axis.length
  · simp [inside]
  · simp [inside]

/-- The choices are what the positions select, in the order of the positions. -/
theorem map_zipWith_places (axes : List (List α)) :
    (places (axes.map List.length)).map (List.zipWith (fun axis i => axis[i]?) axes) =
      (choices axes).map (List.map some) := by
  induction axes with
  | nil => rfl
  | cons axis axes inductionHypothesis =>
    calc
      (places ((axis :: axes).map List.length)).map
            (List.zipWith (fun axis i => axis[i]?) (axis :: axes)) =
          (List.range axis.length).flatMap fun i =>
            ((places (axes.map List.length)).map
              (List.zipWith (fun axis i => axis[i]?) axes)).map (axis[i]? :: ·) := by
        simp only [places, List.map_cons, choices, List.map_flatMap, List.map_map,
          Function.comp_def, List.zipWith_cons_cons]
      _ = ((List.range axis.length).map (axis[·]?)).flatMap fun head =>
            ((choices axes).map (List.map some)).map (head :: ·) := by
        rw [inductionHypothesis, List.flatMap_map]
      _ = (choices (axis :: axes)).map (List.map some) := by
        rw [map_getElem?_range]
        simp only [choices, List.flatMap_map, List.map_flatMap, List.map_map, Function.comp_def,
          List.map_cons]

end Variant
end Shop
