import Mathlib.Data.List.Induction
import Shop.Catalog.Images

/-!
# Pictures that come again

Of the entries of a request with the same data only the first counts.  What is kept of the entries
is therefore these first ones in their order, each of them primary if any entry with its data is.
-/

namespace Shop
namespace ImageInput

/-- The entries whose data no earlier entry has. -/
def firsts : List ImageInput → List ImageInput
  | [] => []
  | input :: inputs => input :: (firsts inputs).filter (·.data ≠ input.data)

/-- An entry that is primary if any of several entries with its data is. -/
def marked (inputs : List ImageInput) (input : ImageInput) : ImageInput :=
  { input with isPrimary := inputs.any fun other => other.data == input.data && other.isPrimary }

/-! ## First entries -/

theorem mem_firsts {inputs : List ImageInput} {input : ImageInput} :
    input ∈ firsts inputs ↔ ∃ before after, inputs = before ++ input :: after ∧
      ∀ other ∈ before, other.data ≠ input.data := by
  induction inputs with
  | nil => simp [firsts]
  | cons head inputs inductionHypothesis =>
    simp only [firsts, List.mem_cons, List.mem_filter, decide_eq_true_eq, inductionHypothesis]
    constructor
    · rintro (rfl | ⟨⟨before, after, rfl, apart⟩, different⟩)
      · exact ⟨[], inputs, rfl, List.forall_mem_nil _⟩
      · exact ⟨head :: before, after, rfl, List.forall_mem_cons.mpr ⟨different.symm, apart⟩⟩
    · rintro ⟨before, after, split, apart⟩
      cases before with
      | nil => exact .inl (List.cons.inj split).1.symm
      | cons other before =>
        rcases List.cons.inj split with ⟨rfl, rfl⟩
        rcases List.forall_mem_cons.mp apart with ⟨different, apart⟩
        exact .inr ⟨⟨before, after, rfl, apart⟩, different.symm⟩

theorem mem_of_mem_firsts {inputs : List ImageInput} {input : ImageInput}
    (member : input ∈ firsts inputs) : input ∈ inputs := by
  rcases mem_firsts.mp member with ⟨before, after, rfl, _⟩
  exact List.mem_append_right _ List.mem_cons_self

/-- Some first entry has the data of any entry. -/
theorem exists_first {inputs : List ImageInput} {input : ImageInput} (member : input ∈ inputs) :
    ∃ first ∈ firsts inputs, first.data = input.data := by
  induction inputs with
  | nil => cases member
  | cons head inputs inductionHypothesis =>
    by_cases same : head.data = input.data
    · exact ⟨head, List.mem_cons_self, same⟩
    · rcases List.mem_cons.mp member with rfl | later
      · exact absurd rfl same
      · rcases inductionHypothesis later with ⟨first, inFirsts, own⟩
        refine ⟨first, List.mem_cons_of_mem _ (List.mem_filter.mpr ⟨inFirsts, ?_⟩), own⟩
        exact decide_eq_true fun again => same (again.symm.trans own)

/-- Entries before which no data comes again are all first. -/
theorem firsts_append {before : List ImageInput} (distinct : (before.map (·.data)).Nodup)
    (inputs : List ImageInput) :
    firsts (before ++ inputs) =
      before ++ (firsts inputs).filter fun input => input.data ∉ before.map (·.data) := by
  induction before with
  | nil => exact (List.filter_eq_self.mpr fun _ _ => by simp).symm
  | cons head before inductionHypothesis =>
    rw [List.map_cons, List.nodup_cons] at distinct
    have spared : before.filter (·.data ≠ head.data) = before :=
      List.filter_eq_self.mpr fun other inside =>
        decide_eq_true fun same => distinct.1 (List.mem_map.mpr ⟨other, inside, same⟩)
    rw [List.cons_append, firsts, inductionHypothesis distinct.2, List.filter_append, spared,
      List.filter_filter]
    simp [not_or]

/-- An entry at the end is a first one if no entry has its data. -/
theorem firsts_concat (inputs : List ImageInput) (input : ImageInput) :
    firsts (inputs ++ [input]) =
      if inputs.any (·.data == input.data) then firsts inputs else firsts inputs ++ [input] := by
  induction inputs with
  | nil => rfl
  | cons head inputs inductionHypothesis =>
    rw [List.cons_append, firsts, inductionHypothesis, List.any_cons]
    by_cases own : head.data = input.data
    · rw [beq_iff_eq.mpr own, Bool.true_or, if_pos rfl, firsts]
      split
      · rfl
      · simp [own]
    · rw [beq_eq_false_iff_ne.mpr own, Bool.false_or, firsts]
      split
      · rfl
      · simp [Ne.symm own]

/-! ## What is kept -/

/-- An entry that comes behind others marks those with its data. -/
theorem absorb_marked (inputs : List ImageInput) (input first : ImageInput) :
    (marked inputs first).absorb input = marked (inputs ++ [input]) first := by
  unfold absorb marked
  rw [List.any_append]
  by_cases same : first.data = input.data
  · simp [same]
  · simp [same, Ne.symm same]

theorem marked_self_of_new {inputs : List ImageInput} {input : ImageInput}
    (new : ∀ other ∈ inputs, other.data ≠ input.data) : marked (inputs ++ [input]) input = input := by
  have none : (inputs.any fun other => other.data == input.data && other.isPrimary) = false :=
    List.any_eq_false.mpr fun other inside => by simp [new other inside]
  simp [marked, none]

/-- The first entries are kept, each of them primary if any entry with its data is. -/
theorem dedupe_eq (inputs : List ImageInput) :
    dedupe inputs = (firsts inputs).map (marked inputs) := by
  induction inputs using List.reverseRecOn with
  | nil => rfl
  | append_singleton inputs input inductionHypothesis =>
    have known : ((firsts inputs).map (marked inputs)).any (·.data == input.data) =
        inputs.any (·.data == input.data) := by
      rw [List.any_map, Bool.eq_iff_iff, List.any_eq_true, List.any_eq_true]
      constructor
      · rintro ⟨first, inFirsts, same⟩
        exact ⟨first, mem_of_mem_firsts inFirsts, same⟩
      · rintro ⟨other, inside, same⟩
        rcases exists_first inside with ⟨first, inFirsts, own⟩
        exact ⟨first, inFirsts, beq_iff_eq.mpr (own.trans (beq_iff_eq.mp same))⟩
    rw [show dedupe (inputs ++ [input]) = insertNew (dedupe inputs) input from
      List.foldl_append, inductionHypothesis, insertNew, known, firsts_concat]
    split
    · rw [List.map_map]
      exact List.map_congr_left fun first _ => absorb_marked inputs input first
    · rename_i new
      have new : ∀ other ∈ inputs, other.data ≠ input.data := by simpa using new
      have unmarked : (firsts inputs).map (marked (inputs ++ [input])) =
          (firsts inputs).map (marked inputs) := by
        refine List.map_congr_left fun first inFirsts => ?_
        rw [← absorb_marked, absorb]
        exact if_neg (new first (mem_of_mem_firsts inFirsts))
      rw [List.map_append, unmarked, List.map_singleton, marked_self_of_new new]

example : dedupe [⟨"base64", "A", false⟩, ⟨"base64", "B", false⟩, ⟨"url", "A", true⟩] =
    [⟨"base64", "A", true⟩, ⟨"base64", "B", false⟩] := by
  decide

end ImageInput
end Shop
