import Mathlib.Tactic.ByContra
import Shop.Catalog.Request

/-!
# What accepted requests keep

A request is accepted when the tree of its problems is empty.  The lemmas here read off an empty
tree that the rule behind each of its branches is kept.
-/

namespace Shop

namespace Problems

theorem check_eq_nil_iff {name : String} {problem : Option Problem} :
    check name problem = [] ↔ problem = none := by
  cases problem <;> simp [check]

/-- A member that may be left out passes if its rule finds no problem wherever it is there. -/
theorem checkSome_eq_nil_iff {name : String} {rule : α → Option Problem} {value : Option α} :
    checkSome name rule value = [] ↔ ∀ given ∈ value, rule given = none := by
  unfold checkSome
  rw [check_eq_nil_iff]
  cases value <;> simp

/-- A list of items passes exactly if every item does. -/
theorem checkItems_eq_nil_iff {name : String} {rules : α → Problems} {items : List α} :
    checkItems name rules items = [] ↔ ∀ item ∈ items, (rules item).isEmpty = true := by
  unfold checkItems
  split
  · rename_i found
    rw [List.filterMap_eq_nil_iff] at found
    refine iff_of_true rfl fun item member => ?_
    rcases List.mem_iff_getElem?.mp member with ⟨i, indexed⟩
    have passed := found (item, i) (List.mk_mem_zipIdx_iff_getElem?.mpr indexed)
    by_contra failed
    simp [failed] at passed
  · rename_i found
    refine iff_of_false (List.cons_ne_nil _ _) fun passed => found ?_
    rw [List.filterMap_eq_nil_iff]
    rintro ⟨item, i⟩ indexed
    simp [passed item (List.mem_of_getElem? (List.mk_mem_zipIdx_iff_getElem?.mp indexed))]

end Problems

namespace Rule

/-- Nothing is repeated exactly if the keys differ from each other and from those seen before. -/
theorem firstRepeated_eq_none_iff {key : String → String} {seen texts : List String} :
    firstRepeated key seen texts = none ↔
      (texts.map key).Nodup ∧ ∀ text ∈ texts, key text ∉ seen := by
  induction texts generalizing seen with
  | nil => simp [firstRepeated]
  | cons text texts inductionHypothesis =>
    by_cases repeated : key text ∈ seen
    · simp [firstRepeated, repeated]
    · simp only [firstRepeated, List.contains_eq_mem, repeated, decide_false, Bool.false_eq_true,
        if_false, inductionHypothesis, List.map_cons, List.nodup_cons, List.mem_map, List.mem_cons]
      constructor
      · rintro ⟨distinct, unseen⟩
        refine ⟨⟨?_, distinct⟩, ?_⟩
        · rintro ⟨other, member, same⟩
          exact unseen other member (.inl same)
        · rintro other (rfl | member)
          · exact repeated
          · exact fun inside => unseen other member (.inr inside)
      · rintro ⟨⟨fresh, distinct⟩, unseen⟩
        refine ⟨distinct, fun other member => ?_⟩
        rintro (same | inside)
        · exact fresh ⟨other, member, same⟩
        · exact unseen other (.inr member) inside

/-- Texts without a repetition are accepted as names. -/
theorem uniqueNames_eq_ok_iff {names : List String} :
    uniqueNames names = .ok () ↔ names.Nodup := by
  have distinct : firstRepeated id [] names = none ↔ names.Nodup := by
    simp [firstRepeated_eq_none_iff]
  unfold uniqueNames
  cases repeated : firstRepeated id [] names with
  | none => simpa using distinct.mp repeated
  | some name => simpa using mt distinct.mpr (by simp [repeated])

/-- The values of an option pass if none is blank and their lowercase forms differ. -/
theorem optionValues_eq_none_iff {values : List String} :
    optionValues values = none ↔
      (∀ value ∈ values, Text.isBlank value = false) ∧ (values.map Text.lowercase).Nodup := by
  unfold optionValues
  by_cases blank : values.any Text.isBlank = true
  · rw [if_pos blank]
    rcases List.any_eq_true.mp blank with ⟨value, member, isBlank⟩
    simp only [reduceCtorEq, false_iff, not_and]
    intro filled
    rw [filled value member] at isBlank
    cases isBlank
  · rw [if_neg blank, Option.map_eq_none_iff, firstRepeated_eq_none_iff]
    rw [Bool.not_eq_true, List.any_eq_false] at blank
    have filled : ∀ value ∈ values, Text.isBlank value = false :=
      fun value member => Bool.not_eq_true _ ▸ blank value member
    exact ⟨fun kept => ⟨filled, kept.1⟩, fun kept => ⟨kept.2, fun _ _ => List.not_mem_nil⟩⟩

end Rule

/-- A request for one piece a package, with options and without pictures; it says nothing more about
the root than it must. -/
def RootRequest.ofOptions (name sku : String) (options : List OptionInput) : RootRequest :=
  let none : Extent := ⟨0.0, 0.0, 0.0, 0.0⟩
  { name, sku, options
    subtitle := "", description := "", manufacturer := "", brand := "", taxable := false
    cost := 0.0, dimensions := ⟨none, none⟩, quantityPerPackage := 1
    offer := ⟨"", 0, 0.0, false, 0.0⟩, availableOn := .none, images := [] }

/-- Every option of an accepted request is accepted by itself. -/
theorem RootRequest.accepted_option {request : RootRequest}
    (accepted : request.problems.isEmpty = true) {option : OptionInput}
    (member : option ∈ request.options) : option.problems.isEmpty = true := by
  have entries := List.isEmpty_iff.mp accepted
  simp only [problems, Problems.entries, List.append_eq_nil_iff] at entries
  exact Problems.checkItems_eq_nil_iff.mp entries.1.2 option member

/-- The values of an accepted option are not blank, and no two agree when lowercased. -/
theorem OptionInput.accepted_values {option : OptionInput}
    (accepted : option.problems.isEmpty = true) :
    (∀ value ∈ option.values, Text.isBlank value = false) ∧
      (option.values.map Text.lowercase).Nodup := by
  have entries := List.isEmpty_iff.mp accepted
  simp only [problems, Problems.entries, List.append_eq_nil_iff] at entries
  exact Rule.optionValues_eq_none_iff.mp (Problems.check_eq_nil_iff.mp entries.2)

end Shop
