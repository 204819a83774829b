import Mathlib.Data.List.Forall2
import Mathlib.Data.Option.Basic
import Shop.Json.Value

/-!
# Values whose members stand in another order

The payload of an event holds the members of every object in the order of their keys, and so not in
the order in which a client is shown them.  It is the same value nevertheless: lists agree item by
item, and objects have the same under every key.  That no key is lost on the way takes that no object
has one twice.
-/

namespace Shop
namespace Json

/-- Two values that agree up to the order of members. -/
inductive Same : Json → Json → Prop
  | null : Same .null .null
  | bool (value : Bool) : Same (.bool value) (.bool value)
  | int (value : Int) : Same (.int value) (.int value)
  | float (value : Float) : Same (.float value) (.float value)
  | text (value : String) : Same (.text value) (.text value)
  | list {items others : List Json} (each : List.Forall₂ Same items others) :
    Same (.list items) (.list others)
  | object {members others : List (String × Json)}
    (under : ∀ key, Option.Rel Same (members.lookup key) (others.lookup key)) :
    Same (.object members) (.object others)

/-- A value in which no object has a key twice. -/
inductive Keyed : Json → Prop
  | null : Keyed .null
  | bool (value : Bool) : Keyed (.bool value)
  | int (value : Int) : Keyed (.int value)
  | float (value : Float) : Keyed (.float value)
  | text (value : String) : Keyed (.text value)
  | list {items : List Json} (each : ∀ item ∈ items, Keyed item) : Keyed (.list items)
  | object {members : List (String × Json)} (distinct : (members.map (·.1)).Nodup)
    (each : ∀ member ∈ members, Keyed member.2) : Keyed (.object members)

attribute [simp] Keyed.null Keyed.bool Keyed.int Keyed.float Keyed.text

@[simp]
theorem keyed_list_iff {items : List Json} :
    (list items).Keyed ↔ ∀ item ∈ items, item.Keyed := by
  constructor
  · intro keyed
    cases keyed
    assumption
  · exact .list

@[simp]
theorem keyed_object_iff {members : List (String × Json)} :
    (object members).Keyed ↔
      (members.map (·.1)).Nodup ∧ ∀ member ∈ members, member.2.Keyed := by
  constructor
  · intro keyed
    cases keyed with
    | object distinct each => exact ⟨distinct, each⟩
  · rintro ⟨distinct, each⟩
    exact .object distinct each

@[simp]
theorem Keyed.ofOption {f : α → Json} (keyed : ∀ a, (f a).Keyed) (found : Option α) :
    (Json.ofOption f found).Keyed := by
  cases found with
  | none => exact .null
  | some a => exact keyed a

/-! ## Sorting members -/

theorem lookup_member (key k : String) (value : Json) (members : List (String × Json)) :
    ((k, value) :: members).lookup key = if key = k then some value else members.lookup key := by
  rw [List.lookup_cons]
  by_cases same : key = k
  · rw [if_pos same, beq_iff_eq.mpr same]
  · rw [if_neg same, beq_eq_false_iff_ne.mpr same]

/-- A member that is put in its place stands under its key, and all others stand where they did. -/
theorem lookup_insertMember (key other : String) (value : Json) (members : List (String × Json)) :
    (insertMember key value members).lookup other =
      if other = key then some value else members.lookup other := by
  induction members with
  | nil => exact lookup_member other key value []
  | cons member members inductionHypothesis =>
    rcases member with ⟨k, v⟩
    unfold insertMember
    by_cases before : key < k
    · rw [if_pos before, lookup_member]
    · rw [if_neg before]
      by_cases found : key = k
      · subst found
        rw [if_pos rfl, lookup_member, lookup_member]
        split <;> rfl
      · rw [if_neg found, lookup_member, inductionHypothesis, lookup_member]
        by_cases same : other = key
        · subst same
          rw [if_neg found, if_pos rfl, if_pos rfl]
        · rw [if_neg same, if_neg same]

theorem sortedItems_eq_map (items : List Json) : sortedItems items = items.map sorted := by
  induction items with
  | nil => rfl
  | cons item items inductionHypothesis =>
    rw [sortedItems, inductionHypothesis, List.map_cons]

/-- Of members with different keys, each stands sorted under its key in the end. -/
theorem lookup_sortedMembers {members : List (String × Json)}
    (distinct : (members.map (·.1)).Nodup) (done : List (String × Json)) (key : String) :
    (sortedMembers done members).lookup key =
      ((members.lookup key).map sorted).or (done.lookup key) := by
  induction members generalizing done with
  | nil => rfl
  | cons member members inductionHypothesis =>
    rcases member with ⟨k, v⟩
    rcases List.nodup_cons.mp distinct with ⟨fresh, distinct⟩
    rw [sortedMembers, inductionHypothesis distinct, lookup_insertMember, lookup_member]
    by_cases same : key = k
    · subst same
      have gone : members.lookup key = none := by
        refine List.lookup_eq_none_iff.mpr fun member inRest => bne_iff_ne.mpr fun same => fresh ?_
        exact List.mem_map.mpr ⟨member, inRest, same.symm⟩
      simp [gone]
    · simp [same]

/-- A value is the same after its members were sorted. -/
theorem Keyed.sorted_same {value : Json} (keyed : value.Keyed) : value.sorted.Same value := by
  induction keyed with
  | null => exact .null
  | bool value => exact .bool value
  | int value => exact .int value
  | float value => exact .float value
  | text value => exact .text value
  | @list items each inductionHypothesis =>
    rw [sorted, sortedItems_eq_map]
    refine .list (List.forall₂_map_left_iff.mpr ?_)
    exact List.forall₂_same.mpr inductionHypothesis
  | @object members distinct each inductionHypothesis =>
    rw [sorted]
    refine .object fun key => ?_
    rw [lookup_sortedMembers distinct, List.lookup_nil, Option.or_none]
    cases found : members.lookup key with
    | none => exact .none
    | some value =>
      rcases List.lookup_eq_some_iff.mp found with ⟨before, after, rfl, _⟩
      exact .some (inductionHypothesis (key, value) (List.mem_append_right _ List.mem_cons_self))

end Json
end Shop
