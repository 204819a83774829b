import Shop.Json.Record

/-!
# Members of what was read

A node that is read as a record carries the members of the record: an object under their names, a
list in their places.  Whatever order an object has and whatever else it holds, the record is built
from these members alone.
-/

namespace Shop
namespace Json

/-- The first of several members that has a name. -/
def memberOf? (name : String) : List (Except Fault String × Node) → Option Node
  | [] => none
  | (.ok key, node) :: members => if key = name then some node else memberOf? name members
  | (.error _, _) :: members => memberOf? name members

/-- The node that stands for a member of a record with these names. -/
def Node.member? (names : List String) (name : String) : Node → Option Node
  | .object members _ => memberOf? name members
  | .list nodes _ => (names.zip nodes).lookup name
  | _ => none

/-- What is read of a member that may be absent or null. -/
def Asks (member : Option Node) (reader : Reader α) (asked : Option α) : Prop :=
  match member with
  | none | some .null => asked = none
  | some node => ∃ value, reader node = .ok value ∧ asked = some value

/-- A sequence of two readings succeeds if both do. -/
theorem bind_eq_ok {result : Except ε α} {next : α → Except ε β} {b : β} :
    (result >>= next) = .ok b ↔ ∃ a, result = .ok a ∧ next a = .ok b := by
  cases result <;> simp [bind, Except.bind]

namespace Record

variable {fields : List Field} {unknowns : Unknowns}

/-- Of the members that a record names, a scan finds each under its name. -/
theorem lookup_scan {known others found rest : List (String × Node)}
    {members : List (Except Fault String × Node)} {ending : Ending}
    (scanned : scan fields unknowns known others members ending = .ok (found, rest))
    {name : String} (named : ∃ field ∈ fields, field.name = name) :
    found.lookup name = (known.lookup name <|> memberOf? name members) := by
  induction members generalizing known others with
  | nil =>
    have same : found = known := by
      unfold scan at scanned
      split at scanned
      · split at scanned <;> cases scanned
      · rcases bind_eq_ok.mp scanned with ⟨_, _, returned⟩
        cases returned
        rfl
      all_goals contradiction
    rw [same, memberOf?]
    exact (Option.orElse_eq_or.trans Option.or_none).symm
  | cons member members inductionHypothesis =>
    rcases member with ⟨fault | key, node⟩
    · cases scanned
    · unfold scan at scanned
      cases field : fields.find? (·.name == key) with
      | none =>
        simp only [field] at scanned
        rcases bind_eq_ok.mp scanned with ⟨_, _, scanned⟩
        have other : key ≠ name := by
          rcases named with ⟨member, inside, rfl⟩
          intro same
          exact List.find?_eq_none.mp field member inside (beq_iff_eq.mpr same.symm)
        rw [inductionHypothesis scanned, memberOf?, if_neg other]
      | some field' =>
        simp only [field] at scanned
        split at scanned
        · cases scanned
        · rename_i fresh
          rcases bind_eq_ok.mp scanned with ⟨_, _, scanned⟩
          rw [inductionHypothesis scanned, memberOf?, List.lookup_cons]
          by_cases same : key = name
          · subst same
            rw [Option.not_isSome_iff_eq_none.mp fresh]
            simp
          · have other : (name == key) = false := beq_eq_false_iff_ne.mpr (Ne.symm same)
            rw [if_neg same, other]

/-- The values of a list are given to the members in their order. -/
theorem zipItems_ok {expected : String} {position : Nat} {nodes : List Node} {ending : Ending}
    {known : List (String × Node)}
    (zipped : zipItems expected position fields nodes ending = .ok known) :
    known = (fields.map (·.name)).zip nodes := by
  induction fields generalizing position nodes known with
  | nil =>
    unfold zipItems at zipped
    split at zipped <;> first | contradiction | cases zipped
    rfl
  | cons field fields inductionHypothesis =>
    cases nodes with
    | nil =>
      rcases bind_eq_ok.mp zipped with ⟨_, _, zipped⟩
      split at zipped
      · rw [inductionHypothesis zipped]
        exact List.zip_nil_right
      · cases zipped
    | cons node nodes =>
      rcases bind_eq_ok.mp zipped with ⟨_, _, zipped⟩
      rcases bind_eq_ok.mp zipped with ⟨rest, zippedRest, returned⟩
      cases returned
      rw [inductionHypothesis zippedRest]
      rfl

/-- A record is built from its members. -/
theorem build_of_reader {record : Record α} {name : String} {node : Node} {a : α}
    (read : record.reader name node = .ok a) :
    ∃ nodes, record.build nodes = .ok a ∧ ∀ field ∈ record.fields,
      nodes field.name = node.member? (record.fields.map (·.name)) field.name := by
  cases node with
  | object members ending =>
    rcases bind_eq_ok.mp read with ⟨⟨found, rest⟩, scanned, built⟩
    exact ⟨_, built, fun field inside => lookup_scan scanned ⟨field, inside, rfl⟩⟩
  | list nodes ending =>
    rcases bind_eq_ok.mp read with ⟨found, zipped, built⟩
    rw [zipItems_ok zipped] at built
    exact ⟨_, built, fun _ _ => rfl⟩
  | _ =>
    rcases bind_eq_ok.mp read with ⟨_, _, failed⟩
    cases failed

/-! ## Records put together -/

theorem build_seq {f : Record (α → β)} {a : Record α} {nodes : String → Option Node} {b : β} :
    (f <*> a).build nodes = .ok b ↔
      ∃ g, f.build nodes = .ok g ∧ ∃ x, a.build nodes = .ok x ∧ g x = b := by
  refine bind_eq_ok.trans (exists_congr fun g => and_congr_right fun _ => ?_)
  refine bind_eq_ok.trans (exists_congr fun x => and_congr_right fun _ => ?_)
  exact iff_of_eq (Except.ok.injEq _ _)

/-- A member that may be absent or null is read as it stands. -/
theorem asks_of_build {name : String} {reader : Reader α} {nodes : String → Option Node}
    {asked : Option α} (built : (optional name reader).build nodes = .ok asked) :
    Asks (nodes name) reader asked := by
  simp only [optional] at built
  cases found : nodes name with
  | none =>
    rw [found] at built
    cases built
    rfl
  | some node =>
    rw [found] at built
    cases node with
    | null =>
      cases built
      rfl
    | _ =>
      simp only [under, Reader.optional] at built
      rcases read : reader _ with e | value
      · rw [read] at built
        cases built
      · rw [read] at built
        cases built
        exact ⟨value, read, rfl⟩

end Record
end Json
end Shop
