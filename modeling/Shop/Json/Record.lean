import Shop.Json.Reader

/-!
# Records

Reading an object with known members into a structure.  A `Record` lists the members in the order
of the structure, each with a reader, and builds the structure from the nodes found.  Records are
put together member by member with `<*>`.
-/

namespace Shop
namespace Json

structure Field where
  name : String
  /-- Fails exactly where reading the member fails. -/
  check : Node → Except ReadError Unit
  mayEndBefore : Bool

/-- The members of a record, and how it is built from the nodes that carry their names. -/
structure Record (α : Type) where
  fields : List Field
  build : (String → Option Node) → Except ReadError α

namespace Record

protected def pure (a : α) : Record α := ⟨[], fun _ => .ok a⟩

protected def seq (f : Record (α → β)) (a : Unit → Record α) : Record β :=
  ⟨f.fields ++ (a ()).fields, fun nodes => do
    let f ← f.build nodes
    let a ← (a ()).build nodes
    return f a⟩

instance : Applicative Record where
  pure := Record.pure
  seq := Record.seq

def required (name : String) (reader : Reader α) : Record α :=
  ⟨[⟨name, fun node => (reader node).map fun _ => (), false⟩], fun nodes =>
    match nodes name with
    | some node => under (.field name) (reader node)
    | none => failure (.missingField name)⟩

def defaulted (name : String) (reader : Reader α) (default : α) : Record α :=
  ⟨[⟨name, fun node => (reader node).map fun _ => (), true⟩], fun nodes =>
    match nodes name with
    | some node => under (.field name) (reader node)
    | none => .ok default⟩

/-- A member that may be absent or `null`. -/
def optional (name : String) (reader : Reader α) : Record (Option α) :=
  ⟨[⟨name, fun node => (Reader.optional reader node).map fun _ => (), false⟩], fun nodes =>
    match nodes name with
    | some node => under (.field name) (Reader.optional reader node)
    | none => .ok none⟩

/-- What happens to members that the record does not name. -/
inductive Unknowns where
  | skipped
  /-- They are read, as values of any shape within a depth, and kept. -/
  | kept (depth : Nat)

/-- Meet a member that the record does not name. -/
def Unknowns.meet (unknowns : Unknowns) (node : Node) : Except ReadError Unit :=
  match unknowns with
  | .skipped => (skip node).mapError fun fault => .here (.fault fault)
  | .kept depth => (any depth node).map fun _ => ()

/-- Walk the members in the order of the document; `known` holds the named members already met and
`others` those without a name in the record, the last first. -/
def scan (fields : List Field) (unknowns : Unknowns) (known others : List (String × Node)) :
    List (Except Fault String × Node) → Ending →
      Except ReadError (List (String × Node) × List (String × Node))
  | [], .afterKey (.ok key) fault =>
    if fields.any (·.name == key) && (known.lookup key).isSome then failure (.duplicateField key)
    else failure (.fault fault)
  | [], ending => do
    Reader.endOfMembers ending
    return (known, others.reverse)
  | (.error fault, _) :: _, _ => under .unknown (failure (.fault fault))
  | (.ok key, node) :: members, ending =>
    match fields.find? (·.name == key) with
    | some field =>
      if (known.lookup key).isSome then failure (.duplicateField key)
      else do
        under (.field key) (field.check node)
        scan fields unknowns ((key, node) :: known) others members ending
    | none => do
      under (.field key) (unknowns.meet node)
      scan fields unknowns known ((key, node) :: others) members ending

def ofMembers (record : Record α) (members : List (Except Fault String × Node))
    (ending : Ending) : Except ReadError α := do
  let (known, _) ← scan record.fields .skipped [] [] members ending
  record.build (known.lookup ·)

/-- How a record of a number of members is called where it is given as a list. -/
def listWords (name : String) (count : Nat) : String :=
  "struct " ++ name ++ " with " ++ toString count ++
    (if count = 1 then " element" else " elements")

/-- Give the values of a list to the members one after the other; a list that ends before a member
without default is too short. -/
def zipItems (expected : String) (position : Nat) :
    List Field → List Node → Ending → Except ReadError (List (String × Node))
  | [], [], .cut faults => failure (.fault faults.leaving)
  | [], [], _ => .ok []
  | [], _ :: _, _ => failure (.fault .trailingText)
  | field :: fields, node :: nodes, ending => do
    under (.index position) (field.check node)
    let rest ← zipItems expected (position + 1) fields nodes ending
    return (field.name, node) :: rest
  | field :: fields, [], ending => do
    Reader.endOfItems ending
    if field.mayEndBefore then zipItems expected (position + 1) fields [] ending
    else failure (.wrongLength position expected)

def ofItems (record : Record α) (name : String) (nodes : List Node) (ending : Ending) :
    Except ReadError α := do
  let expected := listWords name record.fields.length
  let known ← zipItems expected 0 record.fields nodes ending
  record.build (known.lookup ·)

def reader (name : String) (record : Record α) : Reader α
  | .object members ending => record.ofMembers members ending
  | .list nodes ending => record.ofItems name nodes ending
  | node => Reader.mismatch ("struct " ++ name) node

/-- Read an object that holds the members of two records side by side.  The members of the inner
record are told apart only after the whole object has been read, so errors among them carry no
path. -/
def readerWithInner (name : String) (outer : Record (β → α)) (inner : Record β) : Reader α
  | .object members ending => do
    let (known, others) ← scan outer.fields (.kept (depthLimit - 1)) [] [] members ending
    let f ← outer.build (known.lookup ·)
    let part ← (do
      let (known, _) ← scan inner.fields .skipped [] []
        (others.map fun (key, node) => (.ok key, node)) .closed
      inner.build (known.lookup ·) : Except ReadError β).mapError fun e => .here e.cause
    return f part
  | node => Reader.mismatch ("struct " ++ name) node

end Record
end Json
end Shop
