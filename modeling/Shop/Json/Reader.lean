import Shop.Json.Document
import Shop.Json.Value
import Shop.Time.Rfc3339

/-!
# Reading values out of documents

A reader takes a node and either yields a value or says why it cannot: the document is broken at
this place, the node is of the wrong kind, a number leaves its range, a member is missing or given
twice.  Every error carries the path from the root to the place where it arose.

Records are read member by member in the order of the document.  A member whose name the record
does not know is skipped.  Only after the last member are the names missed, in the order of the
record.  A record without nested records may also be given as the list of its values.
-/

namespace Shop
namespace Json

/-- One step from a node to a node inside it. -/
inductive Segment where
  | field (name : String)
  | index (position : Nat)
  | unknown
  deriving Repr, DecidableEq

/-- What was found in place of a value of the wanted kind. -/
inductive Found where
  | null
  | bool (value : Bool)
  | int (value : Int)
  | float (value : Float)
  | text (value : String)
  | list
  | object

def Found.words : Found → String
  | .null => "null"
  | .bool true => "boolean `true`"
  | .bool false => "boolean `false`"
  | .int n => "integer `" ++ toString n ++ "`"
  | .float x => "floating point `" ++ floatText x ++ "`"
  | .text s => "string " ++ Text.quoted s
  | .list => "sequence"
  | .object => "map"

/-- Why a document does not hold the wanted value. -/
inductive Cause where
  | fault (fault : Fault)
  | wrongKind (found : Found) (expected : String)
  | wrongValue (found : Found) (expected : String)
  | wrongLength (length : Nat) (expected : String)
  | missingField (name : String)
  | duplicateField (name : String)
  | badTimestamp (fault : Time.Fault)

def Cause.message : Cause → String
  | .fault f => f.message
  | .wrongKind found expected => "invalid type: " ++ found.words ++ ", expected " ++ expected
  | .wrongValue found expected => "invalid value: " ++ found.words ++ ", expected " ++ expected
  | .wrongLength n expected => "invalid length " ++ toString n ++ ", expected " ++ expected
  | .missingField name => "missing field `" ++ name ++ "`"
  | .duplicateField name => "duplicate field `" ++ name ++ "`"
  | .badTimestamp f => f.message

/-- Whether a text is no JSON, stops too early, or is JSON of the wrong shape. -/
inductive Category where
  | malformed
  | unfinished
  | mismatch
  deriving Repr, DecidableEq

def Cause.category : Cause → Category
  | .fault f => if f.isEnd then .unfinished else .malformed
  | _ => .mismatch

/-- Why and where a document could not be read. -/
structure ReadError where
  path : List Segment
  cause : Cause

namespace ReadError

def here (cause : Cause) : ReadError := ⟨[], cause⟩

/-- The error seen from one step further out. -/
def under (segment : Segment) (e : ReadError) : ReadError := ⟨segment :: e.path, e.cause⟩

/-- The path in words: names joined with points, positions in brackets. -/
def pathText : List Segment → Bool → String
  | [], _ => ""
  | .field name :: rest, first => (if first then "" else ".") ++ name ++ pathText rest false
  | .index i :: rest, _ => "[" ++ toString i ++ "]" ++ pathText rest false
  | .unknown :: rest, first => (if first then "" else ".") ++ "?" ++ pathText rest false

/-- The message with the path in front, where anything is known of it. -/
def located (e : ReadError) : String :=
  if e.path.all (· == .unknown) then e.cause.message
  else pathText e.path true ++ ": " ++ e.cause.message

def message (e : ReadError) : String := e.cause.message

end ReadError

abbrev Reader (α : Type) := Node → Except ReadError α

/-- Put one step in front of the path of an error. -/
def under (segment : Segment) (result : Except ReadError α) : Except ReadError α :=
  result.mapError (·.under segment)

def failure (cause : Cause) : Except ReadError α := .error (.here cause)

/-! ## Skipping -/

mutual

/-- Pass over a node whose content is of no interest. -/
def skip : Node → Except Fault Unit
  | .null | .bool _ | .number _ | .text _ => .ok ()
  | .list items ending => do
    skipItems items
    skipEnding ending
  | .object members ending => do
    skipMembers members
    skipEnding ending
  | .broken faults => .error faults.skipping

def skipItems : List Node → Except Fault Unit
  | [] => .ok ()
  | item :: items => do
    skip item
    skipItems items

/-- Pass over the members of an object. -/
def skipMembers : List (Except Fault String × Node) → Except Fault Unit
  | [] => .ok ()
  | (_, value) :: members => do
    skip value
    skipMembers members

/-- Pass over the end of a list or object. -/
def skipEnding : Ending → Except Fault Unit
  | .closed | .inside => .ok ()
  | .cut faults => .error faults.skipping
  | .afterKey _ fault => .error fault

end

/-! ## Plain values -/

namespace Reader

/-- What stands at a node, as far as its first token shows it. -/
def found : Node → Except ReadError Found
  | .null => .ok .null
  | .bool b => .ok (.bool b)
  | .number (.ok (.int n)) => .ok (.int n)
  | .number (.ok (.float x)) => .ok (.float x)
  | .number (.error f) => failure (.fault f)
  | .text (.ok s) => .ok (.text s)
  | .text (.error f) => failure (.fault f)
  | .list _ _ => .ok .list
  | .object _ _ => .ok .object
  | .broken faults => failure (.fault faults.reading)

/-- Fail because the node is of the wrong kind, or broken. -/
def mismatch (expected : String) (node : Node) : Except ReadError α := do
  let f ← found node
  failure (.wrongKind f expected)

def text : Reader String
  | .text (.ok s) => .ok s
  | node => mismatch "a string" node

def bool : Reader Bool
  | .bool b => .ok b
  | node => mismatch "a boolean" node

def integer (range : Number.IntegerRange) (expected : String) : Reader Int
  | .number (.ok (.int n)) =>
    if range.holds n then .ok n else failure (.wrongValue (.int n) expected)
  | node => mismatch expected node

def int32 : Reader Int := integer Number.int32 "i32"

def int64 : Reader Int := integer Number.int64 "i64"

/-- The double nearest to a whole number. -/
def floatOfInt (n : Int) : Float :=
  if n < 0 then -n.natAbs.toUInt64.toFloat else n.natAbs.toUInt64.toFloat

def float : Reader Float
  | .number (.ok (.float x)) => .ok x
  | .number (.ok (.int n)) => .ok (floatOfInt n)
  | node => mismatch "f64" node

def timestamp : Reader Instant
  | .text (.ok s) =>
    match Instant.read s with
    | .ok t => .ok t
    | .error fault => failure (.badTimestamp fault)
  | node => mismatch "an RFC 3339 formatted date and time string" node

def optional (reader : Reader α) : Reader (Option α)
  | .null => .ok none
  | node => (reader node).map some

def itemsFrom (reader : Reader α) (position : Nat) : List Node → Except ReadError (List α)
  | [] => .ok []
  | node :: nodes => do
    let item ← under (.index position) (reader node)
    let rest ← itemsFrom reader (position + 1) nodes
    return item :: rest

/-- Fail if a list that is read on is cut.  What is wrong between two items belongs to the list. -/
def endOfItems : Ending → Except ReadError Unit
  | .cut faults => failure (.fault faults.reading)
  | _ => .ok ()

/-- Fail if an object that is read on is cut.  A key that cannot be read stands for the unknown
member that it opens, while a missing colon belongs to the object. -/
def endOfMembers : Ending → Except ReadError Unit
  | .cut faults => under .unknown (failure (.fault faults.reading))
  | .afterKey (.error fault) _ => under .unknown (failure (.fault fault))
  | .afterKey (.ok _) fault => failure (.fault fault)
  | _ => .ok ()

def list (reader : Reader α) : Reader (List α)
  | .list nodes ending => do
    let items ← itemsFrom reader 0 nodes
    endOfItems ending
    return items
  | node => mismatch "a sequence" node

end Reader

/-! ## Values of any shape -/

mutual

/-- Read whatever stands at a node.  `depth` bounds how many lists and objects may nest. -/
def any (depth : Nat) : Node → Except ReadError Json
  | .null => .ok .null
  | .bool b => .ok (.bool b)
  | .number (.ok (.int n)) => .ok (.int n)
  | .number (.ok (.float x)) => .ok (.float x)
  | .number (.error f) => failure (.fault f)
  | .text (.ok s) => .ok (.text s)
  | .text (.error f) => failure (.fault f)
  | .list items ending =>
    if depth ≤ 1 then failure (.fault .tooDeep)
    else do
      let values ← anyItems (depth - 1) 0 items
      Reader.endOfItems ending
      return .list values
  | .object members ending =>
    if depth ≤ 1 then failure (.fault .tooDeep)
    else do
      let values ← anyMembers (depth - 1) members
      Reader.endOfMembers ending
      return .object values
  | .broken faults => failure (.fault faults.reading)

def anyItems (depth position : Nat) : List Node → Except ReadError (List Json)
  | [] => .ok []
  | node :: nodes => do
    let value ← under (.index position) (any depth node)
    let values ← anyItems depth (position + 1) nodes
    return value :: values

def anyMembers (depth : Nat) :
    List (Except Fault String × Node) → Except ReadError (List (String × Json))
  | [] => .ok []
  | (.error fault, _) :: _ => under .unknown (failure (.fault fault))
  | (.ok key, node) :: members => do
    let value ← under (.field key) (any depth node)
    let values ← anyMembers depth members
    return (key, value) :: values

end

/-- How many lists and objects may nest in a document. -/
def depthLimit : Nat := 128

/-! ## Whole documents -/

/-- Read a whole document, which must hold nothing behind the value. -/
def readBytes (reader : Reader α) (bytes : ByteArray) : Except ReadError α := do
  let document := Document.read bytes
  let value ← reader document.root
  if document.complete then return value else failure (.fault .trailingText)

def readText (reader : Reader α) (text : String) : Except ReadError α :=
  readBytes reader text.toUTF8

/-- Read a text as a value of any shape, its members as they are written. -/
def parse (text : String) : Except ReadError Json :=
  readText (any depthLimit) text

end Json
end Shop
