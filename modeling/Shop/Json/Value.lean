import Shop.Number.Shortest
import Shop.Text.Quoted

/-!
# JSON values

The values that responses, events and payloads are made of, and their compact text.  Members keep
the order in which they were written; `Json.sorted` puts them in the order of their keys, each key
once, which is the form in which a payload of unknown shape is kept.
-/

namespace Shop

/-- A JSON value.  Whole numbers and doubles are kept apart, as their texts are. -/
inductive Json where
  | null
  | bool (value : Bool)
  | int (value : Int)
  | float (value : Float)
  | text (value : String)
  | list (items : List Json)
  | object (members : List (String × Json))
  deriving Inhabited

namespace Json

/-- Doubles always show a point or an exponent, stay positional between `10 ^ -5` and `10 ^ 16`,
and write the sign of every exponent. -/
def floatLayout : Number.Layout := ⟨16, 4, ".0", "+"⟩

def floatText (x : Float) : String :=
  floatLayout.writeFloat "null" x

/-- The four hexadecimal digits of a `\u` escape. -/
def escapeDigits (n : Nat) : List Char :=
  let ds := Nat.toDigits 16 n
  List.replicate (4 - ds.length) '0' ++ ds

/-- One character inside a JSON string. -/
def escapeChar (c : Char) : List Char :=
  if c = '"' then ['\\', '"']
  else if c = '\\' then ['\\', '\\']
  else if 0x20 ≤ c.toNat then [c]
  else if c = '\n' then ['\\', 'n']
  else if c = '\r' then ['\\', 'r']
  else if c = '\t' then ['\\', 't']
  else if c.toNat = 0x08 then ['\\', 'b']
  else if c.toNat = 0x0C then ['\\', 'f']
  else '\\' :: 'u' :: escapeDigits c.toNat

def pushEscaped (out : String) : List Char → String
  | [] => out
  | c :: cs => pushEscaped ((escapeChar c).foldl String.push out) cs

def pushString (out : String) (s : String) : String :=
  (pushEscaped (out.push '"') s.toList).push '"'

mutual

/-- Append the compact text of a value. -/
def push (out : String) : Json → String
  | .null => out ++ "null"
  | .bool true => out ++ "true"
  | .bool false => out ++ "false"
  | .int n => out ++ toString n
  | .float x => out ++ floatText x
  | .text s => pushString out s
  | .list items => (pushItems (out.push '[') true items).push ']'
  | .object members =>
    (pushMembers (out.push (Char.ofNat 0x7B)) true members).push (Char.ofNat 0x7D)

/-- Append the items of a list, separated by commas. -/
def pushItems (out : String) (first : Bool) : List Json → String
  | [] => out
  | item :: items => pushItems (push (if first then out else out.push ',') item) false items

/-- Append the members of an object, separated by commas. -/
def pushMembers (out : String) (first : Bool) : List (String × Json) → String
  | [] => out
  | (key, value) :: members =>
    let start := pushString (if first then out else out.push ',') key
    pushMembers (push (start.push ':') value) false members

end

def compact (value : Json) : String :=
  push "" value

/-- Put a member at its place among members in the order of their keys, replacing one of the same
key. -/
def insertMember (key : String) (value : Json) : List (String × Json) → List (String × Json)
  | [] => [(key, value)]
  | (k, v) :: members =>
    if key < k then (key, value) :: (k, v) :: members
    else if key = k then (key, value) :: members
    else (k, v) :: insertMember key value members

mutual

/-- The value with the members of every object in the order of their keys; of members of one key
the last stays. -/
def sorted : Json → Json
  | .list items => .list (sortedItems items)
  | .object members => .object (sortedMembers [] members)
  | value => value

def sortedItems : List Json → List Json
  | [] => []
  | item :: items => sorted item :: sortedItems items

def sortedMembers (done : List (String × Json)) : List (String × Json) → List (String × Json)
  | [] => done
  | (key, value) :: members => sortedMembers (insertMember key (sorted value) done) members

end

def member? (key : String) : Json → Option Json
  | .object members => members.lookup key
  | _ => none

def ofOption (f : α → Json) : Option α → Json
  | none => .null
  | some a => f a

end Json
end Shop
