import Shop.Number.Integer
import Shop.Page
import Shop.Text.Lowercase

/-!
# Addresses

The target of a request: a path of segments and a query of names with values, after the site where
they are sought if the target names one.  Bytes may stand in hexadecimal behind a percent sign; in
queries, a plus sign stands for a space.
-/

namespace Shop
namespace Http

def hexValue? (c : Char) : Option Nat :=
  if '0' ≤ c ∧ c ≤ '9' then some (c.toNat - 48)
  else if 'a' ≤ c ∧ c ≤ 'f' then some (c.toNat - 87)
  else if 'A' ≤ c ∧ c ≤ 'F' then some (c.toNat - 55)
  else none

/-- The byte that two digits stand for. -/
def hexByte? (a b : Char) : Option UInt8 := do
  return UInt8.ofNat (16 * (← hexValue? a) + (← hexValue? b))

/-- The bytes of a text, percent signs with their digits replaced by what they stand for. -/
def unescapeBytes (out : ByteArray) : List Char → ByteArray
  | [] => out
  | '%' :: a :: b :: rest =>
    match hexByte? a b with
    | some byte => unescapeBytes (out.push byte) rest
    | none => unescapeBytes (out.push '%'.toUInt8) (a :: b :: rest)
  | c :: rest => unescapeBytes (out ++ (String.singleton c).toUTF8) rest

/-- The text that a part of a path stands for, if it is one. -/
def unescape? (s : String) : Option String :=
  String.fromUTF8? (unescapeBytes .empty s.toList)

/-- The sign for bytes that are no text. -/
def replacement : String := "\uFFFD"

def textStart (bytes : ByteArray) : Nat → String
  | 0 => ""
  | size + 1 => (String.fromUTF8? (bytes.extract 0 (size + 1))).getD (textStart bytes size)

/-- The text that bytes stand for; where they are no text, a sign stands for the rest of them. -/
def readableText (bytes : ByteArray) : String :=
  match String.fromUTF8? bytes with
  | some s => s
  | none => textStart bytes bytes.size ++ replacement

def unescapeQuery (s : String) : String :=
  readableText (unescapeBytes .empty (s.toList.map fun c => if c = '+' then ' ' else c))

/-- Cut a text at the first character of a kind, which belongs to neither part. -/
def cutAt (mark : Char) (s : String) : String × Option String :=
  let before := s.toList.takeWhile (· != mark)
  match s.toList.dropWhile (· != mark) with
  | [] => (s, none)
  | _ :: after => (String.ofList before, some (String.ofList after))

/-- The target of a request in its parts. -/
structure Target where
  site : String
  path : String
  query : Option String
  deriving Repr, DecidableEq

def isSchemeChar (c : Char) : Bool :=
  c.isAlphanum || c == '+' || c == '-' || c == '.'

def splitSite (target : String) : Option (String × String) :=
  let cs := target.toList
  match cs.takeWhile isSchemeChar, cs.dropWhile isSchemeChar with
  | scheme@(_ :: _), ':' :: '/' :: '/' :: rest =>
    let lower := Text.asciiLowercase (String.ofList scheme)
    let shown := if lower = "http" ∨ lower = "https" then lower else String.ofList scheme
    let isHostChar (c : Char) := c != '/' && c != '?'
    some (shown ++ "://" ++ String.ofList (rest.takeWhile isHostChar),
      String.ofList (rest.dropWhile isHostChar))
  | _, _ => none

/-- Read a target.  What stands behind a number sign is dropped.  A target that names a site has a
path even if none is written, one that is a bare host has none. -/
def Target.read (target : String) : Target :=
  let whole := (cutAt '#' target).1
  let within (site text : String) : Target :=
    let (path, query) := cutAt '?' text
    ⟨site, if path = "" then "/" else path, query⟩
  match whole.toList.head?, splitSite whole with
  | some '/', _ => within "" whole
  | _, some (site, rest) => within site rest
  | _, none => if whole = "*" then within "" whole else ⟨"", "", none⟩

def queryPairs (query : String) : List (String × String) :=
  ((query.splitOn "&").filter (· != "")).map fun pair =>
    let (name, value) := cutAt '=' pair
    (unescapeQuery name, unescapeQuery (value.getD ""))

/-- Why a query does not name a page. -/
inductive QueryFault where
  | duplicate (name : String)
  | badNumber (name : String) (fault : Number.IntegerFault)
  deriving Repr, DecidableEq

def QueryFault.text : QueryFault → String
  | .duplicate name => "duplicate field `" ++ name ++ "`"
  | .badNumber name fault => name ++ ": " ++ fault.message

/-- Read one of the two numbers of a page, where it may stand once. -/
def readOnce (name value : String) (seen : Option Int) : Except QueryFault (Option Int) :=
  if seen.isSome then .error (.duplicate name)
  else match Number.int64.read value with
    | .ok n => .ok (some n)
    | .error fault => .error (.badNumber name fault)

/-- Read the numbers of a page from pairs; other names are passed over. -/
def readPage (number limit : Option Int) : List (String × String) → Except QueryFault Page
  | [] => .ok (.of number limit)
  | (name, value) :: pairs =>
    if name = "page" then do readPage (← readOnce name value number) limit pairs
    else if name = "limit" then do readPage number (← readOnce name value limit) pairs
    else readPage number limit pairs

def pageOf (query : String) : Except QueryFault Page := readPage none none (queryPairs query)

end Http
end Shop
