import Shop.Text.Lowercase

/-!
# Types of content

A type of content is a kind and a subtype joined by a slash, followed by parameters.  JSON is the
subtype "json" of the kind "application", alone or on one side of a plus sign.
-/

namespace Shop
namespace Http

def isTokenChar (c : Char) : Bool :=
  ('a' ≤ c && c ≤ 'z') || ('A' ≤ c && c ≤ 'Z') || ('0' ≤ c && c ≤ '9') ||
    "!#$%&'*+-.^_`|~".toList.contains c

/-- The characters that stand for themselves between quotes: those of ASCII that are no controls. -/
def isQuotedChar (c : Char) : Bool :=
  0x20 ≤ c.toNat && c.toNat < 0x7f

/-- What follows a value between quotes, from behind the opening one.  The value has at least one
character, which may be a quote, and ends at the next quote: there is no way to escape one. -/
def skipQuoted : List Char → Option (List Char)
  | [] => none
  | first :: cs =>
    match cs.takeWhile (· != '"'), cs.dropWhile (· != '"') with
    | inner, _ :: rest => if (first :: inner).all isQuotedChar then some rest else none
    | _, [] => none

/-- What follows the value of a parameter.  A value without quotes may be empty only at the end. -/
def skipValue : List Char → Option (List Char)
  | '"' :: rest => (skipQuoted rest).map (·.dropWhile (· == ' '))
  | ';' :: _ => none
  | cs => some (cs.dropWhile isTokenChar)

/-- Whether a text is a list of parameters, given as much fuel as it has characters. -/
def isParameters : Nat → List Char → Bool
  | _, [] => true
  | 0, _ => false
  | fuel + 1, ' ' :: rest => isParameters fuel rest
  | fuel + 1, cs =>
    match cs.takeWhile isTokenChar, cs.dropWhile isTokenChar with
    | _ :: _, '=' :: rest =>
      match skipValue rest with
      | some [] => true
      | some (';' :: rest) => isParameters fuel rest
      | _ => false
    | _, _ => false

/-- Whether a subtype is JSON, alone or on one side of its last plus sign, before which something
must stand. -/
def isJsonSubtype (subtype : List Char) : Bool :=
  let json := "json".toList
  let after := (subtype.reverse.takeWhile (· != '+')).reverse
  let before := subtype.take (subtype.length - after.length - 1)
  subtype == json || (!before.isEmpty && (before == json || after == json))

def isJsonType (contentType : String) : Bool :=
  let cs := (Text.asciiLowercase contentType).toList
  match cs.takeWhile isTokenChar, cs.dropWhile isTokenChar with
  | kind, '/' :: rest =>
    let subtype := rest.takeWhile isTokenChar
    let parameters := match rest.dropWhile isTokenChar with
      | [] => true
      | ';' :: rest => !subtype.isEmpty && isParameters rest.length rest
      | _ => false
    kind == "application".toList && isJsonSubtype subtype && parameters
  | _, _ => false

end Http
end Shop
