import Shop.Rule.Domain.Direction
import Shop.Rule.Domain.Joining
import Shop.Rule.Domain.MappingTable
import Shop.Rule.Domain.Punycode

/-!
# Internationalised domain names

The ASCII form of a domain name: every character becomes what it stands for in names, the whole is
composed, and a label that still holds other than ASCII characters is written in Punycode behind
`xn--`.  A label that is already written so must stand for one that could have been.

Names with characters that no name can hold, with labels that begin with a mark, with joiners where
nothing joins, or with labels of mixed directions have no ASCII form.
-/

namespace Shop
namespace Domain

/-! ## Characters -/

/-- The characters beyond ASCII that become others. -/
def mapped : List Text.Entry := Text.readTable mappedText

def ignoredSpans : List (Nat × Nat) := Text.readSpans ignoredText

/-- The characters that no name can hold. -/
def refusedSpans : List (Nat × Nat) := Text.readSpans refusedText

def markSpans : List (Nat × Nat) := Text.readSpans markText

/-- What a character of a name becomes, `none` if no name can hold it. -/
def mapChar (c : Char) : Option (List Char) :=
  let n := c.toNat
  if n < 128 then some [c.toLower]
  else if Text.inSpans refusedSpans n then none
  else if Text.inSpans ignoredSpans n then some []
  else match mapped.find? (·.holds n) with
    | some entry => some ((entry.imageOf n).map Char.ofNat)
    | none => some [c]

/-- Whether a character stands in a name as it is. -/
def isFinal (c : Char) : Bool :=
  mapChar c == some [c]

def composed (cs : List Char) : List Char :=
  (Text.compose (cs.map Char.toNat)).map Char.ofNat

/-! ## Labels -/

/-- Cut a text at the characters that satisfy a test. -/
def splitChars (cut : Char → Bool) : List Char → List (List Char)
  | [] => [[]]
  | c :: cs =>
    match splitChars cut cs with
    | [] => [[c]]
    | label :: labels => if cut c then [] :: label :: labels else (c :: label) :: labels

def punycodeMark : List Char := ['x', 'n', '-', '-']

def isAscii (cs : List Char) : Bool := cs.all (·.toNat < 128)

/-- Whether a label beyond ASCII can stand in a name: no mark begins it, its joiners have something to
join, and it does not look like Punycode. -/
def isLabelShape (label : List Char) : Bool :=
  !punycodeMark.isPrefixOf label && joinsWell [] label &&
    match label with
    | [] => true
    | c :: _ => !Text.inSpans markSpans c.toNat

/-- The label that is meant by one of a name: what it stands for if it is in Punycode, else itself.
Punycode stands only for labels that need it. -/
def meantLabel (label : List Char) : Option (List Char) := do
  if punycodeMark.isPrefixOf label then
    let meant ← readPunycode (label.drop punycodeMark.length)
    guard (!isAscii meant && meant.all isFinal && composed meant == meant && isLabelShape meant)
    return meant
  guard (isAscii label || isLabelShape label)
  return label

def labelToAscii (label : List Char) : List Char :=
  if isAscii label then label else punycodeMark ++ punycode label

def joinLabels : List (List Char) → List Char
  | [] => []
  | [label] => label
  | label :: labels => label ++ '.' :: joinLabels labels

def isReadable (labels : List (List Char)) : Bool :=
  !labels.any (·.any fun c => (Direction.of c).turns) || labels.all isOneWay

def toAscii (domain : List Char) : Option (List Char) := do
  let labels := splitChars (· == '.') (composed (← domain.mapM mapChar).flatten)
  let meant ← labels.mapM meantLabel
  guard (isReadable meant)
  return joinLabels (labels.map labelToAscii)

end Domain
end Shop
