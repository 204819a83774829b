import Shop.Text.ComposeTable
import Shop.Text.Packed

/-!
# Composed texts

The form of a text in which marks have joined the letters they belong to.  A text is first taken
apart into letters and marks, then the marks behind each letter are put in the order of their
classes, and last every letter takes in the marks that a composite of the two exists for, unless a
mark of the same class or a higher one stands between them.

The syllables of Hangul are composed by their place in the alphabet instead of by the table.
-/

namespace Shop
namespace Text

def markClasses : List Entry := readTable markClassText

def composites : List Entry := readTable compositeText

/-- The class of a mark; zero for all that is no mark or does not move. -/
def markClass (n : Nat) : Nat :=
  if n < 0x300 then 0
  else ((markClasses.find? (·.holds n)).bind (·.image.head?)).getD 0

/-- The parts of a syllable: a leading consonant, a vowel, and perhaps a trailing consonant. -/
def syllableParts (n : Nat) : List Nat :=
  let place := n - 0xAC00
  let trail := place % 28
  [0x1100 + place / 588, 0x1161 + place % 588 / 28] ++ if trail = 0 then [] else [0x11A7 + trail]

/-- The parts of a character, given how often a composite may stand in another. -/
def partsOf : Nat → Nat → List Nat
  | 0, n => [n]
  | fuel + 1, n =>
    if n < 0xC0 then [n]
    else if 0xAC00 ≤ n ∧ n ≤ 0xD7A3 then syllableParts n
    else match composites.find? (·.first == n) with
      | some ⟨_, _, _, [base, mark]⟩ => partsOf fuel base ++ [mark]
      | _ => [n]

/-- How deep composites stand in one another. -/
def compositeDepth : Nat := 4

/-- Put a mark in front of marks whose class is higher. -/
def insertMark (n : Nat) : List Nat → List Nat
  | [] => [n]
  | m :: rest => if markClass n < markClass m then n :: m :: rest else m :: insertMark n rest

/-- Put the marks in order; `marks` holds those met since the last letter. -/
def orderMarks (marks : List Nat) : List Nat → List Nat
  | [] => marks
  | n :: rest =>
    if markClass n = 0 then marks ++ n :: orderMarks [] rest
    else orderMarks (insertMark n marks) rest

/-- The composite of two characters, if there is one. -/
def pair? (a b : Nat) : Option Nat :=
  if 0x1100 ≤ a ∧ a ≤ 0x1112 ∧ 0x1161 ≤ b ∧ b ≤ 0x1175 then
    some (0xAC00 + ((a - 0x1100) * 21 + (b - 0x1161)) * 28)
  else if 0xAC00 ≤ a ∧ a ≤ 0xD7A3 ∧ (a - 0xAC00) % 28 = 0 ∧ 0x11A8 ≤ b ∧ b ≤ 0x11C2 then
    some (a + (b - 0x11A7))
  else (composites.find? (·.image == [a, b])).map (·.first)

/-- Join characters to the letter before them.  `marks` holds, the last first, the marks behind the
letter that have not joined it. -/
def joinMarks (letter : Nat) (marks : List Nat) : List Nat → List Nat
  | [] => letter :: marks.reverse
  | n :: rest =>
    let free := match marks with
      | [] => true
      | mark :: _ => markClass mark < markClass n
    match if free then pair? letter n else none with
    | some composite => joinMarks composite marks rest
    | none =>
      if markClass n = 0 then letter :: marks.reverse ++ joinMarks n [] rest
      else joinMarks letter (n :: marks) rest

/-- The composed form of a text, given as code points. -/
def compose (ns : List Nat) : List Nat :=
  let ordered := orderMarks [] (ns.flatMap (partsOf compositeDepth))
  let (front, rest) := (ordered.takeWhile (markClass · != 0), ordered.dropWhile (markClass · != 0))
  front ++ match rest with
    | [] => []
    | letter :: rest => joinMarks letter [] rest

end Text
end Shop
