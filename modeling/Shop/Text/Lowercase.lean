import Shop.Text.CaseTable

/-!
# Lowercasing

The lowercase form of a whole text.  Three rules depend on more than one table look-up: ASCII
letters move by the distance of `a` from `A`, the dotted capital I becomes two characters, and a
capital sigma becomes a final sigma where a cased letter stands before it and none after it, with
ignorable characters looked past on both sides.
-/

namespace Shop
namespace Text

/-- Whether a code point lies in one of the spans. -/
def inSpans (spans : List (Nat × Nat)) (n : Nat) : Bool :=
  spans.any fun span => decide (span.1 ≤ n ∧ n ≤ span.2)

/-- Whether a character has an upper, lower or title case form of its own. -/
def isCased (c : Char) : Bool :=
  c.isAlpha || (128 ≤ c.toNat && inSpans casedSpans c.toNat)

/-- Whether a character is looked past when the neighbours of a sigma are sought. -/
def isCaseIgnorable (c : Char) : Bool :=
  inSpans caseIgnorableSpans c.toNat

/-- Where a run of the lowercase table sends a code point, if it holds it. -/
def CaseRun.find? (run : CaseRun) (n : Nat) : Option Nat :=
  if run.first ≤ n ∧ n ≤ run.last ∧ (n - run.first) % run.step = 0 then
    some ((n : Int) + run.shift).toNat
  else none

def lowerChar (c : Char) : List Char :=
  if c.toNat < 128 then [c.toLower]
  else if c.toNat = 0x130 then ['i', '\u0307']
  else match lowercaseRuns.findSome? (·.find? c.toNat) with
    | some n => [Char.ofNat n]
    | none => [c]

/-- Whether the first character that is not ignorable exists and is cased. -/
def casedAhead (cs : List Char) : Bool :=
  match cs.dropWhile isCaseIgnorable with
  | [] => false
  | c :: _ => isCased c

/-- Lowercase `rest`, where `before` holds the characters already passed, the nearest first. -/
def lowerFrom (before : List Char) (rest : List Char) (done : List Char) : List Char :=
  match rest with
  | [] => done.reverse
  | c :: rest =>
    let form :=
      if c = 'Σ' then
        if casedAhead before && !casedAhead rest then ['ς'] else ['σ']
      else lowerChar c
    lowerFrom (c :: before) rest (form.reverse ++ done)

def lowercase (s : String) : String :=
  String.ofList (lowerFrom [] s.toList [])

/-- The lowercase form of the ASCII letters alone; every other character stays. -/
def asciiLowercase (s : String) : String :=
  String.ofList (s.toList.map Char.toLower)

/-- Whether two texts differ at most in the case of ASCII letters. -/
def eqIgnoreAsciiCase (s t : String) : Bool :=
  asciiLowercase s == asciiLowercase t

end Text
end Shop
