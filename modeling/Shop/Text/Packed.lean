/-!
# Packed tables

Tables of characters written as text.  The entries of a table stand between blanks, and all numbers
are hexadecimal.  An entry begins with a code point or with the first and the last of a span of
them, `0-9`; `/2` behind a span leaves every second code point of it.  Behind a colon stands what the
entry assigns, numbers joined by `+`.
-/

namespace Shop
namespace Text

structure Entry where
  first : Nat
  last : Nat
  step : Nat
  image : List Nat
  deriving Repr, DecidableEq

namespace Entry

/-- The number that a hexadecimal text stands for. -/
def number (s : String) : Nat :=
  s.toList.foldl (fun n c => 16 * n + if c.isDigit then c.toNat - 48 else c.toNat - 55) 0

def readSpan (s : String) : Nat × Nat :=
  match s.splitOn "-" with
  | [first, last] => (number first, number last)
  | _ => (number s, number s)

def read (s : String) : Entry :=
  let (place, image) := match s.splitOn ":" with
    | [place, image] => (place, (image.splitOn "+").map number)
    | _ => (s, [])
  let (span, step) := match place.splitOn "/" with
    | [span, step] => (span, number step)
    | _ => (place, 1)
  let (first, last) := readSpan span
  ⟨first, last, step, image⟩

/-- Whether an entry is about a code point. -/
def holds (e : Entry) (n : Nat) : Bool :=
  e.first ≤ n && n ≤ e.last && (n - e.first) % e.step == 0

/-- What an entry assigns to a code point of its span, where a single number counts up along the
span. -/
def imageOf (e : Entry) (n : Nat) : List Nat :=
  match e.image with
  | [m] => [m + (n - e.first)]
  | image => image

end Entry

def readTable (s : String) : List Entry :=
  (((s.splitOn "\n").flatMap (·.splitOn " ")).filter (· != "")).map Entry.read

def readSpans (s : String) : List (Nat × Nat) :=
  (readTable s).map fun e => (e.first, e.last)

end Text
end Shop
