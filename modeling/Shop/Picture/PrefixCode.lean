/-!
# Prefix codes

Canonical prefix codes: words of the same length are consecutive numbers, and the numbers of each
length begin where those of the lengths before it end.  So a code is known once the number of its
words of each length and the order of its symbols are.
-/

namespace Shop
namespace Picture

/-- A canonical prefix code: how many words of each length from 1 there are, and their symbols in
the order of the words. -/
structure PrefixCode where
  counts : List Nat
  symbols : Array Nat

namespace PrefixCode

/-- The code whose symbols have words of the given lengths, at most `longest`; 0 marks a symbol
without a word. -/
def ofLengths (longest : Nat) (lengths : List Nat) : PrefixCode :=
  let sizes := (List.range longest).map (· + 1)
  { counts := sizes.map fun size => lengths.count size
    symbols := (sizes.flatMap fun size =>
      (lengths.zipIdx.filter fun entry => entry.1 == size).map (·.2)).toArray }

/-- How many words of the longest length are free once words of the given numbers are taken. -/
def free (counts : List Nat) : Int :=
  counts.foldl (fun (left : Int) (n : Nat) => 2 * left - n) 1

def leaves (c : PrefixCode) (least : Int) : Bool :=
  (List.range (c.counts.length + 1)).all fun k => least ≤ free (c.counts.take k)

/-- Whether every sequence of bits begins with exactly one word. -/
def isComplete (c : PrefixCode) : Bool := c.leaves 0 && free c.counts == 0

/-- Whether the code has at most one word, and that of one bit. -/
def isSingle (c : PrefixCode) : Bool :=
  c.symbols.size == 0 || (c.symbols.size == 1 && c.counts.head? == some 1)

/-- Read on in a word of which `size` bits are read: `word` is their number, `first` the first word
of this length and `index` the number of shorter words. -/
def symbolFrom (c : PrefixCode) (bitAt : Nat → Option Nat) (size word first index : Nat) :
    List Nat → Option (Nat × Nat)
  | [] => none
  | n :: counts =>
    match bitAt size with
    | none => none
    | some b =>
      let word := word + b
      if word < first + n then
        (c.symbols[index + (word - first)]?).map fun symbol => (symbol, size + 1)
      else symbolFrom c bitAt (size + 1) (2 * word) (2 * (first + n)) (index + n) counts

/-- The symbol of the word that the bits begin with, and the length of the word. -/
def symbol? (c : PrefixCode) (bitAt : Nat → Option Nat) : Option (Nat × Nat) :=
  c.symbolFrom bitAt 0 0 0 0 c.counts

end PrefixCode
end Picture
end Shop
