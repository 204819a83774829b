/-!
# Blank characters

White space in the sense of the Unicode property `White_Space`, and what the catalogue does with
it: cutting it off both ends of a text, and asking whether a text holds anything else.
-/

namespace Shop
namespace Text

/-- The characters with the property `White_Space`.  The zero-width characters lack it. -/
def isBlankChar (c : Char) : Bool :=
  let n := c.toNat
  (0x9 ≤ n && n ≤ 0xD) || n == 0x20 || n == 0x85 || n == 0xA0 || n == 0x1680 ||
    (0x2000 ≤ n && n ≤ 0x200A) || n == 0x2028 || n == 0x2029 || n == 0x202F ||
    n == 0x205F || n == 0x3000

def trimFront (cs : List Char) : List Char :=
  cs.dropWhile isBlankChar

def trimBack (cs : List Char) : List Char :=
  (cs.reverse.dropWhile isBlankChar).reverse

def trimChars (cs : List Char) : List Char :=
  trimBack (trimFront cs)

/-- A text without the blanks at its ends. -/
def trim (s : String) : String :=
  String.ofList (trimChars s.toList)

/-- Whether a text holds nothing but blanks. -/
def isBlank (s : String) : Bool :=
  s.toList.all isBlankChar

end Text
end Shop
