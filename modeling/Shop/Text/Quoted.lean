import Shop.Text.Lowercase
import Shop.Text.PrintTable

/-!
# Quoted texts

The form in which a text is shown inside a message: between double quotes, with the quote and the
backslash escaped, the usual short escapes for the common controls, and `\u{…}` with the hexadecimal
code point for every character that shows no glyph of its own.
-/

namespace Shop
namespace Text

/-- Whether a character is written as itself between quotes. -/
def isShown (c : Char) : Bool :=
  if c.toNat < 128 then 0x20 ≤ c.toNat && c.toNat < 0x7F
  else !inSpans graphemeExtendSpans c.toNat && !inSpans unprintableSpans c.toNat

def quoteChar (c : Char) : List Char :=
  if c = '"' then ['\\', '"']
  else if c = '\\' then ['\\', '\\']
  else if c = '\n' then ['\\', 'n']
  else if c = '\r' then ['\\', 'r']
  else if c = '\t' then ['\\', 't']
  else if c.toNat = 0 then ['\\', '0']
  else if isShown c then [c]
  else ['\\', 'u', Char.ofNat 0x7B] ++ Nat.toDigits 16 c.toNat ++ [Char.ofNat 0x7D]

/-- A text between double quotes, with escapes. -/
def quoted (s : String) : String :=
  String.ofList ('"' :: s.toList.flatMap quoteChar ++ ['"'])

/-- A list of texts in brackets, each quoted. -/
def quotedList (texts : List String) : String :=
  "[" ++ String.intercalate ", " (texts.map quoted) ++ "]"

end Text
end Shop
