import Shop.Number.Integer

/-!
# JSON documents

A JSON text read as far as it goes.  Reading never fails: it yields a tree of nodes in which the
place where the text stops being JSON is itself recorded.  So a consumer that walks the tree in
the order of the text meets a value of the wrong kind before or after the broken place exactly as
the two stand in the text.

The text is given as bytes, each of which is read as the character of its number: all signs of JSON
are among those that one byte stands for.  Only the content of a string is made text again, where
its closing quote is met.

What is wrong at the broken place can depend on what the consumer was doing: reading the value for
its content, skipping over it, or leaving a list whose wanted items have all been read.  `Faults`
holds the fault for each.  Some faults concern content alone and do not end the tree: an unpaired
surrogate escape, bytes that are no text, a number beyond the doubles, and any of these in a key.
-/

namespace Shop
namespace Json

/-- Why a text stops being a JSON document. -/
inductive Fault where
  | endInList
  | endInObject
  | endInString
  | endInValue
  | missingColon
  | missingListComma
  | missingObjectComma
  | unknownWord
  | missingValue
  | badEscape
  | badNumber
  | badText
  | numberOutOfRange
  | controlCharacter
  | keyNotText
  | loneSurrogate
  | halfSurrogate
  | trailingComma
  | trailingText
  | tooDeep
  deriving Repr, DecidableEq

def Fault.message : Fault → String
  | .endInList => "EOF while parsing a list"
  | .endInObject => "EOF while parsing an object"
  | .endInString => "EOF while parsing a string"
  | .endInValue => "EOF while parsing a value"
  | .missingColon => "expected `:`"
  | .missingListComma => "expected `,` or `]`"
  | .missingObjectComma => "expected `,` or `\x7d`"
  | .unknownWord => "expected ident"
  | .missingValue => "expected value"
  | .badEscape => "invalid escape"
  | .badNumber => "invalid number"
  | .badText => "invalid unicode code point"
  | .numberOutOfRange => "number out of range"
  | .controlCharacter => "control character (\\u0000-\\u001F) found while parsing a string"
  | .keyNotText => "key must be a string"
  | .loneSurrogate => "lone leading surrogate in hex escape"
  | .halfSurrogate => "unexpected end of hex escape"
  | .trailingComma => "trailing comma"
  | .trailingText => "trailing characters"
  | .tooDeep => "recursion limit exceeded"

/-- Whether the text ended too early, rather than going on wrongly. -/
def Fault.isEnd : Fault → Bool
  | .endInList | .endInObject | .endInString | .endInValue => true
  | _ => false

/-- The fault met when reading on, when skipping on, and when leaving at the broken place. -/
structure Faults where
  reading : Fault
  skipping : Fault
  leaving : Fault
  deriving Repr, DecidableEq

/-- One fault for readers and skippers alike. -/
def Faults.same (fault : Fault) : Faults :=
  ⟨fault, fault, .trailingText⟩

/-- A number: whole if it was written so and fits 64 bits, else a double. -/
inductive Numeral where
  | int (value : Int)
  | float (value : Float)

/-- How the members of a list or object end. -/
inductive Ending where
  | closed
  /-- Inside the last member, which holds the broken place. -/
  | inside
  /-- Between members, at the broken place. -/
  | cut (faults : Faults)
  /-- Behind the key of a member, where no colon follows. -/
  | afterKey (key : Except Fault String) (fault : Fault)

inductive Node where
  | null
  | bool (value : Bool)
  | number (value : Except Fault Numeral)
  | text (value : Except Fault String)
  | list (items : List Node) (ending : Ending)
  | object (members : List (Except Fault String × Node)) (ending : Ending)
  | broken (faults : Faults)

instance : Inhabited Node := ⟨.null⟩

/-- A document: its root, and whether only blanks follow it. -/
structure Document where
  root : Node
  complete : Bool

/-! ## Blanks, words and digits -/

def isSpace (c : Char) : Bool :=
  c == ' ' || c == '\n' || c == '\t' || c == '\r'

def skipSpace : List Char → List Char
  | [] => []
  | c :: cs => if isSpace c then skipSpace cs else c :: cs

def readWord : List Char → List Char → Except Fault (List Char)
  | [], cs => .ok cs
  | _ :: _, [] => .error .endInValue
  | w :: ws, c :: cs => if w = c then readWord ws cs else .error .unknownWord

def isDigit (c : Char) : Bool :=
  '0' ≤ c && c ≤ '9'

def skipDigits : List Char → List Char
  | [] => []
  | c :: cs => if isDigit c then skipDigits cs else c :: cs

/-! ## Numbers -/

/-- Skip an exponent, from behind its mark. -/
def skipExponent (cs : List Char) : Except Fault (List Char) :=
  let cs := match cs with
    | '+' :: rest => rest
    | '-' :: rest => rest
    | cs => cs
  match cs with
  | c :: rest => if isDigit c then .ok (skipDigits rest) else .error .badNumber
  | [] => .error .badNumber

/-- Skip what may follow the whole part of a number. -/
def skipFraction : List Char → Except Fault (List Char)
  | '.' :: c :: cs =>
    if isDigit c then
      match skipDigits cs with
      | 'e' :: rest | 'E' :: rest => skipExponent rest
      | rest => .ok rest
    else .error .badNumber
  | ['.'] => .error .badNumber
  | 'e' :: cs | 'E' :: cs => skipExponent cs
  | cs => .ok cs

/-- Skip a number, from behind its sign. -/
def skipNumber : List Char → Except Fault (List Char)
  | '0' :: c :: cs => if isDigit c then .error .badNumber else skipFraction (c :: cs)
  | c :: cs => if isDigit c then skipFraction (skipDigits cs) else .error .badNumber
  | [] => .error .badNumber

/-- The largest whole number of 64 bits. -/
def maxWhole : Nat := Nat.pow 2 64 - 1

/-- Multiply or divide by a power of ten in steps that a double can hold. -/
def scaleFloat (fuel : Nat) (x : Float) (exponent : Int) : Except Fault Float :=
  if exponent.natAbs ≤ 308 then
    let pow := Float.ofScientific 1 false exponent.natAbs
    if 0 ≤ exponent then
      let y := x * pow
      if y.isInf then .error .numberOutOfRange else .ok y
    else .ok (x / pow)
  else if x == 0.0 then .ok x
  else if 0 ≤ exponent then .error .numberOutOfRange
  else match fuel with
    | 0 => .ok 0.0
    | fuel + 1 => scaleFloat fuel (x / Float.ofScientific 1 false 308) (exponent + 308)

/-- The double of a significand of at most 64 bits and a power of ten. -/
def floatOf (negative : Bool) (significand : Nat) (exponent : Int) : Except Fault Float :=
  match scaleFloat 8 significand.toUInt64.toFloat exponent with
  | .ok x => .ok (if negative then -x else x)
  | .error fault => .error fault

/-- Read the digits of an exponent; `none` when it leaves 32 bits. -/
def exponentDigits (value : Nat) : List Char → Option Nat
  | [] => some value
  | c :: cs =>
    match Number.digit? c with
    | none => some value
    | some d => if Nat.pow 2 31 - 1 < 10 * value + d then none else exponentDigits (10 * value + d) cs

def clampExponent (n : Int) : Int :=
  max (-Int.pow 2 31) (min n (Int.pow 2 31 - 1))

/-- Read an exponent, from behind its mark, and finish the number. -/
def readExponent (negative : Bool) (significand : Nat) (exponent : Int) (cs : List Char) :
    Except Fault Float :=
  let (down, cs) := match cs with
    | '+' :: rest => (false, rest)
    | '-' :: rest => (true, rest)
    | cs => (false, cs)
  match cs with
  | [] => .error .endInValue
  | c :: rest =>
    match Number.digit? c with
    | none => .error .badNumber
    | some d =>
      match exponentDigits d rest with
      | some e =>
        floatOf negative significand (clampExponent (if down then exponent - e else exponent + e))
      | none =>
        if significand ≠ 0 ∧ !down then .error .numberOutOfRange
        else .ok (if negative then -0.0 else 0.0)

/-- Finish a number whose digits have been read. -/
def finishFloat (negative : Bool) (significand : Nat) (exponent : Int) :
    List Char → Except Fault Float
  | 'e' :: cs | 'E' :: cs => readExponent negative significand exponent cs
  | _ => floatOf negative significand exponent

/-- Read the digits behind the point; those that leave 64 bits are passed over. -/
def readDecimals (negative : Bool) (significand : Nat) (exponent : Int) :
    List Char → Except Fault Float
  | [] => floatOf negative significand exponent
  | c :: cs =>
    match Number.digit? c with
    | none => finishFloat negative significand exponent (c :: cs)
    | some d =>
      if maxWhole < 10 * significand + d then
        finishFloat negative significand exponent (skipDigits cs)
      else readDecimals negative (10 * significand + d) (exponent - 1) cs

def readPoint (negative : Bool) (significand : Nat) (exponent : Int) :
    List Char → Except Fault Float
  | [] => .error .endInValue
  | c :: cs =>
    if isDigit c then readDecimals negative significand exponent (c :: cs) else .error .badNumber

/-- Finish a number whose whole part has more digits than 64 bits hold. -/
def readLong (negative : Bool) (significand : Nat) (exponent : Int) :
    List Char → Except Fault Float
  | [] => floatOf negative significand exponent
  | c :: cs =>
    if isDigit c then readLong negative significand (exponent + 1) cs
    else if c = '.' then readPoint negative significand exponent cs
    else finishFloat negative significand exponent (c :: cs)

/-- A whole number of 64 bits, or the double that stands for it: zero with a minus sign and a
number below the least signed one are doubles. -/
def wholeNumeral (negative : Bool) (significand : Nat) : Numeral :=
  if !negative then .int significand
  else if significand = 0 ∨ Nat.pow 2 63 < significand then .float (-significand.toUInt64.toFloat)
  else .int (-(significand : Int))

/-- Read the digits of the whole part and what follows them. -/
def readWhole (negative : Bool) (significand : Nat) : List Char → Except Fault Numeral
  | [] => .ok (wholeNumeral negative significand)
  | c :: cs =>
    match Number.digit? c with
    | some d =>
      if maxWhole < 10 * significand + d then
        (readLong negative significand 0 (c :: cs)).map .float
      else readWhole negative (10 * significand + d) cs
    | none =>
      if c = '.' then (readPoint negative significand 0 cs).map .float
      else if c = 'e' ∨ c = 'E' then (readExponent negative significand 0 cs).map .float
      else .ok (wholeNumeral negative significand)

/-- Read a number, from behind its sign. -/
def readNumber (negative : Bool) : List Char → Except Fault Numeral
  | [] => .error .endInValue
  | '0' :: cs =>
    match cs with
    | c :: _ => if isDigit c then .error .badNumber else readWhole negative 0 cs
    | [] => readWhole negative 0 cs
  | c :: cs => if isDigit c then readWhole negative 0 (c :: cs) else .error .badNumber

/-- The node of a number, from behind its sign, and the text after it. -/
def numberNode (negative : Bool) (cs : List Char) : Node × Option (List Char) :=
  match readNumber negative cs, skipNumber cs with
  | value, .ok rest => (.number value, some rest)
  | .ok _, .error fault => (.broken (.same fault), none)
  | .error reading, .error skipping => (.broken ⟨reading, skipping, .trailingText⟩, none)

/-! ## Strings -/

def hexDigit? (c : Char) : Option Nat :=
  if '0' ≤ c ∧ c ≤ '9' then some (c.toNat - '0'.toNat)
  else if 'a' ≤ c ∧ c ≤ 'f' then some (c.toNat - 'a'.toNat + 10)
  else if 'A' ≤ c ∧ c ≤ 'F' then some (c.toNat - 'A'.toNat + 10)
  else none

def readHex : List Char → Except Fault (Nat × List Char)
  | a :: b :: c :: d :: cs =>
    match hexDigit? a, hexDigit? b, hexDigit? c, hexDigit? d with
    | some a, some b, some c, some d => .ok (4096 * a + 256 * b + 16 * c + d, cs)
    | _, _, _, _ => .error .badEscape
  | _ => .error .endInString

def shortEscape? (c : Char) : Option Char :=
  match c with
  | '"' => some '"'
  | '\\' => some '\\'
  | '/' => some '/'
  | 'b' => some (Char.ofNat 0x08)
  | 'f' => some (Char.ofNat 0x0C)
  | 'n' => some '\n'
  | 'r' => some '\r'
  | 't' => some '\t'
  | _ => none

/-- Skip a string, from behind its opening quote. -/
def skipString : List Char → Except Fault (List Char)
  | [] => .error .endInString
  | '"' :: cs => .ok cs
  | ['\\'] => .error .endInString
  | '\\' :: 'u' :: a :: b :: c :: d :: cs =>
    match readHex [a, b, c, d] with
    | .ok _ => skipString cs
    | .error fault => .error fault
  | '\\' :: 'u' :: _ => .error .endInString
  | '\\' :: c :: cs =>
    match shortEscape? c with
    | some _ => skipString cs
    | none => .error .badEscape
  | c :: cs => if c.toNat < 0x20 then .error .controlCharacter else skipString cs

/-- The character of a `\u` escape, from behind the `u`, and the text after it.  A character beyond
16 bits is written as two escapes. -/
def readEscaped (cs : List Char) : Except Fault (Char × List Char) := do
  let (high, cs) ← readHex cs
  if 0xDC00 ≤ high ∧ high ≤ 0xDFFF then throw .loneSurrogate
  if high < 0xD800 ∨ 0xDBFF < high then return (Char.ofNat high, cs)
  match cs with
  | [] => throw .endInString
  | '\\' :: cs =>
    match cs with
    | [] => throw .endInString
    | 'u' :: cs =>
      let (low, cs) ← readHex cs
      if low < 0xDC00 ∨ 0xDFFF < low then throw .loneSurrogate
      return (Char.ofNat (0x10000 + 0x400 * (high - 0xD800) + (low - 0xDC00)), cs)
    | _ => throw .halfSurrogate
  | _ => throw .halfSurrogate

/-- The text that bytes stand for, the last of them given first. -/
def textOf (done : List UInt8) : Except Fault String :=
  match String.fromUTF8? ⟨done.reverse.toArray⟩ with
  | some s => .ok s
  | none => .error .badText

/-- Read a string, from behind its opening quote.  `done` holds the bytes of its content, the last
first. -/
def readString (fuel : Nat) (done : List UInt8) (cs : List Char) : Except Fault String :=
  match fuel with
  | 0 => .error .endInString
  | fuel + 1 =>
    match cs with
    | [] => .error .endInString
    | '"' :: _ => textOf done
    | ['\\'] => .error .endInString
    | '\\' :: 'u' :: cs =>
      match readEscaped cs with
      | .ok (c, rest) => readString fuel ((String.utf8EncodeChar c).reverse ++ done) rest
      | .error fault => .error fault
    | '\\' :: c :: cs =>
      match shortEscape? c with
      | some c => readString fuel (c.toUInt8 :: done) cs
      | none => .error .badEscape
    | c :: cs =>
      if c.toNat < 0x20 then .error .controlCharacter
      else readString fuel (c.toUInt8 :: done) cs

/-- A string from behind its opening quote: its content and the text after it, or the faults. -/
def stringToken (cs : List Char) : Except Faults (Except Fault String × List Char) :=
  match readString (cs.length + 1) [] cs, skipString cs with
  | value, .ok rest => .ok (value, rest)
  | .ok _, .error fault => .error (.same fault)
  | .error reading, .error skipping => .error ⟨reading, skipping, .trailingText⟩

/-! ## Trees -/

/-- The node of a word, from behind its first letter. -/
def wordNode (node : Node) (word : List Char) (cs : List Char) : Node × Option (List Char) :=
  match readWord word cs with
  | .ok rest => (node, some rest)
  | .error fault => (.broken (.same fault), none)

/-- What comes between two items of a list, or before the first. -/
inductive Gap where
  | item (rest : List Char)
  | closed (rest : List Char)
  | cut (faults : Faults)

def listGap (first : Bool) (cs : List Char) : Gap :=
  match skipSpace cs with
  | [] => .cut ⟨.endInList, .endInList, .endInList⟩
  | ']' :: rest => .closed rest
  | c :: rest =>
    if first then .item (c :: rest)
    else if c = ',' then
      match skipSpace rest with
      | [] => .cut (.same .endInValue)
      | ']' :: _ => .cut ⟨.trailingComma, .missingValue, .trailingComma⟩
      | next => .item next
    else .cut (.same .missingListComma)

/-- The gap before the next key of an object; an item begins behind the quote of its key. -/
def objectGap (first : Bool) (cs : List Char) : Gap :=
  match skipSpace cs with
  | [] => .cut (.same .endInObject)
  | '\x7d' :: rest => .closed rest
  | c :: rest =>
    if first then
      if c = '"' then .item rest else .cut (.same .keyNotText)
    else if c = ',' then
      match skipSpace rest with
      | '"' :: next => .item next
      | '\x7d' :: _ => .cut ⟨.trailingComma, .keyNotText, .trailingComma⟩
      | [] => .cut ⟨.endInValue, .endInObject, .endInValue⟩
      | _ => .cut (.same .keyNotText)
    else .cut (.same .missingObjectComma)

mutual

/-- Read a node and return the text after it, `none` if the node holds the broken place.  Each
nested call stands behind at least one more character of the text, so the length of the text is
enough fuel. -/
def readNode (fuel : Nat) (cs : List Char) : Node × Option (List Char) :=
  match fuel with
  | 0 => (.broken (.same .tooDeep), none)
  | fuel + 1 =>
    match skipSpace cs with
    | [] => (.broken (.same .endInValue), none)
    | '"' :: cs =>
      match stringToken cs with
      | .ok (value, rest) => (.text value, some rest)
      | .error faults => (.broken faults, none)
    | '[' :: cs =>
      let (items, ending, rest) := readItems fuel true [] cs
      (.list items ending, rest)
    | '\x7b' :: cs =>
      let (members, ending, rest) := readMembers fuel true [] cs
      (.object members ending, rest)
    | 'n' :: cs => wordNode .null ['u', 'l', 'l'] cs
    | 't' :: cs => wordNode (.bool true) ['r', 'u', 'e'] cs
    | 'f' :: cs => wordNode (.bool false) ['a', 'l', 's', 'e'] cs
    | '-' :: cs => numberNode true cs
    | c :: cs =>
      if isDigit c then numberNode false (c :: cs) else (.broken (.same .missingValue), none)

/-- Read the items of a list; `done` holds those already read, the last first. -/
def readItems (fuel : Nat) (first : Bool) (done : List Node) (cs : List Char) :
    List Node × Ending × Option (List Char) :=
  match fuel with
  | 0 => (done.reverse, .cut (.same .tooDeep), none)
  | fuel + 1 =>
    match listGap first cs with
    | .closed rest => (done.reverse, .closed, some rest)
    | .cut faults => (done.reverse, .cut faults, none)
    | .item cs =>
      match readNode fuel cs with
      | (node, some rest) => readItems fuel false (node :: done) rest
      | (node, none) => ((node :: done).reverse, .inside, none)

/-- Read the members of an object; `done` holds those already read, the last first. -/
def readMembers (fuel : Nat) (first : Bool) (done : List (Except Fault String × Node))
    (cs : List Char) : List (Except Fault String × Node) × Ending × Option (List Char) :=
  match fuel with
  | 0 => (done.reverse, .cut (.same .tooDeep), none)
  | fuel + 1 =>
    match objectGap first cs with
    | .closed rest => (done.reverse, .closed, some rest)
    | .cut faults => (done.reverse, .cut faults, none)
    | .item cs =>
      match stringToken cs with
      | .error faults => (done.reverse, .cut faults, none)
      | .ok (key, cs) =>
        match skipSpace cs with
        | ':' :: cs =>
          match readNode fuel cs with
          | (node, some rest) => readMembers fuel false ((key, node) :: done) rest
          | (node, none) => (((key, node) :: done).reverse, .inside, none)
        | [] => (done.reverse, .afterKey key .endInObject, none)
        | _ => (done.reverse, .afterKey key .missingColon, none)

end

def Document.read (bytes : ByteArray) : Document :=
  let cs := bytes.data.toList.map fun byte => Char.ofUInt8 byte
  match readNode (2 * cs.length + 2) cs with
  | (root, some rest) => ⟨root, (skipSpace rest).isEmpty⟩
  | (root, none) => ⟨root, true⟩

end Json
end Shop
