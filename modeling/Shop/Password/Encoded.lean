import Shop.Number.Integer
import Shop.Password.Argon2
import Shop.Text.Base64

/-!
# Encoded hashes

A hash is kept as a text of fields, each after a dollar sign: the variant of the function, its
version, what it costs, the salt and the hash itself, the last two in base 64.  All but the variant
may be missing.  A text is first taken apart by the form of its fields; only when a password is to be
compared must the fields mean something.
-/

namespace Shop

inductive ValueFault where
  | badCharacter (c : Char)
  | badFormat
  | malformed
  | tooLong
  | tooShort
  deriving Repr, DecidableEq

def ValueFault.text : ValueFault → String
  | .badCharacter c => "contains invalid character: '" ++ String.singleton c ++ "'"
  | .badFormat => "value format is invalid"
  | .malformed => "value malformed"
  | .tooLong => "value to long"
  | .tooShort => "value to short"

/-- What is wrong with an encoded hash. -/
inductive HashFault where
  | missingField
  | trailingField
  | unknownVariant
  | unknownVersion
  | badName
  | badValue (fault : ValueFault)
  | tooManyCosts
  | badSalt (fault : ValueFault)
  | notBase64
  | badLength
  | hashTooShort
  deriving Repr, DecidableEq

namespace EncodedHash

def minHashBytes : Nat := 10

def maxHashBytes : Nat := 64

end EncodedHash

def HashFault.text : HashFault → String
  | .missingField => "password hash string missing field"
  | .trailingField => "password hash string contains trailing characters"
  | .unknownVariant => "unsupported algorithm"
  | .unknownVersion => "invalid algorithm version"
  | .badName => "invalid parameter name"
  | .badValue fault => "invalid parameter value: " ++ fault.text
  | .tooManyCosts => "maximum number of parameters reached"
  | .badSalt fault => "salt invalid: " ++ fault.text
  | .notBase64 => "invalid Base64 encoding"
  | .badLength => "invalid Base64 length"
  | .hashTooShort =>
    "output size too short, expected at least " ++ toString EncodedHash.minHashBytes ++ " bytes"

structure EncodedHash where
  variant : String
  version : Option Nat
  costs : List (String × String)
  salt : Option String
  hash : Option ByteArray

namespace EncodedHash

/-! ## Taking a text apart -/

def isNameChar (c : Char) : Bool :=
  ('a' ≤ c && c ≤ 'z') || ('0' ≤ c && c ≤ '9') || c == '-'

def isValueChar (c : Char) : Bool :=
  ('A' ≤ c && c ≤ 'Z') || ('a' ≤ c && c ≤ 'z') || ('0' ≤ c && c ≤ '9') || c == '/' || c == '+' ||
    c == '.' || c == '-'

def readName (s : String) : Except HashFault String :=
  if 1 ≤ s.utf8ByteSize ∧ s.utf8ByteSize ≤ 32 ∧ s.toList.all isNameChar then .ok s
  else .error .badName

def readValue (s : String) : Except ValueFault String :=
  if 64 < s.utf8ByteSize then .error .tooLong
  else match s.toList.find? (!isValueChar ·) with
    | some c => .error (.badCharacter c)
    | none => .ok s

def readNumber (s : String) : Except ValueFault Nat :=
  match s.toList with
  | [] => .error .malformed
  | first :: rest =>
    match (first :: rest).find? (fun c => (Number.digit? c).isNone) with
    | some c => .error (.badCharacter c)
    | none =>
      if first = '0' ∧ rest ≠ [] then .error .badFormat
      else
        let n := (first :: rest).foldl (fun n c => 10 * n + (Number.digit? c).getD 0) 0
        if n < Nat.pow 2 32 then .ok n else .error .badFormat

def readVersion (field : String) : Option (Except HashFault Nat) :=
  match field.toList with
  | 'v' :: '=' :: rest =>
    if rest.contains ',' then none
    else some (((readValue (String.ofList rest)).bind readNumber).mapError .badValue)
  | _ => none

def readCost (field : String) : Except HashFault (String × String) :=
  match field.splitOn "=" with
  | [] => .error .badName
  | [name] => do
    let _ ← readName name
    throw (.badValue .malformed)
  | name :: value :: more => do
    let name ← readName name
    let value ← (readValue value).mapError .badValue
    if more.isEmpty then return (name, value) else throw (.badValue .malformed)

/-- Read the costs, if the field holds them. -/
def readCosts (field : String) : Option (Except HashFault (List (String × String))) :=
  if !field.toList.contains '=' then none
  else if 127 < field.utf8ByteSize then some (.error .tooManyCosts)
  else some ((field.splitOn ",").mapM readCost)

def readSalt (s : String) : Except HashFault String :=
  if s.utf8ByteSize < 4 then .error (.badSalt .tooShort)
  else (readValue s).mapError .badSalt

def readBytes (limit : Nat) (s : String) : Except HashFault ByteArray :=
  if limit < 3 * s.utf8ByteSize / 4 then .error .badLength
  else match Base64.decodeUnpadded s with
    | some bytes => .ok bytes
    | none => .error .notBase64

def readHash (s : String) : Except HashFault ByteArray := do
  let bytes ← readBytes maxHashBytes s
  if bytes.size < minHashBytes then throw .hashTooShort else return bytes

/-- Take a field off the front if it can be read as what may stand there. -/
def takeIf (reader : String → Option (Except HashFault α)) :
    List String → Except HashFault (Option α × List String)
  | [] => .ok (none, [])
  | field :: fields =>
    match reader field with
    | none => .ok (none, field :: fields)
    | some result => result.map fun a => (some a, fields)

def read (s : String) : Except HashFault EncodedHash :=
  match s.splitOn "$" with
  | "" :: variant :: fields => do
    let variant ← readName variant
    let (version, fields) ← takeIf readVersion fields
    let (costs, fields) ← takeIf readCosts fields
    let (salt, fields) ← takeIf (fun s => some (readSalt s)) fields
    let (hash, fields) ← takeIf (fun s => some (readHash s)) fields
    if fields.isEmpty then return ⟨variant, version, costs.getD [], salt, hash⟩
    else throw .trailingField
  | _ => .error .missingField

/-! ## What the fields mean -/

/-- The recipe that is meant where a text does not say otherwise. -/
def standard : Argon2.Recipe :=
  { variant := .id, version := .v19, memory := 19456, passes := 2, lanes := 1, length := 32
    data := .empty }

def maxKeyBytes : Nat := 8

def maxDataBytes : Nat := 32

/-- Read a cost into the recipe.  A name of a key is checked and has no effect. -/
def applyCost (r : Argon2.Recipe) (cost : String × String) : Except HashFault Argon2.Recipe := do
  let number := (readNumber cost.2).mapError HashFault.badValue
  match cost.1 with
  | "m" => return { r with memory := ← number }
  | "t" => return { r with passes := ← number }
  | "p" => return { r with lanes := ← number }
  | "keyid" => do
    let _ ← readBytes maxKeyBytes cost.2
    return r
  | "data" => return { r with data := ← readBytes maxDataBytes cost.2 }
  | _ => throw .badName

/-- The blocks of memory that a lane needs at least. -/
def minLaneBlocks : Nat := 8

/-- The number of lanes that are too many. -/
def laneLimit : Nat := Nat.pow 2 24

/-- Check that the function can be computed at these costs.  The memory that the lanes need is
counted in words of 32 bits, so for very many lanes it comes out small; they are too many anyway. -/
def checkCosts (r : Argon2.Recipe) : Except HashFault Argon2.Recipe :=
  let needed := UInt32.ofNat minLaneBlocks * UInt32.ofNat r.lanes
  if r.memory < minLaneBlocks ∨ r.memory < needed.toNat then .error (.badValue .tooShort)
  else if r.passes < 1 ∨ r.lanes < 1 then .error (.badValue .tooShort)
  else if laneLimit ≤ r.lanes then .error (.badValue .tooLong)
  else .ok r

def readVariant : String → Except HashFault Argon2.Variant
  | "argon2d" => .ok .d
  | "argon2i" => .ok .i
  | "argon2id" => .ok .id
  | _ => .error .unknownVariant

def versionOf : Nat → Except HashFault Argon2.Version
  | 16 => .ok .v16
  | 19 => .ok .v19
  | _ => .error .unknownVersion

/-- The recipe of a hash of some bytes.  Costs are checked before the variant and the version. -/
def recipe (e : EncodedHash) (length : Nat) : Except HashFault Argon2.Recipe := do
  let r ← e.costs.foldlM applyCost { standard with length }
  let r ← checkCosts r
  let variant ← readVariant e.variant
  let version ← match e.version with
    | none => .ok standard.version
    | some n => versionOf n
  return { r with variant, version }

def minSaltBytes : Nat := 8

def saltBytes (salt : String) : Except HashFault ByteArray := do
  let bytes ← readBytes maxHashBytes salt
  if bytes.size < minSaltBytes then throw (.badSalt .tooShort) else return bytes

end EncodedHash

namespace Password

/-- The text that is kept of a password: its hash with a salt, by the standard recipe. -/
def hash (salt : ByteArray) (password : String) : String :=
  let r := EncodedHash.standard
  "$argon2id$v=" ++ toString r.version.number ++ "$m=" ++ toString r.memory ++ ",t=" ++
    toString r.passes ++ ",p=" ++ toString r.lanes ++ "$" ++ Base64.encodeUnpadded salt ++ "$" ++
    Base64.encodeUnpadded (Argon2.hash r password.toUTF8 salt)

/-- Whether a password is the one that an encoded hash was made from.  One without salt or hash was
made from none. -/
def verify (password encoded : String) : Except HashFault Bool := do
  let e ← EncodedHash.read encoded
  match e.salt, e.hash with
  | some salt, some expected =>
    let r ← e.recipe expected.size
    let salt ← EncodedHash.saltBytes salt
    return Argon2.hash r password.toUTF8 salt == expected
  | _, _ => return false

end Password
end Shop
