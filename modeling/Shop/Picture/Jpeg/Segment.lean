import Shop.Picture.PrefixCode

/-!
# Segments

A JPEG picture is a sequence of segments, each behind a marker: a byte of ones and a byte that is
neither all ones nor zero.  A segment begins with its length in two bytes, which count themselves.
What the segments say is gathered in a `State`, from which the samples of a scan can be read.
-/

namespace Shop
namespace Picture
namespace Jpeg

/-! ## Bytes -/

/-- A byte, if it is there. -/
def byte? (bytes : ByteArray) (pos : Nat) : Option Nat :=
  if h : pos < bytes.size then some bytes[pos].toNat else none

/-- A number of two bytes, the high byte first. -/
def short? (bytes : ByteArray) (pos : Nat) : Option Nat := do
  return 256 * (← byte? bytes pos) + (← byte? bytes (pos + 1))

/-- Bytes from a position on, if they are all there. -/
def bytes? (bytes : ByteArray) (pos count : Nat) : Option (List Nat) :=
  (List.range count).mapM fun i => byte? bytes (pos + i)

/-! ## Markers -/

namespace Marker

/-- The marker of a frame whose scans are refined step by step. -/
def progressiveFrame : Nat := 0xC2

def words : Nat := 0xC4

/-- The marker of the end of the picture. -/
def finish : Nat := 0xD9

def scan : Nat := 0xDA

/-- The marker of tables of coefficients. -/
def quantizations : Nat := 0xDB

/-- The marker of the number of units between restarts. -/
def restartInterval : Nat := 0xDD

def firstNote : Nat := 0xE0

def colorNote : Nat := 0xEE

def frames : List Nat := [0xC0, 0xC1, progressiveFrame]

/-- The markers of what cannot be read: conditions of arithmetic codes, a late count of lines, and the
end of the picture where a segment should be. -/
def forbidden : List Nat := [0xCC, 0xDC, finish]

def wholeNotes : List Nat := [0xE1, 0xE2, 0xED]

def isRestart (marker : Nat) : Bool := 0xD0 ≤ marker && marker ≤ 0xD7

/-- Whether a marker has a meaning here; the segments behind others are passed over. -/
def isKnown (marker : Nat) : Bool :=
  isRestart marker || frames.contains marker || forbidden.contains marker ||
    wholeNotes.contains marker ||
    [words, 0xD8, scan, quantizations, restartInterval, 0xDE, 0xDF, firstNote, colorNote,
      0xFE].contains marker

end Marker

/-! ## What segments say -/

/-- A plane of the picture: its name, how finely it is sampled, the table of its coefficients and,
once a scan has named them, its two tables of words. -/
structure Component where
  name : Nat
  across : Nat
  down : Nat
  quantization : Nat
  direct : Nat
  alternating : Nat

/-- What the planes of a picture stand for. -/
inductive Space where
  | gray
  | brightness
  | primaries
  | inks
  | brightnessInks
  deriving Repr, DecidableEq

def Space.planes : Space → Nat
  | .gray => 1
  | .brightness | .primaries => 3
  | .inks | .brightnessInks => 4

/-- What the segments read so far have said. -/
structure State where
  size : Option (Nat × Nat)
  space : Space
  progressive : Bool
  components : List Component
  quantizations : List Nat
  /-- The tables of words by their class and their place, the newest first. -/
  codes : List ((Nat × Nat) × PrefixCode)
  /-- How many units lie between restarts; 0 if there are none. -/
  restart : Nat
  scan : List Nat
  /-- The first and the last coefficient of the last scan. -/
  band : Nat × Nat

namespace State

def start : State := ⟨none, .brightness, false, [], [], [], 0, [], (0, 0)⟩

def directCode? (s : State) (c : Component) : Option PrefixCode := s.codes.lookup (0, c.direct)

/-- The table of words for the other coefficients of a component. -/
def alternatingCode? (s : State) (c : Component) : Option PrefixCode :=
  s.codes.lookup (1, c.alternating)

def scanned (s : State) : List Component := s.scan.filterMap (s.components[·]?)

end State

/-! ## Frames -/

/-- Whether a plane can be sampled this often. -/
def isFactor (n : Nat) : Bool := 1 ≤ n && n ≤ 4

/-- Read the description of one component. -/
def component? : List Nat → Option Component
  | [name, factors, quantization] =>
    if isFactor (factors / 16) && isFactor (factors % 16) && quantization < 4 then
      some ⟨name, factors / 16, factors % 16, quantization, 0, 0⟩
    else none
  | _ => none

/-- Read the description of the frame at `pos`, behind its marker.  There is one frame. -/
def frame? (bytes : ByteArray) (pos : Nat) (progressive : Bool) (s : State) : Option State := do
  if s.size.isSome then none
  let length ← short? bytes pos
  let precision ← byte? bytes (pos + 2)
  let height ← short? bytes (pos + 3)
  let width ← short? bytes (pos + 5)
  let count ← byte? bytes (pos + 7)
  if precision ≠ 8 ∨ width = 0 ∨ height = 0 ∨ count = 0 ∨ 4 < count ∨ length ≠ 8 + 3 * count then
    none
  let components ← (List.range count).mapM fun i => do
    component? (← bytes? bytes (pos + 8 + 3 * i) 3)
  let space :=
    if count = 1 then .gray
    else if count = 4 ∧ s.space = .brightness then .inks
    else s.space
  return { s with size := some (width, height), space, progressive, components }

/-! ## Tables -/

/-- Read tables of coefficients up to `stop`. -/
def quantizations? (bytes : ByteArray) (pos stop : Nat) (s : State) : Option State :=
  if _h : pos < stop then
    match byte? bytes pos with
    | none => none
    | some b =>
      let next := pos + 65 + 64 * (b / 16)
      if b / 16 ≤ 1 ∧ b % 16 < 4 ∧ next ≤ stop ∧ next ≤ bytes.size then
        quantizations? bytes next stop { s with quantizations := b % 16 :: s.quantizations }
      else none
  else some s
termination_by stop - pos

/-- Whether a table of words can be used: no word is all ones, and the sizes of first coefficients
fit in four bits. -/
def isCode (kind : Nat) (c : PrefixCode) : Bool :=
  c.leaves 1 && (kind != 0 || c.symbols.all (· < 16))

def codes? (bytes : ByteArray) (pos stop : Nat) (s : State) : Option State :=
  if _h : pos < stop then
    match byte? bytes pos, bytes? bytes (pos + 1) 16 with
    | some b, some counts =>
      let total := counts.foldl (· + ·) 0
      let next := pos + 17 + total
      if b / 16 ≤ 1 ∧ b % 16 < 4 ∧ total ≤ 256 ∧ next ≤ stop then
        match bytes? bytes (pos + 17) total with
        | none => none
        | some symbols =>
          let code : PrefixCode := ⟨counts, symbols.toArray⟩
          if isCode (b / 16) code then
            codes? bytes next stop { s with codes := ((b / 16, b % 16), code) :: s.codes }
          else none
      else none
    | _, _ => none
  else some s
termination_by stop - pos
decreasing_by omega

/-! ## Scans -/

/-- Let a scan name the tables of its components, given as pairs of bytes. -/
def nameTables? (s : State) (seen : List Nat) : List (Nat × Nat) → Option State
  | [] => some s
  | (name, tables) :: rest =>
    if seen.contains name then none
    else match s.components.findIdx? (·.name == name) with
      | none => none
      | some i =>
        let components := s.components.modify i fun c =>
          { c with direct := tables / 16, alternating := tables % 16 }
        nameTables? { s with components, scan := s.scan ++ [i] } (name :: seen) rest

/-- Read the head of a scan at `pos`, behind its marker. -/
def scan? (bytes : ByteArray) (pos : Nat) (s : State) : Option State := do
  let length ← short? bytes pos
  let count ← byte? bytes (pos + 2)
  if length ≠ 6 + 2 * count ∨ count = 0 ∨ 4 < count ∨ s.components.isEmpty then none
  let pairs ← (List.range count).mapM fun i => do
    return (← byte? bytes (pos + 3 + 2 * i), ← byte? bytes (pos + 4 + 2 * i))
  let s ← nameTables? { s with scan := [] } [] pairs
  let first ← byte? bytes (pos + 3 + 2 * count)
  let last ← byte? bytes (pos + 4 + 2 * count)
  let steps ← byte? bytes (pos + 5 + 2 * count)
  if 63 < first ∨ 63 < last ∨ 13 < steps / 16 ∨ 13 < steps % 16 then none
  return { s with band := (first, last) }

/-! ## Notes -/

def colorName : List Nat := "Adobe".toList.map (·.toNat)

/-- Read the note that tells the colours at `pos`, behind its marker. -/
def colorNote? (bytes : ByteArray) (pos length : Nat) (s : State) : Option State := do
  if length < 14 ∨ bytes.size < pos + length then none
  if (← bytes? bytes (pos + 2) 5) ≠ colorName then return s
  match ← byte? bytes (pos + 13) with
  | 0 => return { s with space := .inks }
  | 1 => return { s with space := .brightness }
  | 2 => return { s with space := .brightnessInks }
  | _ => none

/-! ## Any segment -/

/-- Read the segment at `pos`, behind a known marker; yields the position behind it. -/
def segment? (bytes : ByteArray) (marker pos : Nat) (s : State) : Option (State × Nat) := do
  let length ← short? bytes pos
  let stop := pos + length
  if length < 2 ∨ Marker.forbidden.contains marker then none
  else if Marker.frames.contains marker then
    return (← frame? bytes pos (marker == Marker.progressiveFrame) s, stop)
  else if marker = Marker.quantizations then
    return (← quantizations? bytes (pos + 2) stop s, stop)
  else if marker = Marker.words then
    return (← codes? bytes (pos + 2) stop s, stop)
  else if marker = Marker.scan then
    return (← scan? bytes pos s, stop)
  else if marker = Marker.restartInterval then
    if length ≠ 4 then none
    else return ({ s with restart := ← short? bytes (pos + 2) }, stop)
  else if marker = Marker.colorNote then
    return (← colorNote? bytes pos length s, stop)
  else if marker = Marker.firstNote then
    -- Five bytes of a note that is not empty are read before its length is heeded.
    if length ≤ 5 then return (s, stop)
    else if bytes.size < pos + 7 then none
    else return (s, max stop (pos + 7))
  else if Marker.wholeNotes.contains marker ∧ bytes.size < stop then none
  else return (s, stop)

/-- The next marker from a position on, with the position behind it. -/
def marker? (bytes : ByteArray) (pos : Nat) : Option (Nat × Nat) :=
  match byte? bytes pos, byte? bytes (pos + 1) with
  | some lead, some marker =>
    if _h : pos < bytes.size then
      if lead = 0xFF ∧ marker ≠ 0 ∧ marker ≠ 0xFF then some (marker, pos + 2)
      else marker? bytes (pos + 1)
    else none
  | _, _ => none
termination_by bytes.size - pos

/-- Read segments from a position on up to the head of the first scan; yields the position behind
it. -/
def heads? (bytes : ByteArray) (pos : Nat) (s : State) : Option (State × Nat) :=
  match marker? bytes pos with
  | none => none
  | some (marker, body) =>
    let read :=
      if Marker.isKnown marker then segment? bytes marker body s
      else (short? bytes body).bind fun length =>
        if length < 2 then none else some (s, body + length)
    match read with
    | none => none
    | some (s, next) =>
      if marker = Marker.scan then some (s, next)
      else if _h : pos < next ∧ pos < bytes.size then heads? bytes next s
      else none
termination_by bytes.size - pos

end Jpeg
end Picture
end Shop
