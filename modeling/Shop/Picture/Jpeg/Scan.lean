import Shop.Picture.Jpeg.Segment

/-!
# Scans

The words of a scan, read unit by unit.  A unit holds blocks of 64 coefficients from every component
of the scan.  The samples are not wanted here, only the marker that the words run into before the
picture is full, because the segment behind it may spoil the picture.  Damage to the words themselves
spoils pixels alone.

Bits are fetched ahead, up to four bytes at a time, as soon as fewer than 32 are left, and a marker
is noticed when it is fetched.  From then on the words read zeros.
-/

namespace Shop
namespace Picture
namespace Jpeg

/-! ## Bits -/

/-- The bits that are fetched, the next one highest, and where more come from. -/
structure Reader where
  pos : Nat
  held : Nat
  count : Nat
  /-- The marker that the bits have run into. -/
  marker : Option Nat

namespace Reader

def fresh (pos : Nat) : Reader := ⟨pos, 0, 0, none⟩

/-- The first position from `pos` on whose byte is not all ones. -/
def behindFill (bytes : ByteArray) (pos : Nat) : Nat :=
  if h : pos < bytes.size then
    if bytes[pos] = 0xFF then behindFill bytes (pos + 1) else pos
  else pos
termination_by bytes.size - pos

def push (r : Reader) (byte next : Nat) : Reader :=
  { r with pos := next, held := 256 * r.held + byte, count := r.count + 8 }

/-- Fetch a byte.  A byte of ones is followed by a zero, else it begins a marker.  There is nothing
more to fetch behind the last byte, behind the end of the picture and behind a marker without a
meaning. -/
def pull (bytes : ByteArray) (r : Reader) : Option Reader := do
  let byte ← byte? bytes r.pos
  if byte ≠ 0xFF then return r.push byte (r.pos + 1)
  let next := behindFill bytes (r.pos + 1)
  let marker ← byte? bytes next
  if marker = 0 then return r.push byte (next + 1)
  else if marker = Marker.finish ∨ !Marker.isKnown marker then none
  else return { r with pos := next + 1, marker := some marker }

/-- Fetch some bytes, none behind a marker. -/
def pulls (bytes : ByteArray) : Nat → Reader → Option Reader
  | 0, r => some r
  | n + 1, r =>
    if r.marker.isSome then some r
    else match r.pull bytes with
      | none => none
      | some r => pulls bytes n r

/-- Fetch bits if fewer than 32 are left. -/
def refill (bytes : ByteArray) (r : Reader) : Option Reader :=
  if 32 ≤ r.count then some r
  else if r.marker.isSome then some { r with held := r.held * Nat.pow 2 32, count := r.count + 32 }
  else r.pulls bytes 4

/-- Drop bits; there may be fewer. -/
def drop (r : Reader) (n : Nat) : Reader :=
  { r with held := r.held % Nat.pow 2 (r.count - n), count := r.count - n }

def bit? (r : Reader) (i : Nat) : Option Nat :=
  if i < r.count then some ((r.held >>> (r.count - 1 - i)) % 2) else none

def symbol? (r : Reader) (code : PrefixCode) : Option (Nat × Reader) :=
  (code.symbol? r.bit?).map fun (symbol, size) => (symbol, r.drop size)

end Reader

/-! ## Blocks -/

/-- Read the coefficients behind the first, of which `left` are left.  A symbol tells how many of them
are zero and the bits of the next one; one of no bits ends the block, or stands for sixteen zeros. -/
def coefficients (bytes : ByteArray) (code : PrefixCode) (left : Nat) (r : Reader) :
    Option Reader :=
  if _h : left = 0 then some r
  else match (r.refill bytes).bind (·.symbol? code) with
    | none => none
    | some (symbol, r) =>
      if symbol % 16 ≠ 0 then
        coefficients bytes code (left - (symbol / 16 + 1)) (r.drop (symbol % 16))
      else if symbol / 16 ≠ 15 then some r
      else coefficients bytes code (left - 16) r
termination_by left

/-- Read a block: the size of its first coefficient with its bits, then the others. -/
def block (bytes : ByteArray) (direct alternating : PrefixCode) (r : Reader) : Option Reader := do
  let (size, r) ← (← r.refill bytes).symbol? direct
  coefficients bytes alternating 63 (r.drop size)

def unit (bytes : ByteArray) : List (PrefixCode × PrefixCode) → Reader → Option Reader
  | [], r => some r
  | (direct, alternating) :: rest, r =>
    match block bytes direct alternating r with
    | none => none
    | some r => unit bytes rest r

/-- The marker that `units` units run into, with the position behind it.  A restart is a fresh start
once `todo` more units are read; until then zeros are. -/
def interruption? (bytes : ByteArray) (codes : List (PrefixCode × PrefixCode)) (restart : Nat) :
    Nat → Nat → Reader → Option (Nat × Nat)
  | 0, _, _ => none
  | units + 1, todo, r =>
    match unit bytes codes r with
    | none => none
    | some r =>
      match r.marker with
      | none => interruption? bytes codes restart units (todo - 1) r
      | some marker =>
        if !Marker.isRestart marker then some (marker, r.pos)
        else if todo - 1 = 0 then interruption? bytes codes restart units restart (.fresh r.pos)
        else interruption? bytes codes restart units (todo - 1) r

/-! ## Frames -/

namespace State

/-- The finest sampling of any component, across and down. -/
def finest (s : State) : Nat × Nat :=
  ((s.components.map (·.across)).foldl max 1, (s.components.map (·.down)).foldl max 1)

def cover (length piece : Nat) : Nat := (length + piece - 1) / piece

/-- The units of the last scan.  A scan of one component goes by its own blocks. -/
def units (s : State) : Nat :=
  let (width, height) := s.size.getD (0, 0)
  let (across, down) := s.finest
  match s.scanned with
  | [c] => cover (cover (width * c.across) across) 8 * cover (cover (height * c.down) down) 8
  | _ => cover width (8 * across) * cover height (8 * down)

/-- The codes of the blocks of one unit of the last scan, if they are all there. -/
def blockCodes? (s : State) : Option (List (PrefixCode × PrefixCode)) :=
  let parts := s.scanned.mapM fun c => do
    let codes := (← s.directCode? c, ← s.alternatingCode? c)
    return List.replicate (if s.scan.length = 1 then 1 else c.across * c.down) codes
  parts.map (·.flatten)

end State

/-- Whether the picture survives the words of the scans from `pos` on.  It does not if they run into
a segment that cannot be read.  Another scan is read only if the first one did not have every
component. -/
def survives (bytes : ByteArray) (pos : Nat) (s : State) : Bool :=
  match s.blockCodes? with
  | none => false
  | some codes =>
    match interruption? bytes codes s.restart s.units s.restart (.fresh pos) with
    | none => true
    | some (marker, body) =>
      match segment? bytes marker body s with
      | none => false
      | some (next, stop) =>
        if marker ≠ Marker.scan ∨ s.scan.length = s.components.length then true
        else if _h : pos < stop ∧ pos < bytes.size then survives bytes stop next
        else false
termination_by bytes.size - pos

/-! ## Frames that are refined -/

/-- Whether the words of the last scan can be read at all: it has one component, or the first
coefficient alone, and its tables are there. -/
def State.isRefinable (s : State) : Bool :=
  if s.scan.length = 1 ∧ s.band.1 ≠ 0 then s.scanned.all fun c => (s.alternatingCode? c).isSome
  else s.band.2 == 0 && s.scan.length ≤ s.space.planes &&
    s.scanned.all fun c => (s.directCode? c).isSome

/-- Whether the picture survives the segments from `pos` on, behind the words of a scan.  It is left
as it is when they end, or at a marker without a meaning. -/
def survivesRefining (bytes : ByteArray) (pos : Nat) (s : State) : Bool :=
  match marker? bytes pos with
  | none => true
  | some (marker, body) =>
    if marker = Marker.finish ∨ !Marker.isKnown marker then true
    else if _h : pos < body ∧ pos < bytes.size then
      if Marker.isRestart marker then survivesRefining bytes body s
      else match segment? bytes marker body s with
        | none => false
        | some (s, stop) =>
          if marker = Marker.scan ∧ !s.isRefinable then true
          else if _h : pos < stop then survivesRefining bytes stop s
          else false
    else false
termination_by bytes.size - pos

end Jpeg
end Picture
end Shop
