/-!
# Cyclic redundancy checks

The remainder of 32 bits that guards each chunk of a PNG picture.
-/

namespace Shop
namespace Picture

/-- One step of the division of a remainder, low bit first. -/
def checksumStep (r : UInt32) : UInt32 :=
  if r &&& 1 = 1 then (r >>> 1) ^^^ 0xEDB88320 else r >>> 1

/-- The remainders of the single bytes. -/
def checksumTable : Array UInt32 :=
  (Array.range 256).map fun n => Nat.repeat checksumStep 8 (UInt32.ofNat n)

def checksumByte (r : UInt32) (b : UInt8) : UInt32 :=
  checksumTable.getD ((r ^^^ b.toUInt32) &&& 0xFF).toNat 0 ^^^ (r >>> 8)

def checksum (bytes : ByteArray) (start stop : Nat) : UInt32 :=
  bytes.foldl checksumByte 0xFFFFFFFF start stop ^^^ 0xFFFFFFFF

end Picture
end Shop
