/-!
# Checksums

The cyclic redundancy check of 32 bits, low bit first, with the generator 0xEDB88320, started from
all ones and inverted at the end.
-/

namespace TavernLayout

namespace Checksum

/-- One division step: the low bit leaves and subtracts the generator when it is set. -/
def step (c : UInt32) : UInt32 := (c >>> 1) ^^^ (if c &&& 1 = 1 then 0xEDB88320 else 0)

def byte (c : UInt32) (b : UInt8) : UInt32 :=
  step (step (step (step (step (step (step (step (c ^^^ b.toUInt32))))))))

end Checksum

def checksum (bytes : List UInt8) : UInt32 := bytes.foldl Checksum.byte 0xFFFFFFFF ^^^ 0xFFFFFFFF

theorem checksum_nil : checksum [] = 0 := by decide

end TavernLayout
