import Bscp.Struct

/-!
The checksum of `zlib.crc32` and of the `crc32fast` crate: the reflected polynomial 0xEDB88320, all
ones before the first byte and after the last one.
-/

namespace Bscp.Crc32

def shift (crc : UInt32) : UInt32 := if crc &&& 1 = 1 then (crc >>> 1) ^^^ 0xEDB88320 else crc >>> 1

def shifts : Nat → UInt32 → UInt32
  | 0, crc => crc
  | count + 1, crc => shifts count (shift crc)

def crc32 (data : Bytes) : UInt32 :=
  (data.foldl (fun crc byte => shifts 8 (crc ^^^ byte.toUInt32)) 0xFFFFFFFF) ^^^ 0xFFFFFFFF

/-- The value that every table of check values gives for the digits from 1 to 9. -/
example : crc32 [0x31, 0x32, 0x33, 0x34, 0x35, 0x36, 0x37, 0x38, 0x39] = 0xCBF43926 := by
  decide +kernel

end Bscp.Crc32
