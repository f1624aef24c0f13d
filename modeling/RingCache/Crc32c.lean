import RingCache.Text.Utf8

/-!
# CRC-32C

The Castagnoli checksum of octets: a shift register of 32 bits, least
significant bit first, all ones at the start and inverted at the end.
-/

namespace RingCache.Crc32c

/-- The generator polynomial, least significant bit first. -/
def polynomial : UInt32 := 0x82F63B78

/-- Shift one bit out of the register. -/
def shift (register : UInt32) : UInt32 :=
  if register &&& 1 = 1 then (register >>> 1) ^^^ polynomial else register >>> 1

/-- Take one octet into the register. -/
def absorb (register : UInt32) (octet : UInt8) : UInt32 :=
  Nat.repeat shift 8 (register ^^^ octet.toUInt32)

/-- The checksum of octets. -/
def checksum (octets : Octets) : UInt32 :=
  octets.foldl absorb 0xFFFFFFFF ^^^ 0xFFFFFFFF

end RingCache.Crc32c
