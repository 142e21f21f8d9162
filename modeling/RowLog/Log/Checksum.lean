/-!
# The checksum of a payload

The 32-bit cyclic redundancy check with the reflected polynomial `0xedb88320`, over all bits of the
payload from the lowest bit of each byte on.
-/

namespace RowLog.Checksum

/-- The polynomial, reflected. -/
def polynomial : UInt32 := 0xedb88320

def shiftBit (register : UInt32) : UInt32 :=
  if register &&& 1 == 1 then (register >>> 1) ^^^ polynomial else register >>> 1

def addByte (register : UInt32) (byte : UInt8) : UInt32 :=
  Nat.repeat shiftBit 8 (register ^^^ byte.toUInt32)

def ofBytes (bytes : List UInt8) : UInt32 :=
  bytes.foldl addByte 0xffffffff ^^^ 0xffffffff

end RowLog.Checksum
