import DlmsHdlc.Types

/-! The FCS-16 checksum: a reflected shift register over the bytes of a frame. -/
namespace DlmsHdlc

def kInitialFcs : UInt16 := 0xffff
def kPolynomial : UInt16 := 0x8408

/-- One turn of the bit loop. -/
def shiftCrc (crc : UInt16) : UInt16 :=
  if crc &&& 0x0001 ≠ 0 then (crc >>> 1) ^^^ kPolynomial else crc >>> 1

def updateCrc (crc : UInt16) (value : UInt8) : UInt16 :=
  Nat.repeat shiftCrc 8 (crc ^^^ value.toUInt16)

/-- A null pointer gives zero whatever its size: `0xffff ^ 0xffff` when the size is zero. -/
def calculateHdlcCrc : Pointer → UInt16
  | none => 0
  | some data => data.foldl updateCrc kInitialFcs ^^^ 0xffff

end DlmsHdlc
