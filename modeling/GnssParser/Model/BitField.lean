import GnssParser.Lib.Checked

/-!
# Bit fields and parity

The bit-field readers and writers of the message processor, its CRC-24Q and its GLONASS string
test.
-/

namespace GnssParser
open Checked

variable {n : Nat}

/-! ## Bit fields -/

/-- One round of `setbitu`, for bit `i` of the bytes of the buffer from index `base` on. -/
def setBit (base : Nat) (data : UInt32) (i : Nat) (s : Vector UInt8 n × UInt32) :
    Checked (Vector UInt8 n × UInt32) := do
  let (buff, mask) := s
  let b ← readAt buff (base + i / 8)
  let bit : UInt8 := 1 <<< UInt8.ofNat (7 - i % 8)
  let buff ← writeAt buff (base + i / 8) (if data &&& mask ≠ 0 then b ||| bit else b &&& ~~~bit)
  pure (buff, mask >>> 1)

/-- `setbitu` on the bytes of `buff` from index `base` on. -/
def setbitu (buff : Vector UInt8 n) (base pos len : Nat) (data : UInt32) :
    Checked (Vector UInt8 n) :=
  if len = 0 ∨ len > 32 then pure buff
  else do
    let (buff, _) ← forRange (setBit base data) pos len
      (buff, (1 : UInt32) <<< UInt32.ofNat (len - 1))
    pure buff

/-- One round of `getbitu`. -/
def getBit (buff : BytePtr) (i : Nat) (bits : UInt32) : Checked UInt32 := do
  let b ← buff (i / 8)
  pure ((bits <<< 1) + ((b.toUInt32 >>> UInt32.ofNat (7 - i % 8)) &&& 1))

def getbitu (buff : BytePtr) (pos len : Nat) : Checked UInt32 :=
  forRange (getBit buff) pos len 0

/-! Positions and lengths are `uint32_t`, and so is the bound of the two loops. -/

/-- The rounds of `for (i = pos; i < pos + len; ++i)`. -/
def rounds (pos len : UInt32) : Nat := (pos + len).toNat - pos.toNat

def setbitu32 (buff : Vector UInt8 n) (base : Nat) (pos len data : UInt32) :
    Checked (Vector UInt8 n) :=
  if len = 0 ∨ len > 32 then pure buff
  else do
    let (buff, _) ← forRange (setBit base data) pos.toNat (rounds pos len)
      (buff, (1 : UInt32) <<< (len - 1))
    pure buff

def getbitu32 (buff : BytePtr) (pos len : UInt32) : Checked UInt32 :=
  forRange (getBit buff) pos.toNat (rounds pos len) 0

def getbits (buff : BytePtr) (pos len : Nat) : Checked Int32 := do
  let bits ← getbitu buff pos len
  if len = 0 ∨ len ≥ 32 ∨ bits &&& (1 <<< UInt32.ofNat (len - 1)) = 0 then pure bits.toInt32
  else pure (bits ||| (0xFFFFFFFF <<< UInt32.ofNat len)).toInt32

def getbitu2 (buff : BytePtr) (p1 l1 p2 l2 : Nat) : Checked UInt32 := do
  let a ← getbitu buff p1 l1
  let b ← getbitu buff p2 l2
  pure ((a <<< UInt32.ofNat l2) + b)

def getbits2 (buff : BytePtr) (p1 l1 p2 l2 : Nat) : Checked Int32 := do
  if (← getbitu buff p1 1) ≠ 0 then
    let a ← getbits buff p1 l1
    let b ← getbitu buff p2 l2
    pure ((a <<< Int32.ofNat l2).toUInt32 + b).toInt32
  else
    pure (← getbitu2 buff p1 l1 p2 l2).toInt32

def getbitu3 (buff : BytePtr) (p1 l1 p2 l2 p3 l3 : Nat) : Checked UInt32 := do
  let a ← getbitu buff p1 l1
  let b ← getbitu buff p2 l2
  let c ← getbitu buff p3 l3
  pure ((a <<< UInt32.ofNat (l2 + l3)) + (b <<< UInt32.ofNat l3) + c)

def getbits3 (buff : BytePtr) (p1 l1 p2 l2 p3 l3 : Nat) : Checked Int32 := do
  if (← getbitu buff p1 1) ≠ 0 then
    let a ← getbits buff p1 l1
    let b ← getbitu buff p2 l2
    let c ← getbitu buff p3 l3
    pure ((a <<< Int32.ofNat (l2 + l3)).toUInt32 + (b <<< UInt32.ofNat l3) + c).toInt32
  else
    pure (← getbitu3 buff p1 l1 p2 l2 p3 l3).toInt32

/-- The sign-magnitude field of GLONASS strings. -/
def getbitg (buff : BytePtr) (pos len : Nat) : Checked ℚ := do
  let value ← getbitu buff (pos + 1) (len - 1)
  if (← getbitu buff pos 1) ≠ 0 then pure (-(value.toNat : ℚ)) else pure (value.toNat : ℚ)

def mergeTwoU (a b : UInt32) (n : Nat) : UInt32 := (a <<< UInt32.ofNat n) + b

/-- The second operand is a byte: a wider argument is truncated. -/
def mergeTwoS (a : Int32) (b : UInt8) (n : Nat) : Int32 :=
  (a <<< Int32.ofNat n) + Int32.ofNat b.toNat

/-! ## CRC-24Q -/

set_option maxRecDepth 4000 in
def tblCrc24q : Vector UInt32 256 := #v[
  0x000000, 0x864CFB, 0x8AD50D, 0x0C99F6, 0x93E6E1, 0x15AA1A, 0x1933EC, 0x9F7F17, 0xA18139,
  0x27CDC2, 0x2B5434, 0xAD18CF, 0x3267D8, 0xB42B23, 0xB8B2D5, 0x3EFE2E, 0xC54E89, 0x430272,
  0x4F9B84, 0xC9D77F, 0x56A868, 0xD0E493, 0xDC7D65, 0x5A319E, 0x64CFB0, 0xE2834B, 0xEE1ABD,
  0x685646, 0xF72951, 0x7165AA, 0x7DFC5C, 0xFBB0A7, 0x0CD1E9, 0x8A9D12, 0x8604E4, 0x00481F,
  0x9F3708, 0x197BF3, 0x15E205, 0x93AEFE, 0xAD50D0, 0x2B1C2B, 0x2785DD, 0xA1C926, 0x3EB631,
  0xB8FACA, 0xB4633C, 0x322FC7, 0xC99F60, 0x4FD39B, 0x434A6D, 0xC50696, 0x5A7981, 0xDC357A,
  0xD0AC8C, 0x56E077, 0x681E59, 0xEE52A2, 0xE2CB54, 0x6487AF, 0xFBF8B8, 0x7DB443, 0x712DB5,
  0xF7614E, 0x19A3D2, 0x9FEF29, 0x9376DF, 0x153A24, 0x8A4533, 0x0C09C8, 0x00903E, 0x86DCC5,
  0xB822EB, 0x3E6E10, 0x32F7E6, 0xB4BB1D, 0x2BC40A, 0xAD88F1, 0xA11107, 0x275DFC, 0xDCED5B,
  0x5AA1A0, 0x563856, 0xD074AD, 0x4F0BBA, 0xC94741, 0xC5DEB7, 0x43924C, 0x7D6C62, 0xFB2099,
  0xF7B96F, 0x71F594, 0xEE8A83, 0x68C678, 0x645F8E, 0xE21375, 0x15723B, 0x933EC0, 0x9FA736,
  0x19EBCD, 0x8694DA, 0x00D821, 0x0C41D7, 0x8A0D2C, 0xB4F302, 0x32BFF9, 0x3E260F, 0xB86AF4,
  0x2715E3, 0xA15918, 0xADC0EE, 0x2B8C15, 0xD03CB2, 0x567049, 0x5AE9BF, 0xDCA544, 0x43DA53,
  0xC596A8, 0xC90F5E, 0x4F43A5, 0x71BD8B, 0xF7F170, 0xFB6886, 0x7D247D, 0xE25B6A, 0x641791,
  0x688E67, 0xEEC29C, 0x3347A4, 0xB50B5F, 0xB992A9, 0x3FDE52, 0xA0A145, 0x26EDBE, 0x2A7448,
  0xAC38B3, 0x92C69D, 0x148A66, 0x181390, 0x9E5F6B, 0x01207C, 0x876C87, 0x8BF571, 0x0DB98A,
  0xF6092D, 0x7045D6, 0x7CDC20, 0xFA90DB, 0x65EFCC, 0xE3A337, 0xEF3AC1, 0x69763A, 0x578814,
  0xD1C4EF, 0xDD5D19, 0x5B11E2, 0xC46EF5, 0x42220E, 0x4EBBF8, 0xC8F703, 0x3F964D, 0xB9DAB6,
  0xB54340, 0x330FBB, 0xAC70AC, 0x2A3C57, 0x26A5A1, 0xA0E95A, 0x9E1774, 0x185B8F, 0x14C279,
  0x928E82, 0x0DF195, 0x8BBD6E, 0x872498, 0x016863, 0xFAD8C4, 0x7C943F, 0x700DC9, 0xF64132,
  0x693E25, 0xEF72DE, 0xE3EB28, 0x65A7D3, 0x5B59FD, 0xDD1506, 0xD18CF0, 0x57C00B, 0xC8BF1C,
  0x4EF3E7, 0x426A11, 0xC426EA, 0x2AE476, 0xACA88D, 0xA0317B, 0x267D80, 0xB90297, 0x3F4E6C,
  0x33D79A, 0xB59B61, 0x8B654F, 0x0D29B4, 0x01B042, 0x87FCB9, 0x1883AE, 0x9ECF55, 0x9256A3,
  0x141A58, 0xEFAAFF, 0x69E604, 0x657FF2, 0xE33309, 0x7C4C1E, 0xFA00E5, 0xF69913, 0x70D5E8,
  0x4E2BC6, 0xC8673D, 0xC4FECB, 0x42B230, 0xDDCD27, 0x5B81DC, 0x57182A, 0xD154D1, 0x26359F,
  0xA07964, 0xACE092, 0x2AAC69, 0xB5D37E, 0x339F85, 0x3F0673, 0xB94A88, 0x87B4A6, 0x01F85D,
  0x0D61AB, 0x8B2D50, 0x145247, 0x921EBC, 0x9E874A, 0x18CBB1, 0xE37B16, 0x6537ED, 0x69AE1B,
  0xEFE2E0, 0x709DF7, 0xF6D10C, 0xFA48FA, 0x7C0401, 0x42FA2F, 0xC4B6D4, 0xC82F22, 0x4E63D9,
  0xD11CCE, 0x575035, 0x5BC9C3, 0xDD8538]

def crc24q (data : BytePtr) (size : Nat) : Checked UInt32 :=
  forRange (fun i crc => do
    let b ← data i
    let entry ← readAt tblCrc24q ((crc >>> 16) ^^^ b.toUInt32).toNat
    pure (((crc <<< 8) &&& 0xFFFFFF) ^^^ entry)) 0 size 0

/-! ## GLONASS strings -/

set_option maxRecDepth 4000 in
/-- The XOR of the bits of a byte. -/
def xor8bit : Vector UInt8 256 := #v[
  0, 1, 1, 0, 1, 0, 0, 1, 1, 0, 0, 1, 0, 1, 1, 0, 1, 0, 0, 1, 0, 1, 1, 0, 0, 1, 1, 0, 1, 0, 0, 1,
  1, 0, 0, 1, 0, 1, 1, 0, 0, 1, 1, 0, 1, 0, 0, 1, 0, 1, 1, 0, 1, 0, 0, 1, 1, 0, 0, 1, 0, 1, 1, 0,
  1, 0, 0, 1, 0, 1, 1, 0, 0, 1, 1, 0, 1, 0, 0, 1, 0, 1, 1, 0, 1, 0, 0, 1, 1, 0, 0, 1, 0, 1, 1, 0,
  0, 1, 1, 0, 1, 0, 0, 1, 1, 0, 0, 1, 0, 1, 1, 0, 1, 0, 0, 1, 0, 1, 1, 0, 0, 1, 1, 0, 1, 0, 0, 1,
  1, 0, 0, 1, 0, 1, 1, 0, 0, 1, 1, 0, 1, 0, 0, 1, 0, 1, 1, 0, 1, 0, 0, 1, 1, 0, 0, 1, 0, 1, 1, 0,
  0, 1, 1, 0, 1, 0, 0, 1, 1, 0, 0, 1, 0, 1, 1, 0, 1, 0, 0, 1, 0, 1, 1, 0, 0, 1, 1, 0, 1, 0, 0, 1,
  0, 1, 1, 0, 1, 0, 0, 1, 1, 0, 0, 1, 0, 1, 1, 0, 1, 0, 0, 1, 0, 1, 1, 0, 0, 1, 1, 0, 1, 0, 0, 1,
  1, 0, 0, 1, 0, 1, 1, 0, 0, 1, 1, 0, 1, 0, 0, 1, 0, 1, 1, 0, 1, 0, 0, 1, 1, 0, 0, 1, 0, 1, 1, 0]

def maskHamming : Vector (Vector UInt8 12) 8 := #v[
  #v[0x55, 0x55, 0x5A, 0xAA, 0xAA, 0xAA, 0xB5, 0x55, 0x6A, 0xD8, 0x08, 0],
  #v[0x66, 0x66, 0x6C, 0xCC, 0xCC, 0xCC, 0xD9, 0x99, 0xB3, 0x68, 0x10, 0],
  #v[0x87, 0x87, 0x8F, 0x0F, 0x0F, 0x0F, 0x1E, 0x1E, 0x3C, 0x70, 0x20, 0],
  #v[0x07, 0xF8, 0x0F, 0xF0, 0x0F, 0xF0, 0x1F, 0xE0, 0x3F, 0x80, 0x40, 0],
  #v[0xF8, 0x00, 0x0F, 0xFF, 0xF0, 0x00, 0x1F, 0xFF, 0xC0, 0x00, 0x80, 0],
  #v[0x00, 0x00, 0x0F, 0xFF, 0xFF, 0xFF, 0xE0, 0x00, 0x00, 0x01, 0x00, 0],
  #v[0xFF, 0xFF, 0xF0, 0x00, 0x00, 0x00, 0x00, 0x00, 0x00, 0x02, 0x00, 0],
  #v[0xFF, 0xFF, 0xFF, 0xFF, 0xFF, 0xFF, 0xFF, 0xFF, 0xFF, 0xFF, 0xF8, 0]]

def testGlostr (data : BytePtr) : Checked Int := do
  let cs : UInt8 := 0
  let n ← forRange (fun i n => do
    -- the inner loop declares a `cs` of its own, so the outer one stays 0
    let _ ← forRange (fun j cs => do
      let b ← data j
      let mask ← readAt maskHamming i
      let bits ← readAt mask j
      let parity ← readAt xor8bit (b &&& bits).toNat
      pure (cs ^^^ parity.toUInt32)) 0 11 (0 : UInt32)
    pure (if cs ≠ 0 then n + 1 else n)) 0 8 (0 : Int)
  pure (if n = 0 ∨ (n = 2 ∧ cs ≠ 0) then 1 else 0)

end GnssParser
