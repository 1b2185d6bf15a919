import Mathlib

/-!
# `services/dual-writer/src/cql_server.cpp`: frames and length-prefixed fields

The frame header with its two conversions, the big-endian readers, `parse_long_string`
and `build_void_result`. Bytes are `UInt8`, `int16_t` and `int32_t` are `Int16` and
`Int32`, and a `size_t` is a natural number below `2 ^ 64`, so that a cast of a negative
length wraps around as it does in the source.
-/

namespace ScyllaClusterSync
namespace DualWriter

/-! ## Protocol constants -/

def CQL_VERSION_RESPONSE : UInt8 := 0x84

def OP_ERROR : UInt8 := 0x00
def OP_QUERY : UInt8 := 0x07
def OP_RESULT : UInt8 := 0x08
def OP_PREPARE : UInt8 := 0x09
def OP_EXECUTE : UInt8 := 0x0A

def RESULT_PREPARED : Int32 := 0x0004

/-! ## Machine integers -/

/-- `static_cast<size_t>` of a signed integer. -/
def toSizeT (n : ℤ) : ℕ := (n % 2 ^ 64).toNat

/-- Addition of two `size_t`. -/
def addSizeT (a b : ℕ) : ℕ := (a + b) % 2 ^ 64

/-- `read_i16_be` of the two bytes at `p` and `p + 1`. -/
def readI16Be (p0 p1 : UInt8) : Int16 :=
  .ofBitVec ((p0.toBitVec.setWidth 16 <<< 8) ||| p1.toBitVec.setWidth 16)

/-- `read_i32_be` of the four bytes from `p` on. -/
def readI32Be (p0 p1 p2 p3 : UInt8) : Int32 :=
  .ofBitVec ((p0.toBitVec.setWidth 32 <<< 24) ||| (p1.toBitVec.setWidth 32 <<< 16) |||
    (p2.toBitVec.setWidth 32 <<< 8) ||| p3.toBitVec.setWidth 32)

/-! ## The frame header -/

/-- `FrameHeader`. -/
structure FrameHeader where
  version : UInt8 := 0
  flags : UInt8 := 0
  streamId : Int16 := 0
  opcode : UInt8 := 0
  bodyLength : Int32 := 0
deriving DecidableEq, Repr

namespace FrameHeader

/-- `to_bytes`: the masks and casts keep one byte of the shifted value each. -/
def toBytes (h : FrameHeader) : List UInt8 :=
  [h.version, h.flags,
    .ofBitVec ((h.streamId.toBitVec.sshiftRight 8).setWidth 8),
    .ofBitVec (h.streamId.toBitVec.setWidth 8),
    h.opcode,
    .ofBitVec ((h.bodyLength.toBitVec.sshiftRight 24).setWidth 8),
    .ofBitVec ((h.bodyLength.toBitVec.sshiftRight 16).setWidth 8),
    .ofBitVec ((h.bodyLength.toBitVec.sshiftRight 8).setWidth 8),
    .ofBitVec (h.bodyLength.toBitVec.setWidth 8)]

/-- `FrameHeader::response`. -/
def response (opcode : UInt8) (streamId : Int16) (bodyLen : Int32) : FrameHeader where
  version := CQL_VERSION_RESPONSE
  flags := 0x00
  streamId := streamId
  opcode := opcode
  bodyLength := bodyLen

end FrameHeader

/-- `build_void_result`. -/
def buildVoidResult (streamId : Int16) : List UInt8 :=
  (FrameHeader.response OP_RESULT streamId 4).toBytes ++ [0x00, 0x00, 0x00, 0x01]

/-- A client frame as `handle_connection` has read it: a negative `body_length` throws
when the body is allocated, any other is read in full. -/
structure Frame where
  header : FrameHeader
  body : List UInt8
  complete : (body.length : ℤ) = header.bodyLength.toInt
deriving DecidableEq

/-! ## `parse_long_string` -/

/-- A byte string as the `std::string` it is kept in. -/
def toText (bytes : List UInt8) : String := .ofList (bytes.map fun b => .ofNat b.toNat)

/-- `parse_long_string`; `none` stands for the `std::length_error` a wrapped length
raises in the constructor of the string. -/
def parseLongString (body : List UInt8) (offset : ℕ) : Option String :=
  if body.length < addSizeT offset 4 then some ""
  else
    let p := body.drop offset
    let len := toSizeT (readI32Be (p.getD 0 0) (p.getD 1 0) (p.getD 2 0) (p.getD 3 0)).toInt
    if body.length < addSizeT (addSizeT offset 4) len then some ""
    else if 2 ^ 63 ≤ len then none
    else some (toText ((body.drop (offset + 4)).take len))

/-! ## The notations of the protocol -/

/-- `[short bytes]`: two bytes of length, then the bytes. -/
def shortBytes (bytes : List UInt8) : List UInt8 :=
  .ofNat (bytes.length / 256) :: .ofNat (bytes.length % 256) :: bytes

/-- `[long string]`: four bytes of length, then the bytes. -/
def longString (bytes : List UInt8) : List UInt8 :=
  .ofNat (bytes.length / 256 ^ 3) :: .ofNat (bytes.length / 256 ^ 2 % 256) ::
    .ofNat (bytes.length / 256 % 256) :: .ofNat (bytes.length % 256) :: bytes

/-! ## Reading a length back -/

theorem toSizeT_of_nonneg {n : ℕ} (h : n < 2 ^ 64) : toSizeT (n : ℤ) = n := by
  unfold toSizeT
  omega

theorem addSizeT_of_lt {a b : ℕ} (h : a + b < 2 ^ 64) : addSizeT a b = a + b :=
  Nat.mod_eq_of_lt h

theorem toNat_byte {n : ℕ} (h : n < 256) : (UInt8.ofNat n).toNat = n := by
  rw [UInt8.toNat_ofNat']
  omega

/-- One more byte below the bytes read so far. -/
theorem shiftLeft_or_byte (a : ℕ) (b : UInt8) : a <<< 8 ||| b.toNat = a * 256 + b.toNat := by
  have hb := b.toNat_lt
  rw [← Nat.shiftLeft_add_eq_or_of_lt hb, Nat.shiftLeft_eq]

theorem toNat_readI16Be (p0 p1 : UInt8) :
    (readI16Be p0 p1).toBitVec.toNat = p0.toNat * 256 + p1.toNat := by
  have h0 := p0.toNat_lt
  have h1 := p1.toNat_lt
  show ((p0.toBitVec.setWidth 16 <<< 8) ||| p1.toBitVec.setWidth 16).toNat = _
  rw [BitVec.toNat_or, BitVec.toNat_shiftLeft, BitVec.toNat_setWidth, BitVec.toNat_setWidth,
    UInt8.toNat_toBitVec, UInt8.toNat_toBitVec, Nat.mod_eq_of_lt (by omega : p0.toNat < 2 ^ 16),
    Nat.mod_eq_of_lt (by omega : p1.toNat < 2 ^ 16), Nat.mod_eq_of_lt, shiftLeft_or_byte]
  rw [Nat.shiftLeft_eq]
  omega

theorem toNat_readI32Be (p0 p1 p2 p3 : UInt8) :
    (readI32Be p0 p1 p2 p3).toBitVec.toNat =
      ((p0.toNat * 256 + p1.toNat) * 256 + p2.toNat) * 256 + p3.toNat := by
  have h0 := p0.toNat_lt
  have h1 := p1.toNat_lt
  have h2 := p2.toNat_lt
  have h3 := p3.toNat_lt
  show ((p0.toBitVec.setWidth 32 <<< 24) ||| (p1.toBitVec.setWidth 32 <<< 16) |||
    (p2.toBitVec.setWidth 32 <<< 8) ||| p3.toBitVec.setWidth 32).toNat = _
  have hlt24 : p0.toNat <<< 24 < 2 ^ 32 := by
    rw [Nat.shiftLeft_eq]
    omega
  have hlt16 : p1.toNat <<< 16 < 2 ^ 32 := by
    rw [Nat.shiftLeft_eq]
    omega
  have hlt8 : p2.toNat <<< 8 < 2 ^ 32 := by
    rw [Nat.shiftLeft_eq]
    omega
  -- nest the shifts: each byte is or-ed below the ones read before it
  have hnest : p0.toNat <<< 24 ||| p1.toNat <<< 16 ||| p2.toNat <<< 8 ||| p3.toNat =
      ((p0.toNat <<< 8 ||| p1.toNat) <<< 8 ||| p2.toNat) <<< 8 ||| p3.toNat := by
    simp only [Nat.shiftLeft_or_distrib, ← Nat.shiftLeft_add]
  rw [BitVec.toNat_or, BitVec.toNat_or, BitVec.toNat_or, BitVec.toNat_shiftLeft,
    BitVec.toNat_shiftLeft, BitVec.toNat_shiftLeft, BitVec.toNat_setWidth, BitVec.toNat_setWidth,
    BitVec.toNat_setWidth, BitVec.toNat_setWidth, UInt8.toNat_toBitVec, UInt8.toNat_toBitVec,
    UInt8.toNat_toBitVec, UInt8.toNat_toBitVec, Nat.mod_eq_of_lt (by omega : p0.toNat < 2 ^ 32),
    Nat.mod_eq_of_lt (by omega : p1.toNat < 2 ^ 32), Nat.mod_eq_of_lt (by omega : p2.toNat < 2 ^ 32),
    Nat.mod_eq_of_lt (by omega : p3.toNat < 2 ^ 32), Nat.mod_eq_of_lt hlt24,
    Nat.mod_eq_of_lt hlt16, Nat.mod_eq_of_lt hlt8, hnest, shiftLeft_or_byte, shiftLeft_or_byte,
    shiftLeft_or_byte]

/-- A length below `2 ^ 15` is read back as it is. -/
theorem toInt_readI16Be_of_lt {n : ℕ} (h : n < 2 ^ 15) :
    (readI16Be (.ofNat (n / 256)) (.ofNat (n % 256))).toInt = n := by
  have hnat := toNat_readI16Be (.ofNat (n / 256)) (.ofNat (n % 256))
  rw [toNat_byte (by omega), toNat_byte (by omega)] at hnat
  show (readI16Be (.ofNat (n / 256)) (.ofNat (n % 256))).toBitVec.toInt = n
  rw [BitVec.toInt_eq_toNat_of_lt (by omega), hnat]
  omega

/-- A length below `2 ^ 31` is read back as it is. -/
theorem toInt_readI32Be_of_lt {n : ℕ} (h : n < 2 ^ 31) :
    (readI32Be (.ofNat (n / 256 ^ 3)) (.ofNat (n / 256 ^ 2 % 256)) (.ofNat (n / 256 % 256))
      (.ofNat (n % 256))).toInt = n := by
  have hnat := toNat_readI32Be (.ofNat (n / 256 ^ 3)) (.ofNat (n / 256 ^ 2 % 256))
    (.ofNat (n / 256 % 256)) (.ofNat (n % 256))
  rw [toNat_byte (by omega), toNat_byte (by omega), toNat_byte (by omega),
    toNat_byte (by omega)] at hnat
  show (readI32Be (.ofNat (n / 256 ^ 3)) (.ofNat (n / 256 ^ 2 % 256)) (.ofNat (n / 256 % 256))
    (.ofNat (n % 256))).toBitVec.toInt = n
  rw [BitVec.toInt_eq_toNat_of_lt (by omega), hnat]
  omega

/-- `parse_long_string` reads a `[long string]` at the front of a body. -/
theorem parseLongString_longString {bytes : List UInt8} (h : bytes.length < 2 ^ 31)
    (rest : List UInt8) : parseLongString (longString bytes ++ rest) 0 = some (toText bytes) := by
  have hlen : (longString bytes ++ rest).length = 4 + bytes.length + rest.length := by
    simp only [longString, List.cons_append, List.length_cons, List.length_append]
    omega
  unfold parseLongString
  have h4 : addSizeT 0 4 = 4 := rfl
  rw [h4, if_neg (by omega)]
  have hread : toSizeT (readI32Be (((longString bytes ++ rest).drop 0).getD 0 0)
      (((longString bytes ++ rest).drop 0).getD 1 0) (((longString bytes ++ rest).drop 0).getD 2 0)
      (((longString bytes ++ rest).drop 0).getD 3 0)).toInt = bytes.length := by
    show toSizeT (readI32Be (.ofNat (bytes.length / 256 ^ 3)) (.ofNat (bytes.length / 256 ^ 2 % 256))
      (.ofNat (bytes.length / 256 % 256)) (.ofNat (bytes.length % 256))).toInt = bytes.length
    rw [toInt_readI32Be_of_lt h, toSizeT_of_nonneg (by omega)]
  simp only [hread]
  rw [addSizeT_of_lt (by omega), if_neg (by omega), if_neg (by omega)]
  show some (toText ((bytes ++ rest).take bytes.length)) = _
  rw [List.take_left]

end DualWriter
end ScyllaClusterSync
