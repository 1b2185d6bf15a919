import ScyllaClusterSync.DualWriter.CqlServer

/-!
# `services/dual-writer/src/cql_server.cpp`: frames on a socket

`parse_header` and the reads of whole frames. A socket is the list of bytes that can still
be read from it; a read that runs past its end throws. The shifts and masks of the header
are spelled out here as they are evaluated, on operands promoted to `int`, and shown to be
the shorter ones of `CqlFrame`.
-/

namespace ScyllaClusterSync
namespace DualWriter

/-! ## Integer promotion -/

/-- `static_cast<uint8_t>(n & 0xFF)` of an `int`. -/
def lowByte (n : BitVec 32) : UInt8 := .ofBitVec ((n &&& 0xFF).setWidth 8)

/-- An `int16_t` as the `int` it is promoted to. -/
def promote (n : BitVec 16) : BitVec 32 := n.signExtend 32

/-- `to_bytes`, on promoted operands. -/
def FrameHeader.toByteArray (h : FrameHeader) : Vector UInt8 9 :=
  let streamId := promote h.streamId.toBitVec
  let bodyLength := h.bodyLength.toBitVec
  #v[h.version, h.flags, lowByte (streamId.sshiftRight 8), lowByte streamId, h.opcode,
    lowByte (bodyLength.sshiftRight 24), lowByte (bodyLength.sshiftRight 16),
    lowByte (bodyLength.sshiftRight 8), lowByte bodyLength]

/-- `read_i16_be`: each byte becomes an `int16_t`, is promoted, and the result is cut
back to 16 bits. -/
def readI16BeAsInt (p0 p1 : UInt8) : Int16 :=
  .ofBitVec ((promote (p0.toBitVec.setWidth 16) <<< 8 |||
    promote (p1.toBitVec.setWidth 16)).setWidth 16)

/-- `parse_header`. -/
def parseHeader (buf : Vector UInt8 9) : FrameHeader where
  version := buf[0]
  flags := buf[1]
  streamId := readI16BeAsInt buf[2] buf[3]
  opcode := buf[4]
  bodyLength := readI32Be buf[5] buf[6] buf[7] buf[8]

theorem toList_nine (b : Vector UInt8 9) :
    b.toList = [b[0], b[1], b[2], b[3], b[4], b[5], b[6], b[7], b[8]] := by
  apply List.ext_getElem
  · simp
  · intro i hi hi'
    simp only [Vector.length_toList] at hi
    interval_cases i <;> simp

/-! ## Reading from a socket -/

/-- `asio::async_read` of exactly `n` bytes: the buffer and what is left. -/
def asyncRead (n : ℕ) (sock : List UInt8) : Option (Vector UInt8 n × List UInt8) :=
  if h : n ≤ sock.length then
    some (⟨(sock.take n).toArray, List.size_toArray.trans (List.length_take_of_le h)⟩,
      sock.drop n)
  else none

/-- `read_full_frame`. The vector of a wrapped length cannot be allocated. -/
def readFullFrame (sock : List UInt8) : Option (List UInt8 × List UInt8) :=
  (asyncRead 9 sock).bind fun (hdrBuf, rest) =>
    let bodyLen := toSizeT (readI32Be hdrBuf[5] hdrBuf[6] hdrBuf[7] hdrBuf[8]).toInt
    if 2 ^ 63 ≤ bodyLen then none
    else (asyncRead bodyLen rest).map fun (body, rest) => (hdrBuf.toList ++ body.toList, rest)

/-- The body of a header with a length that is not negative is as long as it says. -/
theorem length_body {header : FrameHeader} (h : 0 ≤ header.bodyLength.toInt)
    (body : Vector UInt8 header.bodyLength.toInt.toNat) :
    (body.toList.length : ℤ) = header.bodyLength.toInt := by
  rw [Vector.length_toList]
  exact Int.toNat_of_nonneg h

/-- The head of the loop of `handle_connection`: the header, then its body. A negative
`body_length` throws. -/
def readClientFrame (sock : List UInt8) : Option (Frame × List UInt8) :=
  (asyncRead 9 sock).bind fun (hdrBuf, rest) =>
    let header := parseHeader hdrBuf
    if h : 0 ≤ header.bodyLength.toInt then
      (asyncRead header.bodyLength.toInt.toNat rest).map fun (body, rest) =>
        ({ header := header, body := body.toList, complete := length_body h body }, rest)
    else none

/-- What is answered to a frame when the source's answers are read from `source`. -/
def Replies.ofSocket (src tgt : Svckit.Outcome) (id : String) (source : List UInt8) :
    Replies where
  source := src
  target := tgt
  id := id
  forwarded := (readFullFrame source).map Prod.fst

/-- The frames written to the source socket while a frame is handled. -/
def Handling.toSource (r : Handling) : List (List UInt8) :=
  r.effects.filterMap fun e => match e with
    | .forward bytes => some bytes
    | _ => none

end DualWriter
end ScyllaClusterSync
