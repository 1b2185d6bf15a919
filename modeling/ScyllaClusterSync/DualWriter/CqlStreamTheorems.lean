import ScyllaClusterSync.DualWriter.CqlStream
import ScyllaClusterSync.DualWriter.PreparedStmtTheorems
import ScyllaClusterSync.DualWriter.LengthPrefixTheorems

/-!
# Forwarding is byte-transparent

The header is decoded and encoded again before it is forwarded. Both directions are
inverse to each other for all `2 ^ 72` headers (`toByteArray_parseHeader`,
`parseHeader_toByteArray`), so what goes out to the source is what came in from the
client, and what goes back is one whole frame of the source. One response is read and not
given back, a PREPARED result whose id length wraps around: `forwarding_transparent_iff`.
-/

namespace ScyllaClusterSync
namespace DualWriter

open Lib Svckit

/-! ## The bytes of a word -/

/-- The byte of a word that starts at bit `k`. -/
def byteAt {w : ℕ} (x : BitVec w) (k : ℕ) : UInt8 := .ofBitVec ((x.sshiftRight k).setWidth 8)

theorem toNat_byteAt {w : ℕ} (x : BitVec w) {k : ℕ} (h : k + 8 ≤ w) :
    (byteAt x k).toNat = x.toNat / 2 ^ k % 256 := by
  apply Nat.eq_of_testBit_eq
  intro i
  rw [show 256 = 2 ^ 8 by rfl, Nat.testBit_mod_two_pow, Nat.testBit_div_two_pow]
  show ((x.sshiftRight k).setWidth 8).getLsbD i = (decide (i < 8) && x.getLsbD (i + k))
  rw [BitVec.getLsbD_setWidth]
  by_cases hi : i < 8
  · rw [BitVec.getLsbD_sshiftRight]
    simp [hi, show ¬ w ≤ i by omega, show k + i < w by omega, Nat.add_comm]
  · simp [hi]

theorem byteAt_zero {w : ℕ} (x : BitVec w) : byteAt x 0 = .ofBitVec (x.setWidth 8) := by
  rw [byteAt, BitVec.sshiftRight_zero]

/-- `to_bytes` byte by byte. -/
theorem toBytes_eq (h : FrameHeader) :
    h.toBytes = [h.version, h.flags, byteAt h.streamId.toBitVec 8, byteAt h.streamId.toBitVec 0,
      h.opcode, byteAt h.bodyLength.toBitVec 24, byteAt h.bodyLength.toBitVec 16,
      byteAt h.bodyLength.toBitVec 8, byteAt h.bodyLength.toBitVec 0] := by
  rw [byteAt_zero, byteAt_zero]
  rfl

/-! ## Promotion cancels -/

theorem getLsbD_mask (i : ℕ) : (0xFF : BitVec 32).getLsbD i = decide (i < 8) := by
  show Nat.testBit (2 ^ 8 - 1) i = decide (i < 8)
  rw [Nat.testBit_two_pow_sub_one]

/-- The byte cut out of a sign-extended operand is a byte of the operand. -/
theorem lowByte_signExtend {w : ℕ} (x : BitVec w) {k : ℕ} (h : k + 8 ≤ w) (hw : w ≤ 32) :
    lowByte ((x.signExtend 32).sshiftRight k) = byteAt x k := by
  unfold lowByte byteAt
  congr 1
  apply BitVec.eq_of_getLsbD_eq
  intro i hi
  rw [BitVec.getLsbD_setWidth, BitVec.getLsbD_and, getLsbD_mask, BitVec.getLsbD_sshiftRight,
    BitVec.getLsbD_signExtend, BitVec.getLsbD_setWidth, BitVec.getLsbD_sshiftRight]
  simp [hi, show ¬ 32 ≤ i by omega, show k + i < 32 by omega, show ¬ w ≤ i by omega,
    show k + i < w by omega]

/-- The two forms of `to_bytes`. -/
theorem toList_toByteArray (h : FrameHeader) : h.toByteArray.toList = h.toBytes := by
  have hstream : ∀ k, k + 8 ≤ 16 →
      lowByte ((promote h.streamId.toBitVec).sshiftRight k) = byteAt h.streamId.toBitVec k :=
    fun k hk => lowByte_signExtend h.streamId.toBitVec hk (by omega)
  have hlength : ∀ k, k + 8 ≤ 32 →
      lowByte (h.bodyLength.toBitVec.sshiftRight k) = byteAt h.bodyLength.toBitVec k := by
    intro k hk
    have hbyte := lowByte_signExtend h.bodyLength.toBitVec hk (le_refl 32)
    rwa [BitVec.signExtend_eq] at hbyte
  have hstream0 := hstream 0 (by omega)
  have hlength0 := hlength 0 (by omega)
  rw [BitVec.sshiftRight_zero] at hstream0 hlength0
  rw [toBytes_eq, ← hstream 8 (by omega), ← hstream0, ← hlength 24 (by omega),
    ← hlength 16 (by omega), ← hlength 8 (by omega), ← hlength0]
  rfl

/-- The two forms of `read_i16_be`. -/
theorem readI16BeAsInt_eq (p0 p1 : UInt8) : readI16BeAsInt p0 p1 = readI16Be p0 p1 := by
  unfold readI16BeAsInt readI16Be promote
  congr 1
  apply BitVec.eq_of_getLsbD_eq
  intro i hi
  simp only [BitVec.getLsbD_setWidth, BitVec.getLsbD_or, BitVec.getLsbD_shiftLeft,
    BitVec.getLsbD_signExtend]
  simp [hi, show i < 32 by omega, show i - 8 < 16 by omega, show i - 8 < 32 by omega]

/-! ## The header and its nine bytes -/

/-- A 16-bit field read from two bytes has these bytes. -/
theorem byteAt_readI16Be (p0 p1 : UInt8) :
    byteAt (readI16Be p0 p1).toBitVec 8 = p0 ∧ byteAt (readI16Be p0 p1).toBitVec 0 = p1 := by
  have h0 := p0.toNat_lt
  have h1 := p1.toNat_lt
  constructor <;> apply UInt8.toNat_inj.mp <;> rw [toNat_byteAt _ (by omega), toNat_readI16Be] <;>
    omega

theorem byteAt_readI32Be (p0 p1 p2 p3 : UInt8) :
    byteAt (readI32Be p0 p1 p2 p3).toBitVec 24 = p0 ∧
      byteAt (readI32Be p0 p1 p2 p3).toBitVec 16 = p1 ∧
      byteAt (readI32Be p0 p1 p2 p3).toBitVec 8 = p2 ∧
      byteAt (readI32Be p0 p1 p2 p3).toBitVec 0 = p3 := by
  have h0 := p0.toNat_lt
  have h1 := p1.toNat_lt
  have h2 := p2.toNat_lt
  have h3 := p3.toNat_lt
  refine ⟨?_, ?_, ?_, ?_⟩ <;> apply UInt8.toNat_inj.mp <;>
    rw [toNat_byteAt _ (by omega), toNat_readI32Be] <;> omega

/-- A 16-bit field read back from its own bytes. -/
theorem readI16Be_byteAt (x : Int16) : readI16Be (byteAt x.toBitVec 8) (byteAt x.toBitVec 0) = x := by
  apply Int16.toBitVec_inj.mp
  apply BitVec.eq_of_toNat_eq
  rw [toNat_readI16Be, toNat_byteAt _ (by omega), toNat_byteAt _ (by omega)]
  have hx := x.toBitVec.isLt
  omega

theorem readI32Be_byteAt (x : Int32) :
    readI32Be (byteAt x.toBitVec 24) (byteAt x.toBitVec 16) (byteAt x.toBitVec 8)
      (byteAt x.toBitVec 0) = x := by
  apply Int32.toBitVec_inj.mp
  apply BitVec.eq_of_toNat_eq
  rw [toNat_readI32Be, toNat_byteAt _ (by omega), toNat_byteAt _ (by omega),
    toNat_byteAt _ (by omega), toNat_byteAt _ (by omega)]
  have hx := x.toBitVec.isLt
  omega

theorem toBytes_parseHeader (b : Vector UInt8 9) : (parseHeader b).toBytes = b.toList := by
  obtain ⟨h2, h3⟩ := byteAt_readI16Be b[2] b[3]
  obtain ⟨h5, h6, h7, h8⟩ := byteAt_readI32Be b[5] b[6] b[7] b[8]
  rw [toBytes_eq, toList_nine]
  simp only [parseHeader, readI16BeAsInt_eq, h2, h3, h5, h6, h7, h8]

theorem toByteArray_parseHeader (b : Vector UInt8 9) : (parseHeader b).toByteArray = b := by
  apply Vector.toList_inj.mp
  rw [toList_toByteArray, toBytes_parseHeader]

theorem parseHeader_toByteArray (h : FrameHeader) : parseHeader h.toByteArray = h := by
  have hlist := toList_nine h.toByteArray
  rw [toList_toByteArray, toBytes_eq] at hlist
  simp only [List.cons.injEq, and_true] at hlist
  obtain ⟨h0, h1, h2, h3, h4, h5, h6, h7, h8⟩ := hlist
  rw [parseHeader, readI16BeAsInt_eq, ← h0, ← h1, ← h2, ← h3, ← h4, ← h5, ← h6, ← h7, ← h8,
    readI16Be_byteAt, readI32Be_byteAt]

/-- Nine bytes are the bytes of one header. -/
theorem toBytes_injective : Function.Injective FrameHeader.toBytes := by
  intro h h' heq
  have harray : h.toByteArray = h'.toByteArray := by
    apply Vector.toList_inj.mp
    rw [toList_toByteArray, toList_toByteArray, heq]
  rw [← parseHeader_toByteArray h, harray, parseHeader_toByteArray]

/-! ## Reads from a socket -/

/-- Bytes that are there are read, whatever follows them. -/
theorem asyncRead_append {n : ℕ} {bytes : List UInt8} (h : bytes.length = n) (rest : List UInt8) :
    asyncRead n (bytes ++ rest) =
      some (⟨bytes.toArray, List.size_toArray.trans h⟩, rest) := by
  have htake : (bytes ++ rest).take n = bytes := List.take_left' h
  have hdrop : (bytes ++ rest).drop n = rest := List.drop_left' h
  unfold asyncRead
  rw [dif_pos (by rw [List.length_append]; omega)]
  simp only [htake, hdrop]

/-- The header is read back as it was written. -/
theorem asyncRead_header (h : FrameHeader) (rest : List UInt8) :
    asyncRead 9 (h.toBytes ++ rest) = some (h.toByteArray, rest) := by
  rw [← toList_toByteArray, asyncRead_append Vector.length_toList]
  rfl

theorem of_asyncRead {n : ℕ} {sock rest : List UInt8} {buf : Vector UInt8 n}
    (h : asyncRead n sock = some (buf, rest)) : sock = buf.toList ++ rest := by
  unfold asyncRead at h
  split at h
  · simp only [Option.some.injEq, Prod.mk.injEq] at h
    rw [← h.1, ← h.2]
    exact (List.take_append_drop n sock).symm
  · simp at h

/-- What `read_full_frame` returns is the front of what was on the socket. -/
theorem of_readFullFrame {sock frame rest : List UInt8}
    (h : readFullFrame sock = some (frame, rest)) : sock = frame ++ rest := by
  simp only [readFullFrame, Option.bind_eq_some_iff, Prod.exists, Option.ite_none_left_eq_some,
    Option.map_eq_some_iff, Prod.mk.injEq] at h
  obtain ⟨hdrBuf, rest₁, hhdr, _, body, rest₂, hbody, hframe, hrest⟩ := h
  rw [of_asyncRead hhdr, of_asyncRead hbody, ← hframe, ← hrest, List.append_assoc]

/-- A complete frame is read as it is. -/
theorem readFullFrame_frame (f : Frame) (rest : List UInt8) :
    readFullFrame (f.header.toBytes ++ f.body ++ rest) =
      some (f.header.toBytes ++ f.body, rest) := by
  have hlt := f.header.bodyLength.toInt_lt
  have hcomplete := f.complete
  have hlength : f.body.length = toSizeT (readI32Be f.header.toByteArray[5]
      f.header.toByteArray[6] f.header.toByteArray[7] f.header.toByteArray[8]).toInt := by
    have hread : readI32Be f.header.toByteArray[5] f.header.toByteArray[6]
        f.header.toByteArray[7] f.header.toByteArray[8] = f.header.bodyLength :=
      congrArg FrameHeader.bodyLength (parseHeader_toByteArray f.header)
    rw [hread, ← hcomplete, toSizeT_of_nonneg (by omega)]
  rw [List.append_assoc, readFullFrame, asyncRead_header, Option.bind_some]
  simp only
  rw [if_neg (by omega), asyncRead_append hlength, toList_toByteArray]
  rfl

/-- What has been read of a client frame, written again, is what was on the socket. -/
theorem of_readClientFrame {sock rest : List UInt8} {f : Frame}
    (h : readClientFrame sock = some (f, rest)) : sock = f.header.toBytes ++ f.body ++ rest := by
  simp only [readClientFrame, Option.bind_eq_some_iff, Prod.exists] at h
  obtain ⟨hdrBuf, rest₁, hhdr, h⟩ := h
  split at h
  · simp only [Option.map_eq_some_iff, Prod.exists, Prod.mk.injEq] at h
    obtain ⟨body, rest₂, hbody, hf, hrest⟩ := h
    rw [of_asyncRead hhdr, of_asyncRead hbody, ← hf, ← hrest, toBytes_parseHeader,
      List.append_assoc]
  · simp at h

/-- Every frame with a body as long as its header says is read from the client. -/
theorem readClientFrame_frame (f : Frame) (rest : List UInt8) :
    readClientFrame (f.header.toBytes ++ f.body ++ rest) = some (f, rest) := by
  have hcomplete := f.complete
  have hheader := parseHeader_toByteArray f.header
  have hnonneg : 0 ≤ (parseHeader f.header.toByteArray).bodyLength.toInt := by
    rw [hheader]
    omega
  have hlen : f.body.length = (parseHeader f.header.toByteArray).bodyLength.toInt.toNat := by
    rw [hheader]
    omega
  rw [List.append_assoc, readClientFrame, asyncRead_header, Option.bind_some]
  simp only
  rw [dif_pos hnonneg, asyncRead_append hlen]
  obtain ⟨header, body, complete⟩ := f
  simp only [Option.map_some, hheader]
  rfl

/-! ## What goes out to the source and what comes back -/

/-- The write branch has forwarded nothing before its fallback. -/
theorem toSource_interceptWrite (m : Writer) (c : Connection) (f : Frame) (env : Replies)
    (query : String) :
    (interceptWrite m c f env query).toSource =
      if env.source = .ok then [] else [f.header.toBytes ++ f.body] := by
  rw [Handling.toSource, effects_interceptWrite]
  by_cases hsrc : env.source = .ok
  · simp [hsrc]
  · simp [hsrc]

theorem toSource_forwardAndProxy (m : Writer) (c : Connection) (f : Frame) (env : Replies) :
    (forwardAndProxy m c f env []).toSource = [f.header.toBytes ++ f.body] := rfl

/-- A frame that is forwarded at all is written to the source once, and what is answered
is the source's reply; only a PREPARED result with a reversed id range is not answered. -/
theorem forwarded_of_toSource {m : Writer} {c : Connection} {f : Frame} {env : Replies}
    (h : (handleFrame m c f env).toSource ≠ []) :
    (handleFrame m c f env).toSource = [f.header.toBytes ++ f.body] ∧
      (∀ response, (handleFrame m c f env).ending = .answered response →
        env.forwarded = some response) ∧
      ∀ response, env.forwarded = some response →
        (handleFrame m c f env).ending = .answered response ∨
          (f.header.opcode = OP_PREPARE ∧ trackedId response = .undefinedBehaviour) := by
  have hmove := handleFrame_move m c f env
  cases hmove with
  | intercept query _ hr =>
    rw [hr] at h ⊢
    rw [toSource_interceptWrite] at h ⊢
    cases hsrc : env.source with
    | ok => simp [hsrc] at h
    | syncError e =>
      -- the source execute has failed, and the frame is proxied as it is
      rw [interceptWrite_syncError hsrc]
      refine ⟨by simp, fun response => (ending_forwardAndProxy ..).mp, ?_⟩
      intro response hforwarded
      exact Or.inl ((ending_forwardAndProxy ..).mpr hforwarded)
  | forward _ hr =>
    rw [hr]
    refine ⟨rfl, fun response => (ending_forwardAndProxy ..).mp, ?_⟩
    intro response hforwarded
    exact Or.inl ((ending_forwardAndProxy ..).mpr hforwarded)
  | track id short query response _ hforwarded _ hr =>
    rw [hr]
    refine ⟨rfl, fun response' => (ending_forwardAndProxy ..).mp, ?_⟩
    intro response' hforwarded'
    exact Or.inl ((ending_forwardAndProxy ..).mpr hforwarded')
  | reversed response hop hforwarded htracked hr =>
    rw [hr]
    -- the one response that is read and not answered
    refine ⟨rfl, by simp, ?_⟩
    intro response' hforwarded'
    rw [hforwarded, Option.some.injEq] at hforwarded'
    exact Or.inr ⟨hop, hforwarded' ▸ htracked⟩
  | fail ending _ _ hr =>
    rw [hr] at h
    exact absurd rfl h

/-- A PREPARE that has been forwarded gets no answer for a reversed id range. -/
theorem ending_of_reversed {m : Writer} {c : Connection} {f : Frame} {env : Replies}
    {response : List UInt8} (hop : f.header.opcode = OP_PREPARE)
    (hforward : (handleFrame m c f env).toSource ≠ [])
    (hforwarded : env.forwarded = some response) (htracked : trackedId response = .undefinedBehaviour) :
    (handleFrame m c f env).ending = .undefinedBehaviour := by
  have hquery : ¬ f.header.opcode = OP_QUERY := by
    rw [hop]
    decide
  rw [handleFrame, if_neg hquery, if_pos hop, handlePrepare] at hforward ⊢
  cases hparse : parseLongString f.body 0 with
  | none =>
    rw [hparse] at hforward
    exact absurd rfl hforward
  | some query => simp only [hforwarded, htracked]

/-! ## The result -/

/-- `build_void_result` is a frame with four bytes of body. -/
def voidFrame (streamId : Int16) : Frame where
  header := .response OP_RESULT streamId 4
  body := [0x00, 0x00, 0x00, 0x01]
  complete := rfl

/-- A forwarded frame goes out to the source as it came in from the client, in one write, and
what the client is answered with is exactly the frame that `read_full_frame` takes from the
source socket. -/
structure Transparent (client rest source : List UInt8) (r : Handling) : Prop where
  toSource : ∃ bytes, r.toSource = [bytes] ∧ client = bytes ++ rest
  fromSource : ∀ response, r.ending = .answered response →
    ∃ rest', readFullFrame source = some (response, rest') ∧ source = response ++ rest'
  answered : ∀ response rest', readFullFrame source = some (response, rest') →
    r.ending = .answered response

/-- The next frame of the source is a PREPARED result whose id length, unsigned in the
protocol, is one of the fifteen largest. -/
def WrapsNext (source : List UInt8) : Prop :=
  ∃ (response : ByteVector) (rest : List UInt8), readFullFrame source = some (response.bytes, rest) ∧
    15 < response.size ∧ IsPrepared response ∧ 2 ^ 16 - 15 ≤ response.shortLength 13

/-- A frame from a socket fits into a vector. -/
theorem length_lt_of_readFullFrame {source response rest : List UInt8}
    (h : readFullFrame source = some (response, rest)) : response.length < 2 ^ 63 := by
  simp only [readFullFrame, Option.bind_eq_some_iff, Prod.exists, Option.ite_none_left_eq_some,
    Option.map_eq_some_iff, Prod.mk.injEq] at h
  obtain ⟨hdrBuf, _, _, hshort, body, _, _, rfl, _⟩ := h
  have hhigh := Int32.toInt_lt (readI32Be hdrBuf[5] hdrBuf[6] hdrBuf[7] hdrBuf[8])
  have hlow := Int32.le_toInt (readI32Be hdrBuf[5] hdrBuf[6] hdrBuf[7] hdrBuf[8])
  rw [List.length_append, Vector.length_toList, Vector.length_toList]
  -- a length that is not cut off has come from a number below `2 ^ 31`
  unfold toSizeT at hshort ⊢
  omega

/-- One frame: a forward is transparent unless the id length of a PREPARED result wraps. -/
theorem transparent_iff {m : Writer} {c : Connection} {client source rest : List UInt8}
    {src tgt : Outcome} {id : String} {f : Frame} (hclient : readClientFrame client = some (f, rest))
    (hforward : (handleFrame m c f (.ofSocket src tgt id source)).toSource ≠ []) :
    Transparent client rest source (handleFrame m c f (.ofSocket src tgt id source)) ↔
      ¬ (f.header.opcode = OP_PREPARE ∧ WrapsNext source) := by
  obtain ⟨hbytes, hanswer, hreply⟩ := forwarded_of_toSource hforward
  constructor
  · intro htransparent hwraps
    obtain ⟨hop, response, rest', hread, hwraps⟩ := hwraps
    have hforwarded : (Replies.ofSocket src tgt id source).forwarded = some response.bytes := by
      simp [Replies.ofSocket, hread]
    have hundefined := ending_of_reversed hop hforward hforwarded
      ((trackedId_eq_undefinedBehaviour_iff response).mpr hwraps)
    have hanswered := htransparent.answered _ rest' hread
    rw [hundefined] at hanswered
    cases hanswered
  · intro hwraps
    refine ⟨⟨_, hbytes, of_readClientFrame hclient⟩, ?_, ?_⟩
    · intro response hending
      -- the answer is what was read from the source socket, frame and all
      obtain ⟨⟨_, rest'⟩, hread, rfl⟩ := Option.map_eq_some_iff.mp (hanswer response hending)
      exact ⟨rest', hread, of_readFullFrame hread⟩
    · intro response rest' hread
      rcases hreply response (by simp [Replies.ofSocket, hread]) with hending | hreversed
      · exact hending
      · have hshort := length_lt_of_readFullFrame hread
        refine absurd ⟨hreversed.1, ⟨response, hshort⟩, rest', hread, ?_⟩ hwraps
        exact (trackedId_eq_undefinedBehaviour_iff ⟨response, hshort⟩).mp hreversed.2

/-- A client frame that can be read and is forwarded. Headers survive decoding and encoding in
both orders, and the frames the proxy builds itself read back with the stream id they are for and
with a length that is their body's. The frame goes out as it came in and is answered with the
source's frame, exactly when it is no PREPARE answered by a PREPARED result whose id length wraps
around. -/
theorem forwarding_transparent_iff (m : Writer) (c : Connection) (client source : List UInt8)
    (src tgt : Outcome) (id : String) (f : Frame) (rest : List UInt8)
    (hclient : readClientFrame client = some (f, rest))
    (hforward : (handleFrame m c f (.ofSocket src tgt id source)).toSource ≠ []) :
    (∀ b : Vector UInt8 9, (parseHeader b).toByteArray = b) ∧
    (∀ h : FrameHeader, parseHeader h.toByteArray = h) ∧
    (∀ (f : Frame) (rest : List UInt8),
      readClientFrame (f.header.toBytes ++ f.body ++ rest) = some (f, rest)) ∧
    (∀ (s : Int16) (rest : List UInt8), ∃ f : Frame,
      buildVoidResult s = f.header.toBytes ++ f.body ∧
        readClientFrame (buildVoidResult s ++ rest) = some (f, rest) ∧
        readFullFrame (buildVoidResult s ++ rest) = some (buildVoidResult s, rest) ∧
        f.header.streamId = s ∧ f.header.bodyLength.toInt = f.body.length) ∧
    (Transparent client rest source (handleFrame m c f (.ofSocket src tgt id source)) ↔
      ¬ (f.header.opcode = OP_PREPARE ∧ WrapsNext source)) := by
  refine ⟨toByteArray_parseHeader, parseHeader_toByteArray, readClientFrame_frame, ?_,
    transparent_iff hclient hforward⟩
  intro s rest
  exact ⟨voidFrame s, rfl, readClientFrame_frame (voidFrame s) rest,
    readFullFrame_frame (voidFrame s) rest, rfl, (voidFrame s).complete.symm⟩

/-! ## A PREPARE and its response -/

/-- A frame with a response header. -/
def responseFrame (opcode : UInt8) (streamId : Int16) (body : List UInt8)
    (h : body.length < 2 ^ 31) : Frame where
  header := .response opcode streamId (.ofNat body.length)
  body := body
  complete := length_eq_toInt_ofNat h

/-- A PREPARE of a read. -/
def prepareFrame : Frame :=
  requestFrame OP_PREPARE (longString (ascii "SELECT k FROM ks.t")) (by decide)

/-- The metadata of a statement without markers and with one column. -/
def noMarkers : List UInt8 := [0, 0, 0, 0, 0, 0, 0, 0, 0, 0, 0, 0, 0, 0, 0, 4, 0, 0, 0, 1]

theorem length_preparedBody (id : List UInt8) :
    ([0, 0, 0, 4] ++ (shortBytes id ++ noMarkers)).length = id.length + 26 := by
  simp [shortBytes, noMarkers]

/-- The source's PREPARED result with this id. -/
def preparedFrame (id : List UInt8) (h : id.length < 2 ^ 16) : Frame :=
  responseFrame OP_RESULT 0 ([0, 0, 0, 4] ++ (shortBytes id ++ noMarkers)) (by
    rw [length_preparedBody]
    omega)

/-- What the source has on its socket when it has answered with this id. -/
def preparedSource (id : List UInt8) (h : id.length < 2 ^ 16) (rest : List UInt8) : List UInt8 :=
  (preparedFrame id h).header.toBytes ++ (preparedFrame id h).body ++ rest

theorem readFullFrame_preparedSource (id : List UInt8) (h : id.length < 2 ^ 16)
    (rest : List UInt8) : readFullFrame (preparedSource id h rest) =
      some (preparedResponse (preparedFrame id h).header id noMarkers, rest) :=
  readFullFrame_frame (preparedFrame id h) rest

theorem wrapsNext_preparedSource_iff (id : List UInt8) (h : id.length < 2 ^ 16)
    (rest : List UInt8) : WrapsNext (preparedSource id h rest) ↔ 2 ^ 16 - 15 ≤ id.length := by
  have hlength : (preparedResponse (preparedFrame id h).header id noMarkers).length =
      id.length + 35 := by
    rw [preparedResponse, List.length_append, length_preparedBody]
    show 9 + (id.length + 26) = id.length + 35
    omega
  have hshort : (UInt8.ofNat (id.length / 256)).toNat * 256 +
      (UInt8.ofNat (id.length % 256)).toNat = id.length := by
    rw [toNat_byte (by omega), toNat_byte (by omega)]
    omega
  constructor
  · intro hwraps
    obtain ⟨⟨bytes, hbytes⟩, rest', hread, _, _, hwraps⟩ := hwraps
    rw [readFullFrame_preparedSource, Option.some.injEq, Prod.mk.injEq] at hread
    obtain ⟨rfl, _⟩ := hread
    rw [← hshort]
    exact hwraps
  · intro hlong
    have hfits : (preparedResponse (preparedFrame id h).header id noMarkers).length < 2 ^ 63 := by
      omega
    refine ⟨⟨_, hfits⟩, rest, readFullFrame_preparedSource id h rest, ?_, ?_, ?_⟩
    · show 15 < List.length _
      rw [hlength]
      omega
    · refine ⟨?_, rfl, ?_⟩
      · show 15 ≤ List.length _
        rw [hlength]
        omega
      · show (readI32Be 0 0 0 4).toInt = RESULT_PREPARED.toInt
        decide
    · show 2 ^ 16 - 15 ≤ (UInt8.ofNat (id.length / 256)).toNat * 256 +
        (UInt8.ofNat (id.length % 256)).toNat
      rw [hshort]
      exact hlong

theorem toSource_prepareFrame (m : Writer) (c : Connection) (env : Replies) :
    (handleFrame m c prepareFrame env).toSource ≠ [] := by
  have hparse : parseLongString prepareFrame.body 0 = some "SELECT k FROM ks.t" := by decide
  show (handlePrepare m c prepareFrame env).toSource ≠ []
  unfold handlePrepare
  simp only [hparse]
  split
  · exact List.cons_ne_nil _ _
  · split <;> exact List.cons_ne_nil _ _

/-- The PREPARE reaches the source as it is, with the next request still on the client's socket,
and the client gets the PREPARED result with its id of sixteen bytes. -/
theorem forwarding_transparent_iff_prepare :
    Transparent (prepareFrame.header.toBytes ++ prepareFrame.body ++ [4]) [4]
      (preparedSource (List.replicate 16 7) (by simp) [])
      (handleFrame { filter := none } {} prepareFrame
        (.ofSocket .ok .ok "" (preparedSource (List.replicate 16 7) (by simp) []))) :=
  (forwarding_transparent_iff { filter := none } {} _ _ .ok .ok "" prepareFrame [4]
    (readClientFrame_frame prepareFrame [4]) (toSource_prepareFrame _ _ _)).2.2.2.2.mpr
      fun hwraps => absurd ((wrapsNext_preparedSource_iff _ _ _).mp hwraps.2) (by simp)

/-- A PREPARED result with an id of the greatest length there is: it is read from the source,
and the client gets nothing. -/
theorem wrapped_id_not_answered :
    ¬ ∀ (m : Writer) (c : Connection) (client source : List UInt8) (src tgt : Outcome)
        (id : String) (f : Frame) (rest : List UInt8),
      readClientFrame client = some (f, rest) →
      (handleFrame m c f (.ofSocket src tgt id source)).toSource ≠ [] →
      Transparent client rest source (handleFrame m c f (.ofSocket src tgt id source)) := by
  intro hall
  have hclient := readClientFrame_frame prepareFrame []
  have hlong : (List.replicate 65535 (0 : UInt8)).length = 65535 := List.length_replicate
  have hforward := toSource_prepareFrame { filter := none } {} (.ofSocket .ok .ok ""
    (preparedSource (List.replicate 65535 0) (by rw [hlong]; omega) []))
  have htransparent := hall _ _ _ _ _ _ _ _ _ hclient hforward
  refine (transparent_iff hclient hforward).mp htransparent ⟨rfl, ?_⟩
  rw [wrapsNext_preparedSource_iff, hlong]
  omega

end DualWriter
end ScyllaClusterSync
