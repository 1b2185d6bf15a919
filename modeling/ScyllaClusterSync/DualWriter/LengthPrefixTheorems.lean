import ScyllaClusterSync.DualWriter.CqlServer

/-!
# Which lengths are decoded

The lengths of the protocol are unsigned where they have 16 bits and signed where they have
32. The source reads both as signed, widens them to `size_t` and adds an offset before it
compares with the size of the vector. `lengths_decoded_iff` says for each of the three
places which lengths come through that.
-/

namespace ScyllaClusterSync
namespace DualWriter

/-- A `std::vector<uint8_t>`, which is never longer than `max_size`. -/
structure ByteVector where
  bytes : List UInt8
  short : bytes.length < 2 ^ 63

namespace ByteVector

def size (v : ByteVector) : ℕ := v.bytes.length

/-- The byte at an index, inside the vector. -/
def byte (v : ByteVector) (i : ℕ) : UInt8 := v.bytes.getD i 0

/-- The `n` bytes from an offset on. -/
def slice (v : ByteVector) (offset n : ℕ) : List UInt8 := (v.bytes.drop offset).take n

/-- The signed 32-bit length at an offset. -/
def longLength (v : ByteVector) (offset : ℕ) : ℤ :=
  (readI32Be (v.byte offset) (v.byte (offset + 1)) (v.byte (offset + 2)) (v.byte (offset + 3))).toInt

/-- The unsigned 16-bit length at an offset. -/
def shortLength (v : ByteVector) (offset : ℕ) : ℕ :=
  (v.byte offset).toNat * 256 + (v.byte (offset + 1)).toNat

end ByteVector

/-! ## What is asked for -/

/-- `parse_long_string` returns the bytes behind a length that fits, and the empty string
otherwise. -/
def LongStringDecoded (body : ByteVector) (offset : ℕ) : Prop :=
  parseLongString body.bytes offset = some
    (if offset + 4 ≤ body.size ∧ 0 ≤ body.longLength offset ∧
        offset + 4 + body.longLength offset ≤ body.size then
      toText (body.slice (offset + 4) (body.longLength offset).toNat)
    else "")

/-- The id of an EXECUTE is the bytes behind a length that fits, and empty otherwise. -/
def ExecuteIdDecoded (body : ByteVector) : Prop :=
  statementId body.bytes = some
    (if 2 ≤ body.size ∧ 2 + body.shortLength 0 ≤ body.size then
      body.slice 2 (body.shortLength 0)
    else [])

/-- The response is a RESULT of kind PREPARED, up to the length of its id. -/
def IsPrepared (response : ByteVector) : Prop :=
  15 ≤ response.size ∧ response.byte 4 = OP_RESULT ∧ response.longLength 9 = RESULT_PREPARED.toInt

instance (response : ByteVector) : Decidable (IsPrepared response) :=
  inferInstanceAs (Decidable (_ ∧ _ ∧ _))

/-- What a response is tracked under. -/
def Tracking.Yields : Tracking → Option (List UInt8) → Prop
  | .ignore, id => id = none
  | .track id _, id' => id' = some id
  | .undefinedBehaviour, _ => False

/-- A PREPARED response is tracked under the bytes behind a length that fits, and not at all
otherwise. -/
def PreparedIdDecoded (response : ByteVector) : Prop :=
  (trackedId response.bytes).Yields
    (if IsPrepared response ∧ 15 + response.shortLength 13 ≤ response.size then
      some (response.slice 15 (response.shortLength 13))
    else none)

/-! ## The widened lengths -/

theorem toSizeT_of_neg {n : ℤ} (hlow : -2 ^ 63 ≤ n) (hneg : n < 0) :
    (toSizeT n : ℤ) = n + 2 ^ 64 := by
  unfold toSizeT
  omega

/-- A 16-bit length read as signed. -/
theorem toInt_readI16Be (p0 p1 : UInt8) :
    (readI16Be p0 p1).toInt = if p0.toNat * 256 + p1.toNat < 2 ^ 15 then
      ((p0.toNat * 256 + p1.toNat : ℕ) : ℤ) else ((p0.toNat * 256 + p1.toNat : ℕ) : ℤ) - 2 ^ 16 := by
  show (readI16Be p0 p1).toBitVec.toInt = _
  rw [BitVec.toInt_eq_toNat_cond, toNat_readI16Be]
  split_ifs <;> omega

theorem shortLength_lt (v : ByteVector) (offset : ℕ) : v.shortLength offset < 2 ^ 16 := by
  have h0 := (v.byte offset).toNat_lt
  have h1 := (v.byte (offset + 1)).toNat_lt
  unfold ByteVector.shortLength
  omega

/-- The length as the source reads it, signed. -/
theorem toInt_shortLength (v : ByteVector) (offset : ℕ) :
    (readI16Be (v.byte offset) (v.byte (offset + 1))).toInt =
      if v.shortLength offset < 2 ^ 15 then (v.shortLength offset : ℤ)
      else (v.shortLength offset : ℤ) - 2 ^ 16 :=
  toInt_readI16Be _ _

theorem longLength_bounds (v : ByteVector) (offset : ℕ) :
    -2 ^ 31 ≤ v.longLength offset ∧ v.longLength offset < 2 ^ 31 :=
  ⟨Int32.le_toInt _, Int32.toInt_lt _⟩

/-- The bound check `size >= offset + id_len` of a 16-bit length, and what comes of it: a
length from `2 ^ 15` on never passes as it is, and passes as a negative one when the sum
wraps around. -/
theorem shortCheck_iff (v : ByteVector) {offset start : ℕ} (hoffset : offset ≤ v.size)
    (hsmall : offset < 2 ^ 15) {n : ℤ} (hn : n = if v.shortLength start < 2 ^ 15 then
      (v.shortLength start : ℤ) else (v.shortLength start : ℤ) - 2 ^ 16) :
    addSizeT offset (toSizeT n) ≤ v.size ↔
      if v.shortLength start < 2 ^ 15 then offset + v.shortLength start ≤ v.size
      else 2 ^ 16 ≤ offset + v.shortLength start := by
  have hlt := shortLength_lt v start
  have hsize : v.size < 2 ^ 63 := v.short
  generalize v.shortLength start = m at hn hlt ⊢
  split_ifs at hn ⊢ with hm
  · rw [hn, toSizeT_of_nonneg (by omega), addSizeT_of_lt (by omega)]
  · -- the length was read as `m - 2 ^ 16`, so the sum is `offset + m - 2 ^ 16` if that is not
    -- negative and close to `2 ^ 64` otherwise
    have hcast := toSizeT_of_neg (n := n) (by omega) (by omega)
    unfold addSizeT
    omega

theorem getD_drop (l : List UInt8) (offset i : ℕ) :
    (l.drop offset).getD i 0 = l.getD (offset + i) 0 := by
  rw [List.getD_eq_getElem?_getD, List.getD_eq_getElem?_getD, List.getElem?_drop]

/-! ## The three places -/

/-- `parse_long_string` in plain numbers: a negative length passes the check exactly when
the sum wraps around into the vector. -/
theorem parseLongString_eq (body : ByteVector) {offset : ℕ} (hoffset : offset ≤ body.size) :
    parseLongString body.bytes offset =
      if body.size < offset + 4 then some ""
      else if 0 ≤ body.longLength offset then
        if body.size < offset + 4 + body.longLength offset then some ""
        else some (toText (body.slice (offset + 4) (body.longLength offset).toNat))
      else if 0 ≤ offset + 4 + body.longLength offset then none
      else some "" := by
  have hsize : body.size < 2 ^ 63 := body.short
  obtain ⟨hlow, hhigh⟩ := longLength_bounds body offset
  -- the source reads the four bytes through a pointer to the offset
  have hread : (readI32Be ((body.bytes.drop offset).getD 0 0) ((body.bytes.drop offset).getD 1 0)
      ((body.bytes.drop offset).getD 2 0) ((body.bytes.drop offset).getD 3 0)).toInt =
        body.longLength offset := by
    simp only [getD_drop]
    rfl
  unfold parseLongString
  rw [addSizeT_of_lt (by omega)]
  simp only [hread]
  change (if body.size < offset + 4 then _ else _) = _
  generalize hL : body.longLength offset = n at hlow hhigh
  by_cases hprefix : body.size < offset + 4
  · rw [if_pos hprefix, if_pos hprefix]
  rw [if_neg hprefix, if_neg hprefix]
  by_cases hneg : 0 ≤ n
  · -- no overflow: both numbers are far below `2 ^ 64`
    obtain ⟨m, rfl⟩ := Int.eq_ofNat_of_zero_le hneg
    rw [if_pos hneg, toSizeT_of_nonneg (by omega), addSizeT_of_lt (by omega)]
    change (if body.size < _ then _ else _) = _
    by_cases hfits : body.size < offset + 4 + m
    · rw [if_pos hfits, if_pos (by omega)]
    · rw [if_neg hfits, if_neg (by omega), if_neg (by omega), Int.toNat_natCast]
      rfl
  · -- the widened length is `n + 2 ^ 64`, so the sum drops back to `offset + 4 + n` or stays
    -- larger than every vector
    have hcast := toSizeT_of_neg (n := n) (by omega) (by omega)
    rw [if_neg hneg]
    change (if body.size < _ then _ else _) = _
    by_cases hwraps : 0 ≤ offset + 4 + n
    · have hsum : ¬ body.size < addSizeT (offset + 4) (toSizeT n) := by
        unfold addSizeT
        omega
      rw [if_neg hsum, if_pos hwraps, if_pos (by omega)]
    · have hsum : body.size < addSizeT (offset + 4) (toSizeT n) := by
        unfold addSizeT
        omega
      rw [if_pos hsum, if_neg hwraps]

theorem longStringDecoded_iff (body : ByteVector) {offset : ℕ} (hoffset : offset ≤ body.size) :
    LongStringDecoded body offset ↔
      body.size < offset + 4 ∨ 0 ≤ body.longLength offset ∨
        offset + 4 + body.longLength offset < 0 := by
  unfold LongStringDecoded
  rw [parseLongString_eq body hoffset]
  by_cases hprefix : body.size < offset + 4
  · rw [if_pos hprefix, if_neg (by omega)]
    exact iff_of_true rfl (Or.inl hprefix)
  rw [if_neg hprefix]
  by_cases hneg : 0 ≤ body.longLength offset
  · rw [if_pos hneg]
    refine iff_of_true ?_ (Or.inr (Or.inl hneg))
    by_cases hfits : body.size < offset + 4 + body.longLength offset
    · rw [if_pos hfits, if_neg (by omega)]
    · rw [if_neg hfits, if_pos (by omega)]
  · rw [if_neg hneg]
    by_cases hwraps : 0 ≤ offset + 4 + body.longLength offset
    · rw [if_pos hwraps]
      apply iff_of_false
      · intro heq
        cases heq
      · omega
    · rw [if_neg hwraps, if_neg (by omega)]
      exact iff_of_true rfl (Or.inr (Or.inr (by omega)))

theorem executeIdDecoded_iff (body : ByteVector) :
    ExecuteIdDecoded body ↔ body.size < 2 ∨ body.shortLength 0 < 2 ^ 15 ∨
      (body.shortLength 0 ≤ 2 ^ 16 - 3 ∧ body.size < 2 + body.shortLength 0) := by
  have hlt := shortLength_lt body 0
  have hn : (readI16Be (body.byte 0) (body.byte 1)).toInt = _ := toInt_shortLength body 0
  unfold ExecuteIdDecoded statementId
  change (if 2 ≤ body.size then
    if addSizeT 2 (toSizeT (readI16Be (body.byte 0) (body.byte 1)).toInt) ≤ body.size then
      if (readI16Be (body.byte 0) (body.byte 1)).toInt < 0 then none
      else some (body.slice 2 (readI16Be (body.byte 0) (body.byte 1)).toInt.toNat)
    else some [] else some []) = _ ↔ _
  by_cases htwo : 2 ≤ body.size
  · have hcheck := shortCheck_iff body htwo (by omega) hn
    simp only [if_pos htwo, hcheck]
    by_cases hhigh : body.shortLength 0 < 2 ^ 15
    · simp only [if_pos hhigh] at hn ⊢
      refine iff_of_true ?_ (Or.inr (Or.inl hhigh))
      rw [hn, Int.toNat_natCast]
      split_ifs <;> first | rfl | omega
    · simp only [if_neg hhigh] at hn ⊢
      by_cases hwraps : 2 ^ 16 ≤ 2 + body.shortLength 0
      · -- the check passes on the wrapped sum, and the constructor of the id gets a range
        -- that ends before it begins
        rw [if_pos hwraps, if_pos (by omega)]
        apply iff_of_false
        · intro heq
          cases heq
        · omega
      · rw [if_neg hwraps]
        by_cases hfits : body.size < 2 + body.shortLength 0
        · rw [if_neg (by omega)]
          exact iff_of_true rfl (Or.inr (Or.inr ⟨by omega, hfits⟩))
        · -- the id is there, at least `2 ^ 15` bytes of it, and is left out
          rw [if_pos (by omega)]
          apply iff_of_false
          · intro heq
            have hlength := congrArg List.length (Option.some.inj heq)
            rw [ByteVector.slice, List.length_take, List.length_drop] at hlength
            change 0 = min _ (body.size - 2) at hlength
            omega
          · omega
  · rw [if_neg htwo, if_neg (by omega)]
    exact iff_of_true rfl (Or.inl (by omega))

/-- A response that is no PREPARED result is ignored, and so is one that ends with the
length. -/
theorem trackedId_of_not_prepared {response : ByteVector}
    (h : ¬ (15 < response.size ∧ IsPrepared response)) : trackedId response.bytes = .ignore := by
  unfold trackedId
  change (if decide (15 < response.size) && response.byte 4 == OP_RESULT then _ else _) = _
  split
  next hhead =>
    rw [Bool.and_eq_true, decide_eq_true_eq, beq_iff_eq] at hhead
    split
    next hkind =>
      refine absurd ⟨hhead.1, by omega, hhead.2, ?_⟩ h
      exact congrArg Int32.toInt hkind
    · rfl
  · rfl

/-- What a PREPARED response is tracked under, in plain numbers. -/
theorem trackedId_yields_iff {response : ByteVector} (hlong : 15 < response.size)
    (hprepared : IsPrepared response) (id : Option (List UInt8)) :
    (trackedId response.bytes).Yields id ↔
      if response.shortLength 13 < 2 ^ 15 then
        if 15 + response.shortLength 13 ≤ response.size then
          id = some (response.slice 15 (response.shortLength 13))
        else id = none
      else response.shortLength 13 ≤ 2 ^ 16 - 16 ∧ id = none := by
  have hlt := shortLength_lt response 13
  have hn : (readI16Be (response.byte 13) (response.byte 14)).toInt = _ :=
    toInt_shortLength response 13
  have hcheck := shortCheck_iff response (by omega : 15 ≤ response.size) (by omega) hn
  have hhead : (decide (15 < response.bytes.length) && response.bytes.getD 4 0 == OP_RESULT) = true := by
    rw [Bool.and_eq_true, decide_eq_true_eq, beq_iff_eq]
    exact ⟨hlong, hprepared.2.1⟩
  have hkind : readI32Be (response.bytes.getD 9 0) (response.bytes.getD 10 0)
      (response.bytes.getD 11 0) (response.bytes.getD 12 0) = RESULT_PREPARED :=
    Int32.toInt_inj.mp hprepared.2.2
  unfold trackedId
  rw [if_pos hhead, if_pos hkind]
  change Tracking.Yields (if addSizeT 15 (toSizeT (readI16Be (response.byte 13)
    (response.byte 14)).toInt) ≤ response.size then _ else _) id ↔ _
  by_cases hhigh : response.shortLength 13 < 2 ^ 15
  · simp only [if_pos hhigh] at hn hcheck ⊢
    by_cases hfits : 15 + response.shortLength 13 ≤ response.size
    · rw [if_pos (hcheck.mpr hfits), if_pos hfits]
      have hnonneg : ¬ (readI16Be (response.byte 13) (response.byte 14)).toInt < 0 := by omega
      have hslice : (response.bytes.drop 15).take
          (readI16Be (response.byte 13) (response.byte 14)).toInt.toNat =
            response.slice 15 (response.shortLength 13) := by
        rw [hn, Int.toNat_natCast]
        rfl
      change Tracking.Yields (if (readI16Be (response.byte 13) (response.byte 14)).toInt < 0 then _
        else _) id ↔ _
      rw [if_neg hnonneg, ← hslice]
      rfl
    · rw [if_neg (fun h => hfits (hcheck.mp h)), if_neg hfits]
      rfl
  · simp only [if_neg hhigh] at hn hcheck ⊢
    by_cases hwraps : 2 ^ 16 ≤ 15 + response.shortLength 13
    · -- as for EXECUTE, only the wrapped sum lets the length through
      rw [if_pos (hcheck.mpr hwraps)]
      have hneg : (readI16Be (response.byte 13) (response.byte 14)).toInt < 0 := by omega
      change Tracking.Yields (if (readI16Be (response.byte 13) (response.byte 14)).toInt < 0 then _
        else _) id ↔ _
      rw [if_pos hneg]
      apply iff_of_false
      · intro h
        exact h
      · omega
    · rw [if_neg (fun h => hwraps (hcheck.mp h))]
      exact (and_iff_right (by omega)).symm

theorem eq_undefinedBehaviour_iff (t : Tracking) :
    t = .undefinedBehaviour ↔ ∀ id, ¬ t.Yields id := by
  cases t <;> simp [Tracking.Yields]

/-- The responses whose id range is reversed: their length is read as one of `-15`, ..., `-1`. -/
theorem trackedId_eq_undefinedBehaviour_iff (response : ByteVector) :
    trackedId response.bytes = .undefinedBehaviour ↔
      15 < response.size ∧ IsPrepared response ∧ 2 ^ 16 - 15 ≤ response.shortLength 13 := by
  by_cases hprepared : 15 < response.size ∧ IsPrepared response
  · obtain ⟨hlong, hprepared⟩ := hprepared
    rw [eq_undefinedBehaviour_iff]
    simp only [trackedId_yields_iff hlong hprepared, hlong, hprepared, true_and]
    split_ifs <;> simp <;> omega
  · rw [trackedId_of_not_prepared hprepared]
    apply iff_of_false
    · intro heq
      cases heq
    · intro hreversed
      exact hprepared ⟨hreversed.1, hreversed.2.1⟩

theorem preparedIdDecoded_iff (response : ByteVector) :
    PreparedIdDecoded response ↔ ¬ IsPrepared response ∨
      (response.size = 15 ∧ response.shortLength 13 ≠ 0) ∨
      (15 < response.size ∧ (response.shortLength 13 < 2 ^ 15 ∨
        (response.shortLength 13 ≤ 2 ^ 16 - 16 ∧
          response.size < 15 + response.shortLength 13))) := by
  unfold PreparedIdDecoded
  by_cases hprepared : IsPrepared response
  · by_cases hlong : 15 < response.size
    · rw [trackedId_yields_iff hlong hprepared]
      simp only [hprepared, true_and]
      split_ifs <;> simp <;> omega
    · have hfifteen : response.size = 15 := by
        have hle := hprepared.1
        omega
      rw [trackedId_of_not_prepared fun h => hlong h.1]
      simp only [hprepared, true_and, hfifteen]
      change (if 15 + response.shortLength 13 ≤ 15 then _ else none) = none ↔ _
      split_ifs <;> simp <;> omega
  · rw [trackedId_of_not_prepared fun h => hprepared h.2, if_neg fun h => hprepared h.1]
    exact iff_of_true rfl (Or.inl hprepared)

/-! ## The result -/

/-- For every vector of bytes and every offset in it: the long string is decoded exactly
when its prefix is missing, its length is not negative, or is so far below zero that the sum
does not wrap back; the id of an EXECUTE exactly when its length is missing, below `2 ^ 15`,
or too long without wrapping; and so the id of a PREPARED response, which also has to have
something behind its length. -/
theorem lengths_decoded_iff (body : ByteVector) :
    (∀ offset ≤ body.size, LongStringDecoded body offset ↔
      body.size < offset + 4 ∨ 0 ≤ body.longLength offset ∨
        offset + 4 + body.longLength offset < 0) ∧
    (ExecuteIdDecoded body ↔ body.size < 2 ∨ body.shortLength 0 < 2 ^ 15 ∨
      (body.shortLength 0 ≤ 2 ^ 16 - 3 ∧ body.size < 2 + body.shortLength 0)) ∧
    (PreparedIdDecoded body ↔ ¬ IsPrepared body ∨
      (body.size = 15 ∧ body.shortLength 13 ≠ 0) ∨
      (15 < body.size ∧ (body.shortLength 13 < 2 ^ 15 ∨
        (body.shortLength 13 ≤ 2 ^ 16 - 16 ∧ body.size < 15 + body.shortLength 13)))) :=
  ⟨fun _ hoffset => longStringDecoded_iff body hoffset, executeIdDecoded_iff body,
    preparedIdDecoded_iff body⟩

/-- The body of an EXECUTE with an id of three bytes. -/
def threeByteId : ByteVector := ⟨[0, 3, 7, 8, 9, 0, 1], by decide⟩

theorem lengths_decoded_iff_threeByteId :
    LongStringDecoded threeByteId 0 ∧ statementId threeByteId.bytes = some [7, 8, 9] ∧
      PreparedIdDecoded threeByteId := by
  obtain ⟨hlong, hexecute, hprepared⟩ := lengths_decoded_iff threeByteId
  exact ⟨(hlong 0 (by decide)).mpr (by decide +kernel), hexecute.mpr (by decide +kernel),
    hprepared.mpr (by decide +kernel)⟩

/-- A long string of length `-4`, and ids of length 65534 and 65535: the sums wrap around
to the start of the vector, and the checks pass. -/
theorem wrapped_lengths_pass :
    (¬ ∀ (body : ByteVector), ∀ offset ≤ body.size, LongStringDecoded body offset) ∧
      (¬ ∀ body : ByteVector, ExecuteIdDecoded body) ∧
      ¬ ∀ response : ByteVector, PreparedIdDecoded response := by
  refine ⟨?_, ?_, ?_⟩
  · intro hall
    have hdecoded := hall ⟨[0xFF, 0xFF, 0xFF, 0xFC], by decide⟩ 0 (by decide)
    exact absurd ((longStringDecoded_iff _ (by decide)).mp hdecoded) (by decide +kernel)
  · intro hall
    have hdecoded := hall ⟨[0xFF, 0xFE, 7], by decide⟩
    exact absurd ((executeIdDecoded_iff _).mp hdecoded) (by decide +kernel)
  · intro hall
    have hdecoded := hall ⟨[0x84, 0, 0, 1, 0x08, 0, 0, 0, 7, 0, 0, 0, 4, 0xFF, 0xFF, 7], by decide⟩
    exact absurd ((preparedIdDecoded_iff _).mp hdecoded) (by decide +kernel)

end DualWriter
end ScyllaClusterSync
