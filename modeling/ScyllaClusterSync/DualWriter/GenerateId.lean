import ScyllaClusterSync.DualWriter.Writer
import ScyllaClusterSync.Lib.FixedHex

/-!
# `services/dual-writer/src/writer.cpp`: `DualWriter::generate_id`

An id has 36 characters, hexadecimal digits of two 64-bit draws. Two of the 128 bits are
set whatever was drawn: bit 14 of `hi` and bit 63 of `lo`. The ids of two draws are the same
exactly when the draws agree on the other 126 bits (`generateId_eq_iff`), and the retry queue
has one entry for each such class of draws among the writes that were queued, the one queued
first (`lookup_enqueueAll`, `pendingRetryCount_enqueueAll`).
-/

namespace ScyllaClusterSync
namespace DualWriter

open Svckit Lib

/-- What `snprintf` leaves in a buffer of `size` characters, the final `\0` apart. -/
def snprintf (size : ℕ) (text : List Char) : String := String.ofList (text.take (size - 1))

/-- The text of `generate_id` before `snprintf` cuts it to its buffer. -/
def idText (hi lo : UInt64) : List Char :=
  hexPadded 8 (hi >>> 32).toUInt32.toNat ++ '-' ::
    (hexPadded 4 (hi >>> 16).toUInt16.toNat ++ '-' ::
      (hexPadded 4 ((hi &&& 0xFFFF) ||| 0x4000).toUInt16.toNat ++ '-' ::
        (hexPadded 4 ((lo >>> 48) ||| 0x8000).toUInt16.toNat ++ '-' ::
          hexPadded 12 (lo &&& 0xFFFFFFFFFFFF).toNat)))

/-- `generate_id`, with the two draws of the random generator. -/
def generateId (hi lo : UInt64) : String := snprintf 40 (idText hi lo)

/-- What the id says of the two draws. -/
def idBits (hi lo : UInt64) : UInt64 × UInt64 := (hi ||| 0x4000, lo ||| 0x8000000000000000)

example : generateId 0x0123456789abcdef 0xfedcba9876543210 =
    "01234567-89ab-cdef-fedc-ba9876543210" := by decide

/-! ## The digits and the bits -/

theorem length_idText (hi lo : UInt64) : (idText hi lo).length = 36 := by
  have h8 : (hexPadded 8 (hi >>> 32).toUInt32.toNat).length = 8 :=
    length_hexPadded (by norm_num) (UInt32.toNat_lt _)
  have h4 : ∀ n : UInt16, (hexPadded 4 n.toNat).length = 4 := fun n =>
    length_hexPadded (by norm_num) n.toNat_lt
  have h12 : (hexPadded 12 (lo &&& 0xFFFFFFFFFFFF).toNat).length = 12 := by
    refine length_hexPadded (by norm_num) ?_
    rw [UInt64.toNat_and]
    exact lt_of_le_of_lt Nat.and_le_right (by decide)
  simp only [idText, List.length_append, List.length_cons, h8, h4, h12]

/-- The buffer has room for the whole text. -/
theorem generateId_eq_ofList (hi lo : UInt64) :
    generateId hi lo = String.ofList (idText hi lo) := by
  rw [generateId, snprintf, List.take_of_length_le]
  rw [length_idText]
  omega

theorem testBit_setBit14 (n : UInt64) (i : ℕ) :
    (n ||| 0x4000).toNat.testBit i = (n.toNat.testBit i || decide (i = 14)) := by
  have h : (0x4000 : UInt64).toNat = 2 ^ 14 := by decide
  rw [UInt64.toNat_or, Nat.testBit_or, h, Nat.testBit_two_pow]
  simp [eq_comm]

theorem testBit_setBit63 (n : UInt64) (i : ℕ) :
    (n ||| 0x8000000000000000).toNat.testBit i = (n.toNat.testBit i || decide (i = 63)) := by
  have h : (0x8000000000000000 : UInt64).toNat = 2 ^ 63 := by decide
  rw [UInt64.toNat_or, Nat.testBit_or, h, Nat.testBit_two_pow]
  simp [eq_comm]

theorem testBit_field1 (hi : UInt64) (i : ℕ) :
    (hi >>> 32).toUInt32.toNat.testBit i = (decide (i < 32) && hi.toNat.testBit (32 + i)) := by
  have h : (32 : UInt64).toNat % 64 = 32 := by decide
  rw [UInt64.toNat_toUInt32, Nat.testBit_mod_two_pow, UInt64.toNat_shiftRight, h,
    Nat.testBit_shiftRight]

theorem testBit_field2 (hi : UInt64) (i : ℕ) :
    (hi >>> 16).toUInt16.toNat.testBit i = (decide (i < 16) && hi.toNat.testBit (16 + i)) := by
  have h : (16 : UInt64).toNat % 64 = 16 := by decide
  rw [UInt64.toNat_toUInt16, Nat.testBit_mod_two_pow, UInt64.toNat_shiftRight, h,
    Nat.testBit_shiftRight]

theorem testBit_field3 (hi : UInt64) (i : ℕ) :
    ((hi &&& 0xFFFF) ||| 0x4000).toUInt16.toNat.testBit i =
      (decide (i < 16) && (hi.toNat.testBit i || decide (i = 14))) := by
  have h : (0xFFFF : UInt64).toNat = 2 ^ 16 - 1 := by decide
  rw [UInt64.toNat_toUInt16, Nat.testBit_mod_two_pow, testBit_setBit14, UInt64.toNat_and,
    Nat.testBit_and, h, Nat.testBit_two_pow_sub_one]
  by_cases hi' : i < 16 <;> simp [hi']

theorem testBit_field4 (lo : UInt64) (i : ℕ) :
    ((lo >>> 48) ||| 0x8000).toUInt16.toNat.testBit i =
      (decide (i < 16) && (lo.toNat.testBit (48 + i) || decide (i = 15))) := by
  have h : (48 : UInt64).toNat % 64 = 48 := by decide
  have h' : (0x8000 : UInt64).toNat = 2 ^ 15 := by decide
  rw [UInt64.toNat_toUInt16, Nat.testBit_mod_two_pow, UInt64.toNat_or, Nat.testBit_or,
    UInt64.toNat_shiftRight, h, Nat.testBit_shiftRight, h', Nat.testBit_two_pow]
  simp [eq_comm]

theorem testBit_field5 (lo : UInt64) (i : ℕ) :
    (lo &&& 0xFFFFFFFFFFFF).toNat.testBit i = (decide (i < 48) && lo.toNat.testBit i) := by
  have h : (0xFFFFFFFFFFFF : UInt64).toNat = 2 ^ 48 - 1 := by decide
  rw [UInt64.toNat_and, Nat.testBit_and, h, Nat.testBit_two_pow_sub_one, Bool.and_comm]

theorem testBit_of_le {n : UInt64} {i : ℕ} (h : 64 ≤ i) : n.toNat.testBit i = false :=
  Nat.testBit_lt_two_pow (lt_of_lt_of_le n.toNat_lt (Nat.pow_le_pow_right (by norm_num) h))

/-- The first three numbers of an id are what bit 14 leaves of `hi`. -/
theorem setBit14_eq_iff {hi hi' : UInt64} :
    hi ||| 0x4000 = hi' ||| 0x4000 ↔
      (hi >>> 32).toUInt32.toNat = (hi' >>> 32).toUInt32.toNat ∧
      (hi >>> 16).toUInt16.toNat = (hi' >>> 16).toUInt16.toNat ∧
      ((hi &&& 0xFFFF) ||| 0x4000).toUInt16.toNat =
        ((hi' &&& 0xFFFF) ||| 0x4000).toUInt16.toNat := by
  rw [← UInt64.toNat_inj, Nat.eq_iff_testBit_eq, Nat.eq_iff_testBit_eq, Nat.eq_iff_testBit_eq,
    Nat.eq_iff_testBit_eq]
  simp only [testBit_setBit14, testBit_field1, testBit_field2,
    testBit_field3]
  constructor
  · intro h
    refine ⟨fun i => ?_, fun i => ?_, fun i => ?_⟩
    · have hbit := h (32 + i)
      simp_all [show 32 + i ≠ 14 by omega]
    · have hbit := h (16 + i)
      simp_all [show 16 + i ≠ 14 by omega]
    · rw [h i]
  · -- bit `i` stands in the third number, the second or the first
    rintro ⟨h1, h2, h3⟩ i
    by_cases hlow : i < 16
    · simpa [hlow] using h3 i
    · by_cases hmid : i < 32
      · have hbit := h2 (i - 16)
        simp only [show i - 16 < 16 by omega, show 16 + (i - 16) = i by omega, decide_true,
          Bool.true_and] at hbit
        rw [hbit]
      · by_cases hhigh : i < 64
        · have hbit := h1 (i - 32)
          simp only [show i - 32 < 32 by omega, show 32 + (i - 32) = i by omega, decide_true,
            Bool.true_and] at hbit
          rw [hbit]
        · rw [testBit_of_le (by omega), testBit_of_le (by omega)]

/-- The last two numbers of an id are what bit 63 leaves of `lo`. -/
theorem setBit63_eq_iff {lo lo' : UInt64} :
    lo ||| 0x8000000000000000 = lo' ||| 0x8000000000000000 ↔
      ((lo >>> 48) ||| 0x8000).toUInt16.toNat = ((lo' >>> 48) ||| 0x8000).toUInt16.toNat ∧
      (lo &&& 0xFFFFFFFFFFFF).toNat = (lo' &&& 0xFFFFFFFFFFFF).toNat := by
  rw [← UInt64.toNat_inj, Nat.eq_iff_testBit_eq, Nat.eq_iff_testBit_eq, Nat.eq_iff_testBit_eq]
  simp only [testBit_setBit63, testBit_field4, testBit_field5]
  constructor
  · intro h
    refine ⟨fun i => ?_, fun i => ?_⟩
    · have hbit := h (48 + i)
      have hpos : (48 + i = 63) = (i = 15) := propext (by omega)
      simp only [hpos] at hbit
      rw [hbit]
    · by_cases hlow : i < 48
      · have hbit := h i
        simp_all [show i ≠ 63 by omega]
      · simp [hlow]
  · rintro ⟨h4, h5⟩ i
    by_cases hlow : i < 48
    · have hbit := h5 i
      simp_all
    · by_cases hhigh : i < 64
      · have hbit := h4 (i - 48)
        have hpos : (i - 48 = 15) = (i = 63) := propext (by omega)
        simpa only [show i - 48 < 16 by omega, show 48 + (i - 48) = i by omega, decide_true,
          Bool.true_and, hpos] using hbit
      · rw [testBit_of_le (by omega), testBit_of_le (by omega)]

/-- Five numbers of fixed width: equal texts have equal numbers. -/
theorem idText_eq_iff {hi lo hi' lo' : UInt64} :
    idText hi lo = idText hi' lo' ↔ idBits hi lo = idBits hi' lo' := by
  have h8 : ∀ n : UInt32, (hexPadded 8 n.toNat).length = 8 := fun n =>
    length_hexPadded (by norm_num) n.toNat_lt
  have h4 : ∀ n : UInt16, (hexPadded 4 n.toNat).length = 4 := fun n =>
    length_hexPadded (by norm_num) n.toNat_lt
  rw [idBits, idBits, Prod.mk.injEq, setBit14_eq_iff, setBit63_eq_iff]
  constructor
  · intro h
    simp only [idText] at h
    obtain ⟨h1, h⟩ := List.append_inj h (by rw [h8, h8])
    obtain ⟨h2, h⟩ := List.append_inj (List.cons.inj h).2 (by rw [h4, h4])
    obtain ⟨h3, h⟩ := List.append_inj (List.cons.inj h).2 (by rw [h4, h4])
    obtain ⟨h4', h⟩ := List.append_inj (List.cons.inj h).2 (by rw [h4, h4])
    exact ⟨⟨hexPadded_inj h1, hexPadded_inj h2, hexPadded_inj h3⟩, hexPadded_inj h4',
      hexPadded_inj (List.cons.inj h).2⟩
  · intro h
    obtain ⟨⟨h1, h2, h3⟩, h4', h5⟩ := h
    simp only [idText, h1, h2, h3, h4', h5]

/-- Two ids are the same exactly when the draws agree on all bits but the two that are set
anyway. -/
theorem generateId_eq_iff (hi lo hi' lo' : UInt64) :
    generateId hi lo = generateId hi' lo' ↔
      hi ||| 0x4000 = hi' ||| 0x4000 ∧
        lo ||| 0x8000000000000000 = lo' ||| 0x8000000000000000 := by
  rw [generateId_eq_ofList, generateId_eq_ofList, String.ofList_inj, idText_eq_iff, idBits,
    idBits, Prod.mk.injEq]

/-! ## The retry queue -/

/-- One failed shadow write, with the draws of its id. -/
structure FailedShadow where
  hi : UInt64
  lo : UInt64
  cql : String
  keyspace : String
  error : String
deriving DecidableEq, Repr

/-- The entry `enqueue_failed_write` makes of it. -/
def FailedShadow.entry (w : FailedShadow) : FailedWrite :=
  { id := generateId w.hi w.lo, cql := w.cql, keyspace := w.keyspace, error := w.error,
    attempts := 1 }

/-- The failed shadow writes are queued one after the other. -/
def Writer.enqueueAll (m : Writer) (ws : List FailedShadow) : Writer :=
  ws.foldl (fun m w => m.enqueueFailedWrite (generateId w.hi w.lo) w.cql w.keyspace w.error) m

theorem failedWrites_enqueueAll (m : Writer) (ws : List FailedShadow) :
    (m.enqueueAll ws).failedWrites =
      KVMap.emplaceAll m.failedWrites (ws.map fun w => (generateId w.hi w.lo, w.entry)) := by
  induction ws generalizing m with
  | nil => rfl
  | cons w ws ih => exact ih (m.enqueueFailedWrite (generateId w.hi w.lo) w.cql w.keyspace w.error)

/-- Lists that tell the same elements apart have as many different elements. -/
theorem length_dedup_map {α β γ : Type*} [DecidableEq β] [DecidableEq γ] {f : α → β} {g : α → γ}
    (h : ∀ a b, f a = f b ↔ g a = g b) (l : List α) :
    (l.map f).dedup.length = (l.map g).dedup.length := by
  induction l with
  | nil => rfl
  | cons a l ih =>
    have hmem : f a ∈ l.map f ↔ g a ∈ l.map g := by simp only [List.mem_map, h]
    by_cases ha : f a ∈ l.map f
    · rw [List.map_cons, List.map_cons, List.dedup_cons_of_mem ha,
        List.dedup_cons_of_mem (hmem.mp ha), ih]
    · rw [List.map_cons, List.map_cons, List.dedup_cons_of_notMem ha,
        List.dedup_cons_of_notMem (mt hmem.mpr ha), List.length_cons, List.length_cons, ih]

/-- Of the writes queued into an empty queue, those whose draws agree up to the two fixed bits
share one entry, and it is that of the first of them. -/
theorem enqueueAll_entries (m : Writer) (hempty : m.failedWrites = ∅) (ws : List FailedShadow) :
    (∀ hi lo, (m.enqueueAll ws).failedWrites.lookup (generateId hi lo) =
      (ws.find? fun w => idBits w.hi w.lo = idBits hi lo).map FailedShadow.entry) ∧
    (m.enqueueAll ws).pendingRetryCount =
      (ws.map fun w => idBits w.hi w.lo).dedup.length := by
  have hsame : ∀ w w' : FailedShadow, generateId w.hi w.lo = generateId w'.hi w'.lo ↔
      idBits w.hi w.lo = idBits w'.hi w'.lo := by
    intro w w'
    rw [generateId_eq_iff, idBits, idBits, Prod.mk.injEq]
  constructor
  · intro hi lo
    have hfind : (fun w : FailedShadow => decide (generateId w.hi w.lo = generateId hi lo)) =
        fun w => decide (idBits w.hi w.lo = idBits hi lo) := by
      funext w
      rw [decide_eq_decide]
      exact hsame w ⟨hi, lo, "", "", ""⟩
    rw [failedWrites_enqueueAll, KVMap.lookup_emplaceAll, hempty, List.find?_map]
    show Option.or (AList.lookup _ ∅) (Option.map _ (Option.map _ (ws.find? fun w =>
      decide (generateId w.hi w.lo = generateId hi lo)))) = _
    rw [hfind, AList.lookup_empty, Option.none_or, Option.map_map]
    rfl
  · rw [Writer.pendingRetryCount, failedWrites_enqueueAll, hempty, KVMap.length_keys_emplaceAll,
      List.map_map]
    exact length_dedup_map hsame ws

/-- The second write differs from the first in a bit that the id does not show. -/
theorem enqueueAll_entries_collision :
    ((Writer.enqueueAll { filter := none }
      [⟨0, 0, "INSERT INTO t (a) VALUES (1)", "ks", "timeout"⟩,
        ⟨0x4000, 0, "INSERT INTO t (a) VALUES (2)", "ks", "timeout"⟩]).pendingRetryCount) = 1 :=
  (enqueueAll_entries { filter := none } rfl _).2

end DualWriter
end ScyllaClusterSync
