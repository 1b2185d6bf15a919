import ScyllaClusterSync.Lib.KVMap

/-!
# Discrepancies and the map that holds them

`Discrepancy` of `svckit/types.hpp`, and `discrepancies_` of
`services/dual-reader/src/reader.cpp` with what is done to it under
`discrepancy_mutex_`.
-/

namespace ScyllaClusterSync
namespace DualReader

open Lib

inductive DiscrepancyType where
  | missingInTarget
  | missingInSource
  | dataMismatch
  | timestampMismatch
deriving DecidableEq, Repr

structure Discrepancy where
  id : String
  table : String
  key : List (String × String) := []
  type : DiscrepancyType := .dataMismatch
  sourceValue : Option String := none
  targetValue : Option String := none
  detectedAt : ℕ
deriving DecidableEq, Repr

/-- `discrepancies_`: every entry stands under its own id. -/
structure DiscrepancyStore where
  entries : KVMap String Discrepancy := ∅
  keyed : ∀ id d, entries.lookup id = some d → d.id = id

namespace DiscrepancyStore

/-- `clear_discrepancies`. -/
def empty : DiscrepancyStore where
  keyed id d h := by simp at h

/-- `discrepancies_.find`. -/
def find (s : DiscrepancyStore) (id : String) : Option Discrepancy := s.entries.lookup id

/-- `discrepancies_[disc.id] = disc`. -/
def put (s : DiscrepancyStore) (disc : Discrepancy) : DiscrepancyStore where
  entries := s.entries.insert disc.id disc
  keyed id d h := by
    by_cases hid : id = disc.id
    · subst hid
      rw [AList.lookup_insert, Option.some.injEq] at h
      rw [h]
    · exact s.keyed id d (AList.lookup_insert_ne hid ▸ h)

/-- The loop of `validate_table` over the discrepancies of its result. -/
def storeAll (s : DiscrepancyStore) (discrepancies : List Discrepancy) : DiscrepancyStore :=
  discrepancies.foldl put s

/-- `discrepancies_.erase`. -/
def erase (s : DiscrepancyStore) (id : String) : DiscrepancyStore where
  entries := s.entries.erase id
  keyed id' d h := by
    by_cases hid : id' = id
    · subst hid
      simp [AList.lookup_erase] at h
    · exact s.keyed id' d (AList.lookup_erase_ne hid ▸ h)

/-- `get_discrepancies`. -/
def getDiscrepancies (s : DiscrepancyStore) : List Discrepancy :=
  s.entries.entries.map (·.2)

/-- `get_discrepancies_for_table`. -/
def getDiscrepanciesForTable (s : DiscrepancyStore) (table : String) : List Discrepancy :=
  s.getDiscrepancies.filter fun d => d.table = table

/-! ## What is found after an update -/

@[simp] theorem find_empty (id : String) : empty.find id = none := AList.lookup_empty id

theorem id_of_find {s : DiscrepancyStore} {id : String} {d : Discrepancy}
    (h : s.find id = some d) : d.id = id :=
  s.keyed id d h

@[simp] theorem find_put (s : DiscrepancyStore) (d : Discrepancy) :
    (s.put d).find d.id = some d :=
  AList.lookup_insert s.entries

theorem find_put_ne {s : DiscrepancyStore} {d : Discrepancy} {id : String} (h : id ≠ d.id) :
    (s.put d).find id = s.find id :=
  AList.lookup_insert_ne h

@[simp] theorem find_erase (s : DiscrepancyStore) (id : String) : (s.erase id).find id = none :=
  AList.lookup_erase id s.entries

theorem find_erase_ne {s : DiscrepancyStore} {id id' : String} (h : id' ≠ id) :
    (s.erase id).find id' = s.find id' :=
  AList.lookup_erase_ne h

/-- An id that no stored discrepancy has keeps its entry. -/
theorem find_storeAll_of_notMem {ds : List Discrepancy} {id : String}
    (h : id ∉ ds.map Discrepancy.id) (s : DiscrepancyStore) :
    (s.storeAll ds).find id = s.find id := by
  induction ds generalizing s with
  | nil => rfl
  | cons d ds ih =>
    simp only [List.map_cons, List.mem_cons, not_or] at h
    calc (s.storeAll (d :: ds)).find id
      _ = ((s.put d).storeAll ds).find id := rfl
      _ = (s.put d).find id := ih h.2 (s.put d)
      _ = s.find id := find_put_ne h.1

/-- Among discrepancies of different ids, each is found after the loop. -/
theorem find_storeAll_of_mem {ds : List Discrepancy} (hnd : (ds.map Discrepancy.id).Nodup)
    {d : Discrepancy} (hd : d ∈ ds) (s : DiscrepancyStore) :
    (s.storeAll ds).find d.id = some d := by
  induction ds generalizing s with
  | nil => simp at hd
  | cons e ds ih =>
    rw [List.map_cons, List.nodup_cons] at hnd
    change ((s.put e).storeAll ds).find d.id = some d
    rcases List.mem_cons.mp hd with rfl | hmem
    · rw [find_storeAll_of_notMem hnd.1, find_put]
    · exact ih hnd.2 hmem (s.put e)

/-- What is found after the loop was stored by it, or was there before. -/
theorem of_find_storeAll {ds : List Discrepancy} {id : String} {d : Discrepancy}
    {s : DiscrepancyStore} (h : (s.storeAll ds).find id = some d) :
    d ∈ ds ∨ s.find id = some d := by
  induction ds generalizing s with
  | nil => exact Or.inr h
  | cons e ds ih =>
    have hrest : ((s.put e).storeAll ds).find id = some d := h
    rcases ih hrest with hmem | hfind
    · exact Or.inl (List.mem_cons_of_mem e hmem)
    · by_cases hid : id = e.id
      · subst hid
        rw [find_put, Option.some.injEq] at hfind
        exact Or.inl (hfind ▸ List.mem_cons_self)
      · rw [find_put_ne hid] at hfind
        exact Or.inr hfind

/-- The map lists a discrepancy exactly when it is the entry of its id. -/
theorem mem_getDiscrepancies {s : DiscrepancyStore} {d : Discrepancy} :
    d ∈ s.getDiscrepancies ↔ s.find d.id = some d := by
  unfold getDiscrepancies find
  rw [List.mem_map, ← Option.mem_def, AList.mem_lookup_iff]
  constructor
  · rintro ⟨⟨id, e⟩, hmem, rfl⟩
    have hid : e.id = id := s.keyed id e (AList.mem_lookup_iff.mpr hmem)
    exact hid ▸ hmem
  · intro hmem
    exact ⟨_, hmem, rfl⟩

theorem mem_getDiscrepanciesForTable {s : DiscrepancyStore} {table : String} {d : Discrepancy} :
    d ∈ s.getDiscrepanciesForTable table ↔ s.find d.id = some d ∧ d.table = table := by
  rw [getDiscrepanciesForTable, List.mem_filter, mem_getDiscrepancies, decide_eq_true_iff]

end DiscrepancyStore

end DualReader
end ScyllaClusterSync
