import Mathlib

/-!
# Key-value maps and batched updates

`KVMap K V` is a finite map whose iteration order carries no meaning, on top of
Mathlib's `AList`. Besides the map's own operations it has `emplace`, which keeps an
existing entry, and the batched updates `eraseAll`, `insertAll` and `emplaceAll`, each with
the lookup it leads to.
-/

namespace ScyllaClusterSync
namespace Lib

/-- A finite map from `K` to `V`. -/
abbrev KVMap (K V : Type) := AList (fun _ : K => V)

namespace KVMap

variable {K V : Type} [DecidableEq K]

/-- Insert unless the key is there already. -/
def emplace (m : KVMap K V) (k : K) (v : V) : KVMap K V :=
  if k ∈ m then m else m.insert k v

/-- Erase every key of a list. -/
def eraseAll (m : KVMap K V) (ks : List K) : KVMap K V :=
  ks.foldl (fun m k => m.erase k) m

/-- Assign every pair of a list, in order. -/
def insertAll (m : KVMap K V) (kvs : List (K × V)) : KVMap K V :=
  kvs.foldl (fun m kv => m.insert kv.1 kv.2) m

/-- Emplace every pair of a list, in order. -/
def emplaceAll (m : KVMap K V) (kvs : List (K × V)) : KVMap K V :=
  kvs.foldl (fun m kv => emplace m kv.1 kv.2) m

/-- The entries a list of keys names, in the order of the list. -/
def entriesAt (m : KVMap K V) (ks : List K) : List (K × V) :=
  ks.filterMap fun k => (m.lookup k).map fun v => (k, v)

/-! ## Lookup after an update -/

theorem lookup_emplace_of_notMem {m : KVMap K V} {k : K} {v : V} (h : m.lookup k = none) :
    (emplace m k v).lookup k = some v := by
  have hk : k ∉ m := AList.lookup_eq_none.mp h
  rw [emplace, if_neg hk, AList.lookup_insert]

theorem lookup_emplace_ne {m : KVMap K V} {k k' : K} {v : V} (h : k' ≠ k) :
    (emplace m k v).lookup k' = m.lookup k' := by
  unfold emplace
  split
  · rfl
  · exact AList.lookup_insert_ne h

theorem lookup_eraseAll (m : KVMap K V) (ks : List K) (k : K) :
    (eraseAll m ks).lookup k = if k ∈ ks then none else m.lookup k := by
  induction ks generalizing m with
  | nil => simp [eraseAll]
  | cons k' ks ih =>
    have hstep : eraseAll m (k' :: ks) = eraseAll (m.erase k') ks := rfl
    rw [hstep, ih]
    by_cases hks : k ∈ ks
    · simp [hks]
    · by_cases hk : k = k'
      · subst hk
        simp [AList.lookup_erase]
      · simp [hks, hk, AList.lookup_erase_ne hk]

theorem lookup_insertAll_of_notMem {m : KVMap K V} {kvs : List (K × V)} {k : K}
    (h : k ∉ kvs.map Prod.fst) : (insertAll m kvs).lookup k = m.lookup k := by
  induction kvs generalizing m with
  | nil => rfl
  | cons kv kvs ih =>
    simp only [List.map_cons, List.mem_cons, not_or] at h
    have hstep : insertAll m (kv :: kvs) = insertAll (m.insert kv.1 kv.2) kvs := rfl
    rw [hstep, ih h.2, AList.lookup_insert_ne h.1]

theorem lookup_insertAll_of_mem {m : KVMap K V} {kvs : List (K × V)} {k : K} {v : V}
    (hnd : (kvs.map Prod.fst).Nodup) (h : (k, v) ∈ kvs) :
    (insertAll m kvs).lookup k = some v := by
  induction kvs generalizing m with
  | nil => simp at h
  | cons kv kvs ih =>
    have hstep : insertAll m (kv :: kvs) = insertAll (m.insert kv.1 kv.2) kvs := rfl
    simp only [List.map_cons, List.nodup_cons] at hnd
    rw [hstep]
    rcases List.mem_cons.mp h with rfl | h
    · rw [lookup_insertAll_of_notMem hnd.1, AList.lookup_insert]
    · exact ih hnd.2 h

/-- Erasing and then assigning: what is not assigned is as the erasing left it. -/
theorem lookup_insertAll_eraseAll_of_notMem {m : KVMap K V} {ks : List K} {kvs : List (K × V)}
    {k : K} (h : k ∉ kvs.map Prod.fst) :
    (insertAll (eraseAll m ks) kvs).lookup k = if k ∈ ks then none else m.lookup k := by
  rw [lookup_insertAll_of_notMem h, lookup_eraseAll]

/-- What was there stays, and of the pairs with one key the first is taken. -/
theorem lookup_emplaceAll (m : KVMap K V) (kvs : List (K × V)) (k : K) :
    (emplaceAll m kvs).lookup k =
      (m.lookup k).or ((kvs.find? fun kv => kv.1 = k).map Prod.snd) := by
  induction kvs generalizing m with
  | nil => simp [emplaceAll]
  | cons kv kvs ih =>
    have hstep : emplaceAll m (kv :: kvs) = emplaceAll (emplace m kv.1 kv.2) kvs := rfl
    rw [hstep, ih, List.find?_cons]
    by_cases hk : kv.1 = k
    · subst hk
      cases hm : m.lookup kv.1 with
      | none => simp [lookup_emplace_of_notMem hm]
      | some v =>
        have hmem : kv.1 ∈ m := AList.lookup_isSome.mp (by simp [hm])
        simp [emplace, hmem, hm]
    · rw [lookup_emplace_ne (Ne.symm hk)]
      simp [hk]

/-! ## Where an entry found afterwards comes from -/

theorem of_lookup_emplace {m : KVMap K V} {k k' : K} {v v' : V}
    (h : (emplace m k v).lookup k' = some v') : m.lookup k' = some v' ∨ (k' = k ∧ v' = v) := by
  by_cases hk : k ∈ m
  · rw [emplace, if_pos hk] at h
    exact Or.inl h
  · by_cases hkk : k' = k
    · rw [hkk, lookup_emplace_of_notMem (AList.lookup_eq_none.mpr hk)] at h
      exact Or.inr ⟨hkk, (Option.some.inj h).symm⟩
    · rw [lookup_emplace_ne hkk] at h
      exact Or.inl h

theorem of_lookup_insertAll {m : KVMap K V} {kvs : List (K × V)} {k : K} {v : V}
    (h : (insertAll m kvs).lookup k = some v) : m.lookup k = some v ∨ (k, v) ∈ kvs := by
  induction kvs generalizing m with
  | nil => exact Or.inl h
  | cons kv kvs ih =>
    have hstep : insertAll m (kv :: kvs) = insertAll (m.insert kv.1 kv.2) kvs := rfl
    rw [hstep] at h
    rcases ih h with hl | hmem
    · by_cases hk : k = kv.1
      · rw [hk, AList.lookup_insert] at hl
        refine Or.inr (List.mem_cons.mpr (Or.inl ?_))
        rw [hk, ← Option.some.inj hl]
      · rw [AList.lookup_insert_ne hk] at hl
        exact Or.inl hl
    · exact Or.inr (List.mem_cons_of_mem _ hmem)

theorem of_lookup_eraseAll {m : KVMap K V} {ks : List K} {k : K} {v : V}
    (h : (eraseAll m ks).lookup k = some v) : m.lookup k = some v := by
  rw [lookup_eraseAll] at h
  split at h
  · exact absurd h (by simp)
  · exact h

/-! ## How many entries there are -/

theorem length_keys_emplace {m : KVMap K V} {k : K} {v : V} (h : k ∉ m) :
    (emplace m k v).keys.length = m.keys.length + 1 := by
  rw [emplace, if_neg h, AList.keys_insert, List.length_cons, List.erase_of_not_mem h]

/-- From the empty map, one entry for each key that occurs. -/
theorem length_keys_emplaceAll (kvs : List (K × V)) :
    (emplaceAll ∅ kvs).keys.length = (kvs.map Prod.fst).dedup.length := by
  have hperm : (emplaceAll ∅ kvs).keys.Perm (kvs.map Prod.fst).dedup := by
    refine (List.perm_ext_iff_of_nodup (AList.keys_nodup _) (List.nodup_dedup _)).mpr fun k => ?_
    rw [← AList.mem_keys, ← AList.lookup_isSome, lookup_emplaceAll]
    simp [List.find?_isSome]
  exact hperm.length_eq

/-- Erasing distinct keys that are all in the map. -/
theorem length_keys_eraseAll {m : KVMap K V} {ks : List K} (hnd : ks.Nodup)
    (hmem : ∀ k ∈ ks, k ∈ m) : (eraseAll m ks).keys.length + ks.length = m.keys.length := by
  induction ks generalizing m with
  | nil => rfl
  | cons k ks ih =>
    have hstep : eraseAll m (k :: ks) = eraseAll (m.erase k) ks := rfl
    have hk : k ∈ m := hmem k List.mem_cons_self
    have hpos : 0 < m.keys.length := List.length_pos_of_mem hk
    have hrest : ∀ k' ∈ ks, k' ∈ m.erase k := by
      intro k' hk'
      refine AList.mem_erase.mpr ⟨?_, hmem k' (List.mem_cons_of_mem _ hk')⟩
      intro heq
      exact (List.nodup_cons.mp hnd).1 (heq ▸ hk')
    have hlen : (m.erase k).keys.length = m.keys.length - 1 := by
      rw [AList.keys_erase, List.length_erase_of_mem hk]
    have hih := ih (List.nodup_cons.mp hnd).2 hrest
    rw [hstep, List.length_cons]
    omega

/-- Assigning to keys that are all in the map. -/
theorem length_keys_insertAll {m : KVMap K V} {kvs : List (K × V)}
    (hmem : ∀ k ∈ kvs.map Prod.fst, k ∈ m) : (insertAll m kvs).keys.length = m.keys.length := by
  induction kvs generalizing m with
  | nil => rfl
  | cons kv kvs ih =>
    have hstep : insertAll m (kv :: kvs) = insertAll (m.insert kv.1 kv.2) kvs := rfl
    have hk : kv.1 ∈ m := hmem kv.1 (by simp)
    have hpos : 0 < m.keys.length := List.length_pos_of_mem hk
    have hlen : (m.insert kv.1 kv.2).keys.length = m.keys.length := by
      rw [AList.keys_insert, List.length_cons, List.length_erase_of_mem hk]
      omega
    rw [hstep, ih, hlen]
    intro k hk'
    exact (AList.mem_insert _).mpr (Or.inr (hmem k (List.mem_cons_of_mem _ hk')))

/-! ## Reading the entries out -/

theorem mem_entriesAt {m : KVMap K V} {ks : List K} {k : K} {v : V} :
    (k, v) ∈ entriesAt m ks ↔ k ∈ ks ∧ m.lookup k = some v := by
  simp only [entriesAt, List.mem_filterMap, Option.map_eq_some_iff, Prod.mk.injEq]
  constructor
  · rintro ⟨k', hk', v', hv', rfl, rfl⟩
    exact ⟨hk', hv'⟩
  · rintro ⟨hk, hv⟩
    exact ⟨k, hk, v, hv, rfl, rfl⟩

/-- The keys read out are the keys asked for, as long as they all are in the map. -/
theorem map_fst_entriesAt {m : KVMap K V} {ks : List K} (h : ∀ k ∈ ks, k ∈ m) :
    (entriesAt m ks).map Prod.fst = ks := by
  induction ks with
  | nil => rfl
  | cons k ks ih =>
    obtain ⟨v, hv⟩ := Option.isSome_iff_exists.mp (AList.lookup_isSome.mpr (h k (by simp)))
    have htail : entriesAt m (k :: ks) = (k, v) :: entriesAt m ks := by
      simp [entriesAt, hv]
    rw [htail, List.map_cons, ih fun k' hk' => h k' (List.mem_cons_of_mem _ hk')]

end KVMap
end Lib
end ScyllaClusterSync
