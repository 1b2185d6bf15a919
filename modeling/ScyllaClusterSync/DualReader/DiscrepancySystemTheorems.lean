import ScyllaClusterSync.DualReader.DiscrepancySystem

/-!
# What the discrepancy map loses

The map is keyed by an id that ten discrepancies of every validation share, and a call of
`reconcile_discrepancy` erases whatever stands under its id by then: `kept_iff`. With ids
of their own nothing would be lost: `kept_of_unique_ids`.
-/

namespace ScyllaClusterSync
namespace DualReader

open Lib Svckit

/-- A reconciliation of this very value has succeeded, and its call has still to erase. -/
def DiscrepancyState.Settled (s : DiscrepancyState) (d : Discrepancy) : Prop :=
  ∃ call id result, s.calls call = .answered id d result ∧ result.success = true

/-- What is stored can be retrieved, and what could be retrieved still can, unless the map
is cleared or the discrepancy has been reconciled. -/
def Kept (s : DiscrepancyState) (a : DiscrepancyAction) (s' : DiscrepancyState) : Prop :=
  (∀ d ∈ a.stored, s'.Retrievable d) ∧
    ∀ d, s.Retrievable d → s'.Retrievable d ∨ a = .clear ∨ s.Settled d

/-- A validation finds no other discrepancy under the ids it stores, and a successful call
none under the id it erases, except such as have been reconciled themselves. This is known
before the step; the state after it has a place because `Along` shows both. -/
def LeavesOthers (s : DiscrepancyState) (a : DiscrepancyAction) (_ : DiscrepancyState) : Prop :=
  (∀ d ∈ a.stored, ∀ e, s.store.find d.id = some e → e = d ∨ s.Settled e) ∧
    ∀ call id disc result, a = .erase call → s.calls call = .answered id disc result →
      result.success = true → ∀ e, s.store.find id = some e → s.Settled e

/-! ## Each action -/

variable {s s' : DiscrepancyState}

theorem retrievable_storeAll {ds : List Discrepancy} (hnd : (ds.map Discrepancy.id).Nodup)
    {d : Discrepancy} (hd : d ∈ ds) :
    ({ s with store := s.store.storeAll ds } : DiscrepancyState).Retrievable d :=
  retrievable_iff.mpr (DiscrepancyStore.find_storeAll_of_mem hnd hd s.store)

/-- A validation keeps an entry whose id it does not use, and one it stores again as it is. -/
theorem kept_storeAll_iff {a : DiscrepancyAction} (hclear : a ≠ .clear)
    (hs' : s' = { s with store := s.store.storeAll a.stored }) :
    Kept s a s' ↔ ∀ d ∈ a.stored, ∀ e, s.store.find d.id = some e → e = d ∨ s.Settled e := by
  subst hs'
  constructor
  · intro hkept d hd e he
    have hid : e.id = d.id := DiscrepancyStore.id_of_find he
    have hbefore : s.Retrievable e := retrievable_iff.mpr (hid ▸ he)
    rcases hkept.2 e hbefore with hafter | hcleared | hsettled
    · have hfind := retrievable_iff.mp (hkept.1 d hd)
      rw [← hid, retrievable_iff.mp hafter, Option.some.injEq] at hfind
      exact Or.inl hfind
    · exact absurd hcleared hclear
    · exact Or.inr hsettled
  · intro hothers
    refine ⟨fun d hd => retrievable_storeAll (nodup_ids_stored a) hd, fun e he => ?_⟩
    by_cases hmem : e.id ∈ a.stored.map Discrepancy.id
    · obtain ⟨d, hd, hid⟩ := List.mem_map.mp hmem
      rcases hothers d hd e (hid ▸ retrievable_iff.mp he) with rfl | hsettled
      · exact Or.inl (retrievable_storeAll (nodup_ids_stored a) hd)
      · exact Or.inr (Or.inr hsettled)
    · refine Or.inl (retrievable_iff.mpr ?_)
      exact (DiscrepancyStore.find_storeAll_of_notMem hmem s.store).trans (retrievable_iff.mp he)

/-- An action that leaves the map alone loses nothing. -/
theorem kept_of_same_store {a : DiscrepancyAction} (hstored : a.stored = [])
    (hstore : s'.store = s.store) : Kept s a s' := by
  constructor
  · intro d hd
    rw [hstored] at hd
    cases hd
  · intro d hd
    rw [retrievable_iff] at hd
    exact Or.inl (retrievable_iff.mpr (hstore ▸ hd))

theorem kept_erase_iff {call : ℕ} {id : String} {result : ReconciliationResult}
    (hstore : s'.store = eraseReconciled s.store id result) :
    Kept s (.erase call) s' ↔
      (result.success = true → ∀ e, s.store.find id = some e → s.Settled e) := by
  constructor
  · intro hkept hsuccess e he
    have hid : e.id = id := DiscrepancyStore.id_of_find he
    -- what was under the id is not retrievable any more, and `clear` has not been called
    rcases hkept.2 e (retrievable_iff.mpr (hid ▸ he)) with hafter | hcleared | hsettled
    · rw [retrievable_iff, hstore, hid, find_eraseReconciled, if_pos hsuccess] at hafter
      cases hafter
    · cases hcleared
    · exact hsettled
  · intro hothers
    refine ⟨fun d hd => absurd hd List.not_mem_nil, fun e he => ?_⟩
    rw [retrievable_iff] at he ⊢
    by_cases hid : e.id = id
    · cases hsuccess : result.success with
      | false =>
        rw [hstore, hid, find_eraseReconciled, hsuccess]
        exact Or.inl (hid ▸ he)
      | true => exact Or.inr (Or.inr (hothers hsuccess e (hid ▸ he)))
    · rw [hstore, find_eraseReconciled_ne _ hid]
      exact Or.inl he

theorem kept_clear : Kept s .clear s' :=
  ⟨fun _ hd => absurd hd List.not_mem_nil, fun _ _ => Or.inr (Or.inl rfl)⟩

theorem leavesOthers_of_not_erase {a : DiscrepancyAction} (hstored : a.stored = [])
    (herase : ∀ call, a ≠ .erase call) : LeavesOthers s a s' := by
  constructor
  · intro d hd
    rw [hstored] at hd
    cases hd
  · intro call id disc result ha
    exact absurd ha (herase call)

theorem kept_iff_leavesOthers {a : DiscrepancyAction} (hstep : discrepancyStep s a = some s') :
    Kept s a s' ↔ LeavesOthers s a s' := by
  cases a with
  | validate table sample now source target =>
    rw [kept_storeAll_iff (by simp) (store_validate hstep), LeavesOthers]
    simp
  | find call id =>
    apply iff_of_true (kept_of_same_store rfl _) (leavesOthers_of_not_erase rfl (by simp))
    rcases (find_cases hstep).2 with rfl | ⟨disc, -, rfl⟩ <;> rfl
  | reconcile call strategy target =>
    apply iff_of_true (kept_of_same_store rfl _) (leavesOthers_of_not_erase rfl (by simp))
    obtain ⟨id, disc, -, rfl⟩ := reconcile_cases hstep
    rfl
  | erase call =>
    -- the step that erases by id, whatever the map has there by now
    obtain ⟨id, disc, result, hcall, hs'⟩ := erase_cases hstep
    rw [kept_erase_iff (by rw [hs']), LeavesOthers]
    constructor
    · intro h
      refine ⟨fun d hd => absurd hd List.not_mem_nil, ?_⟩
      rintro call' id' disc' result' ⟨⟩ hcall'
      rw [hcall] at hcall'
      cases hcall'
      exact h
    · intro h
      exact h.2 call id disc result rfl hcall
  | clear => exact iff_of_true kept_clear (leavesOthers_of_not_erase rfl (by simp))

/-! ## Ids of their own -/

/-- Every discrepancy of the map, and every one a call has copied, is the one its id is
for. -/
structure ReadsById (value : String → Discrepancy) (s : DiscrepancyState) : Prop where
  store : ∀ id d, s.store.find id = some d → d = value id
  found : ∀ call id d, s.calls call = .found id d → d = value id
  answered : ∀ call id d result, s.calls call = .answered id d result → d = value id

variable {value : String → Discrepancy}

theorem readsById_init : ReadsById value {} where
  store id d h := by
    change DiscrepancyStore.empty.find id = some d at h
    rw [DiscrepancyStore.find_empty] at h
    cases h
  found call id d h := by cases h
  answered call id d result h := by cases h

theorem ReadsById.setCall {call : ℕ} {stage : ReconcileStage} (hs : ReadsById value s)
    (hfound : ∀ id d, stage = .found id d → d = value id)
    (hanswered : ∀ id d result, stage = .answered id d result → d = value id) :
    ReadsById value (s.setCall call stage) where
  store := hs.store
  found call' id d h := by
    by_cases hcall : call' = call
    · subst hcall
      exact hfound id d (Function.update_self call' stage s.calls ▸ h)
    · exact hs.found call' id d (Function.update_of_ne hcall stage s.calls ▸ h)
  answered call' id d result h := by
    by_cases hcall : call' = call
    · subst hcall
      exact hanswered id d result (Function.update_self call' stage s.calls ▸ h)
    · exact hs.answered call' id d result (Function.update_of_ne hcall stage s.calls ▸ h)

theorem ReadsById.step {a : DiscrepancyAction} (hs : ReadsById value s)
    (hids : ∀ d ∈ a.stored, d = value d.id) (hstep : discrepancyStep s a = some s') :
    ReadsById value s' := by
  cases a with
  | validate table sample now source target =>
    rw [store_validate hstep]
    refine ⟨fun id d hd => ?_, hs.found, hs.answered⟩
    rcases DiscrepancyStore.of_find_storeAll hd with hmem | hbefore
    · exact (hids d hmem).trans (congrArg value (DiscrepancyStore.id_of_find hd))
    · exact hs.store id d hbefore
  | find call id =>
    rcases (find_cases hstep).2 with rfl | ⟨disc, hdisc, rfl⟩
    · exact hs
    · apply hs.setCall
      · rintro id' d ⟨⟩
        exact hs.store id disc hdisc
      · rintro id' d result ⟨⟩
  | reconcile call strategy target =>
    obtain ⟨id, disc, hcall, rfl⟩ := reconcile_cases hstep
    apply hs.setCall
    · rintro id' d ⟨⟩
    · rintro id' d result ⟨⟩
      exact hs.found call id disc hcall
  | erase call =>
    -- erasing takes one id away and copies nothing
    obtain ⟨id, disc, result, -, rfl⟩ := erase_cases hstep
    have hidle : ReadsById value (s.setCall call .idle) :=
      hs.setCall (fun id d h => by cases h) (fun id d result h => by cases h)
    refine ⟨fun id' d hd => ?_, hidle.found, hidle.answered⟩
    by_cases hid : id' = id
    · subst hid
      rw [find_eraseReconciled] at hd
      split at hd
      · cases hd
      · exact hs.store id' d hd
    · exact hs.store id' d (find_eraseReconciled_ne s.store hid result ▸ hd)
  | clear =>
    rw [store_clear hstep]
    refine ⟨fun id d hd => ?_, hs.found, hs.answered⟩
    rw [DiscrepancyStore.find_empty] at hd
    cases hd

theorem ReadsById.leavesOthers {a : DiscrepancyAction} (hs : ReadsById value s)
    (hids : ∀ d ∈ a.stored, d = value d.id) : LeavesOthers s a s' := by
  constructor
  · intro d hd e he
    exact Or.inl ((hs.store d.id e he).trans (hids d hd).symm)
  · intro call id disc result _ hcall hsuccess e he
    -- both the entry and the copy are the one that the id is for
    have hsame : e = disc := (hs.store id e he).trans (hs.answered call id disc result hcall).symm
    exact ⟨call, id, result, hsame ▸ hcall, hsuccess⟩

/-- Were an id never used for two discrepancies, nothing would ever be lost. -/
theorem kept_of_unique_ids {h : List DiscrepancyAction}
    (hids : ∀ a ∈ h, ∀ d ∈ a.stored, d = value d.id) : Along discrepancyStep {} Kept h := by
  have hreads : ∀ pre s, run discrepancyStep {} pre = some s →
      (∀ a ∈ pre, ∀ d ∈ a.stored, d = value d.id) → ReadsById value s := by
    apply run_invariant
    · intro _
      exact readsById_init
    · intro pre s a s' hbefore hstep hpre
      have hs := hbefore fun b hb => hpre b (List.mem_append_left [a] hb)
      exact hs.step (hpre a (List.mem_append_right pre (List.mem_singleton_self a))) hstep
  intro pre a post s s' heq hrun hstep
  subst heq
  have hs := hreads pre s hrun fun b hb => hids b (List.mem_append_left _ hb)
  exact (kept_iff_leavesOthers hstep).mpr
    (hs.leavesOthers (hids a (List.mem_append_right pre List.mem_cons_self)))

/-! ## The result -/

/-- Along every interleaving, from every state: each step keeps what is stored exactly when
each step meets none but its own discrepancies under the ids it writes and erases. -/
theorem kept_iff (s₀ : DiscrepancyState) (h : List DiscrepancyAction) :
    Along discrepancyStep s₀ Kept h ↔ Along discrepancyStep s₀ LeavesOthers h := by
  apply along_congr_of_iff
  intro s a s' hstep
  exact kept_iff_leavesOthers hstep

/-- One row is missing in each of two tables, and both are `disc-0`. -/
theorem second_table_overwrites :
    ¬ ∀ h : List DiscrepancyAction, Along discrepancyStep {} Kept h := by
  intro hall
  have hkept := hall
    [.validate "app.files" id (fun _ => 0) (.ok 1) (.ok 0),
      .validate "app.users" id (fun _ => 0) (.ok 1) (.ok 0)]
    [.validate "app.files" id (fun _ => 0) (.ok 1) (.ok 0)]
    (.validate "app.users" id (fun _ => 0) (.ok 1) (.ok 0)) [] _ _ rfl rfl rfl
  have hfirst := hkept.2 (Validator.missingRow "app.files" (fun _ => 0) 0)
    (retrievable_iff.mpr (by decide +kernel))
  rcases hfirst with hafter | hclear | ⟨call, id, result, hcall, -⟩
  · exact absurd (retrievable_iff.mp hafter) (by decide +kernel)
  · cases hclear
  · cases hcall

end DualReader
end ScyllaClusterSync
