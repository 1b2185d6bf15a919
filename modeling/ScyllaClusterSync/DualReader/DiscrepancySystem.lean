import ScyllaClusterSync.DualReader.Reconciliation
import ScyllaClusterSync.DualReader.Validator
import ScyllaClusterSync.Lib.Transition

/-!
# Validations and reconciliations at once

The steps are the critical sections of `discrepancy_mutex_`: a validation stores what it
has found, a call of `reconcile_discrepancy` copies its discrepancy out and later erases,
with the work of the strategy between the two, and `clear_discrepancies` empties the map.
Any number of calls may be under way.
-/

namespace ScyllaClusterSync
namespace DualReader

open Lib Svckit

/-- Where a call of `reconcile_discrepancy` stands. -/
inductive ReconcileStage where
  | idle
  /-- Past the first critical section. -/
  | found (id : String) (disc : Discrepancy)
  /-- The strategy has answered. -/
  | answered (id : String) (disc : Discrepancy) (result : ReconciliationResult)
deriving DecidableEq

structure DiscrepancyState where
  store : DiscrepancyStore := .empty
  calls : ℕ → ReconcileStage := fun _ => .idle

inductive DiscrepancyAction where
  | validate (table : String) (sample now : ℕ → ℕ) (source target : Except String ℕ)
  | find (call : ℕ) (id : String)
  | reconcile (call : ℕ) (strategy : ReconciliationStrategy) (target : Statement → Outcome)
  | erase (call : ℕ)
  | clear

/-- What the action puts into the map: the discrepancies of a validation that returns. -/
def DiscrepancyAction.stored : DiscrepancyAction → List Discrepancy
  | .validate table sample now source target =>
    match Validator.validateTable table sample now source target with
    | .ok result => result.discrepancies
    | .error _ => []
  | _ => []

def DiscrepancyState.setCall (s : DiscrepancyState) (call : ℕ) (stage : ReconcileStage) :
    DiscrepancyState :=
  { s with calls := Function.update s.calls call stage }

def discrepancyStep (s : DiscrepancyState) (a : DiscrepancyAction) : Option DiscrepancyState :=
  match a with
  | .validate .. => some { s with store := s.store.storeAll a.stored }
  | .find call id =>
    match s.calls call with
    | .idle =>
      match findDiscrepancy s.store id with
      | .ok disc => some (s.setCall call (.found id disc))
      -- the `ValidationError` ends the call
      | .error _ => some s
    | _ => none
  | .reconcile call strategy target =>
    match s.calls call with
    | .found id disc => some (s.setCall call (.answered id disc (strategy.reconcile disc target).1))
    | _ => none
  | .erase call =>
    match s.calls call with
    | .answered id _ result =>
      some { s.setCall call .idle with store := eraseReconciled s.store id result }
    | _ => none
  | .clear => some { s with store := .empty }

/-! ## What is retrievable -/

/-- Both getters list the discrepancy. -/
def DiscrepancyState.Retrievable (s : DiscrepancyState) (d : Discrepancy) : Prop :=
  d ∈ s.store.getDiscrepancies ∧ d ∈ s.store.getDiscrepanciesForTable d.table

theorem retrievable_iff {s : DiscrepancyState} {d : Discrepancy} :
    s.Retrievable d ↔ s.store.find d.id = some d := by
  unfold DiscrepancyState.Retrievable
  rw [DiscrepancyStore.mem_getDiscrepancies, DiscrepancyStore.mem_getDiscrepanciesForTable]
  tauto

theorem nodup_ids_stored (a : DiscrepancyAction) : (a.stored.map Discrepancy.id).Nodup := by
  cases a with
  | validate table sample now source target =>
    cases h : Validator.validateTable table sample now source target with
    | ok result =>
      have hstored : (DiscrepancyAction.validate table sample now source target).stored =
          result.discrepancies := by
        simp only [DiscrepancyAction.stored, h]
      rw [hstored]
      exact Validator.nodup_ids_validateTable h
    | error e =>
      have hstored : (DiscrepancyAction.validate table sample now source target).stored = [] := by
        simp only [DiscrepancyAction.stored, h]
      rw [hstored]
      exact List.nodup_nil
  | find | reconcile | erase | clear => exact List.nodup_nil

/-! ## One lemma for each action -/

variable {s s' : DiscrepancyState}

theorem store_validate {table : String} {sample now : ℕ → ℕ} {source target : Except String ℕ}
    (h : discrepancyStep s (.validate table sample now source target) = some s') :
    s' = { s with
      store := s.store.storeAll
        (DiscrepancyAction.validate table sample now source target).stored } :=
  (Option.some.inj h).symm

/-- The first critical section does not change the map. -/
theorem find_cases {call : ℕ} {id : String} (h : discrepancyStep s (.find call id) = some s') :
    s.calls call = .idle ∧ (s' = s ∨ ∃ disc, s.store.find id = some disc ∧
      s' = s.setCall call (.found id disc)) := by
  unfold discrepancyStep at h
  cases hcall : s.calls call with
  | idle =>
    simp only [hcall, findDiscrepancy] at h
    cases hfind : s.store.find id with
    | some disc =>
      simp only [hfind, Option.some.injEq] at h
      exact ⟨rfl, Or.inr ⟨disc, rfl, h.symm⟩⟩
    | none =>
      simp only [hfind, Option.some.injEq] at h
      exact ⟨rfl, Or.inl h.symm⟩
  | found | answered => simp [hcall] at h

/-- Nor does the strategy. -/
theorem reconcile_cases {call : ℕ} {strategy : ReconciliationStrategy} {target : Statement → Outcome}
    (h : discrepancyStep s (.reconcile call strategy target) = some s') :
    ∃ id disc, s.calls call = .found id disc ∧
      s' = s.setCall call (.answered id disc (strategy.reconcile disc target).1) := by
  unfold discrepancyStep at h
  cases hcall : s.calls call with
  | found id disc =>
    simp only [hcall, Option.some.injEq] at h
    exact ⟨id, disc, rfl, h.symm⟩
  | idle | answered => simp [hcall] at h

theorem erase_cases {call : ℕ} (h : discrepancyStep s (.erase call) = some s') :
    ∃ id disc result, s.calls call = .answered id disc result ∧
      s' = { s.setCall call .idle with store := eraseReconciled s.store id result } := by
  unfold discrepancyStep at h
  cases hcall : s.calls call with
  | answered id disc result =>
    simp only [hcall, Option.some.injEq] at h
    exact ⟨id, disc, result, rfl, h.symm⟩
  | idle | found => simp [hcall] at h

theorem store_clear (h : discrepancyStep s .clear = some s') : s' = { s with store := .empty } :=
  (Option.some.inj h).symm

/-- A call that nothing interrupts is `reconcile_discrepancy`. -/
theorem run_undisturbed {call : ℕ} {id : String} {strategy : ReconciliationStrategy}
    {target : Statement → Outcome} {r : Reconciled} (hidle : s.calls call = .idle)
    (hr : reconcileDiscrepancy strategy target s.store id = .ok r) :
    run discrepancyStep s [.find call id, .reconcile call strategy target, .erase call] =
      some { s with store := r.store } := by
  obtain ⟨disc, hdisc⟩ := find_of_reconcileDiscrepancy hr
  rw [reconcileDiscrepancy_of_find hdisc, Except.ok.injEq] at hr
  subst hr
  have hfind : discrepancyStep s (.find call id) = some (s.setCall call (.found id disc)) := by
    simp only [discrepancyStep, hidle, findDiscrepancy_of_find hdisc]
  have hback : Function.update s.calls call .idle = s.calls := by
    rw [← hidle, Function.update_eq_self]
  rw [run, hfind, Option.bind_some]
  simp only [run, discrepancyStep, DiscrepancyState.setCall, Option.bind_some,
    Function.update_self, Function.update_idem, hback]

end DualReader
end ScyllaClusterSync
