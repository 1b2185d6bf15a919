import ScyllaClusterSync.DualReader.Discrepancy
import ScyllaClusterSync.Svckit.Database

/-!
# `services/dual-reader/src/reconciliation.cpp` and `reconcile_discrepancy`

A strategy is given one discrepancy and the target, as a function from the statement that
reaches it to how `execute` ends. It answers with a `ReconciliationResult`, and has executed
at most one statement on the target by then.
-/

namespace ScyllaClusterSync
namespace DualReader

open Svckit

structure ReconciliationResult where
  success : Bool := false
  action : String := ""
  errorMessage : String := ""
deriving DecidableEq, Repr

/-- The implementations of `ReconciliationStrategyBase`. -/
inductive ReconciliationStrategy where
  | sourceAuthoritative
  | newestTimestamp
  | manualReview
deriving DecidableEq, Repr

/-! ## The strategies -/

/-- `copy_row_to_target`. The row is not bound to the statement. -/
def copyRowToTarget (target : Statement → Outcome) (table _jsonRow : String) : Execution :=
  executeOn target ("INSERT INTO " ++ table ++ " JSON ?")

def noActionNeeded : ReconciliationResult × List Execution :=
  ({ success := true, action := "NoActionNeeded" }, [])

/-- The branch that copies, the same wherever a strategy has it. -/
def copySourceValue (discrepancy : Discrepancy) (target : Statement → Outcome) :
    ReconciliationResult × List Execution :=
  match discrepancy.sourceValue with
  | some jsonRow =>
    let copy := copyRowToTarget target discrepancy.table jsonRow
    match copy.outcome with
    | .ok => ({ success := true, action := "CopiedToTarget" }, [copy])
    | .syncError e => ({ success := false, errorMessage := e }, [copy])
  | none => noActionNeeded

/-- `SourceAuthoritativeStrategy::reconcile`. -/
def reconcileSourceAuthoritative (discrepancy : Discrepancy) (target : Statement → Outcome) :
    ReconciliationResult × List Execution :=
  match discrepancy.type with
  | .missingInTarget => copySourceValue discrepancy target
  | .dataMismatch => copySourceValue discrepancy target
  | .missingInSource => noActionNeeded
  | .timestampMismatch => noActionNeeded

/-- `NewestTimestampStrategy::reconcile`. -/
def reconcileNewestTimestamp (discrepancy : Discrepancy) (target : Statement → Outcome) :
    ReconciliationResult × List Execution :=
  if discrepancy.type = .timestampMismatch then copySourceValue discrepancy target
  else noActionNeeded

/-- `ManualReviewStrategy::reconcile`. -/
def reconcileManualReview : ReconciliationResult × List Execution :=
  ({ success := true, action := "ManualReviewRequired" }, [])

/-- `strategy_->reconcile`. -/
def ReconciliationStrategy.reconcile (strategy : ReconciliationStrategy)
    (discrepancy : Discrepancy) (target : Statement → Outcome) :
    ReconciliationResult × List Execution :=
  match strategy with
  | .sourceAuthoritative => reconcileSourceAuthoritative discrepancy target
  | .newestTimestamp => reconcileNewestTimestamp discrepancy target
  | .manualReview => reconcileManualReview

/-! ## `reconcile_discrepancy` -/

/-- The first critical section: the discrepancy copied out, or the `ValidationError`. -/
def findDiscrepancy (store : DiscrepancyStore) (id : String) : Except String Discrepancy :=
  match store.find id with
  | some disc => .ok disc
  | none => .error ("[ValidationError] Discrepancy not found: " ++ id)

/-- The second critical section. -/
def eraseReconciled (store : DiscrepancyStore) (id : String) (result : ReconciliationResult) :
    DiscrepancyStore :=
  if result.success then store.erase id else store

/-- What a call that returns has seen and done. -/
structure Reconciled where
  result : ReconciliationResult
  executions : List Execution
  store : DiscrepancyStore

/-- `reconcile_discrepancy`, undisturbed. -/
def reconcileDiscrepancy (strategy : ReconciliationStrategy) (target : Statement → Outcome)
    (store : DiscrepancyStore) (id : String) : Except String Reconciled := do
  let disc ← findDiscrepancy store id
  let (result, executions) := strategy.reconcile disc target
  return ⟨result, executions, eraseReconciled store id result⟩

/-! ## What is left of the map -/

theorem findDiscrepancy_of_find {store : DiscrepancyStore} {id : String} {d : Discrepancy}
    (h : store.find id = some d) : findDiscrepancy store id = .ok d := by
  rw [findDiscrepancy, h]

theorem reconcileDiscrepancy_of_find {store : DiscrepancyStore} {id : String} {d : Discrepancy}
    (h : store.find id = some d) (strategy : ReconciliationStrategy) (target : Statement → Outcome) :
    reconcileDiscrepancy strategy target store id =
      .ok ⟨(strategy.reconcile d target).1, (strategy.reconcile d target).2,
        eraseReconciled store id (strategy.reconcile d target).1⟩ := by
  rw [reconcileDiscrepancy, findDiscrepancy_of_find h]
  rfl

/-- A call for an id that is not there throws, so what returns has found a discrepancy. -/
theorem find_of_reconcileDiscrepancy {strategy : ReconciliationStrategy}
    {target : Statement → Outcome} {store : DiscrepancyStore} {id : String} {r : Reconciled}
    (h : reconcileDiscrepancy strategy target store id = .ok r) :
    ∃ d, store.find id = some d := by
  cases hd : store.find id with
  | some d => exact ⟨d, rfl⟩
  | none =>
    rw [reconcileDiscrepancy, findDiscrepancy, hd] at h
    cases h

theorem find_eraseReconciled (store : DiscrepancyStore) (id : String)
    (result : ReconciliationResult) :
    (eraseReconciled store id result).find id = if result.success then none else store.find id := by
  unfold eraseReconciled
  split
  · exact store.find_erase id
  · rfl

theorem find_eraseReconciled_ne (store : DiscrepancyStore) {id id' : String} (h : id' ≠ id)
    (result : ReconciliationResult) :
    (eraseReconciled store id result).find id' = store.find id' := by
  unfold eraseReconciled
  split
  · exact store.find_erase_ne h
  · rfl

end DualReader
end ScyllaClusterSync
