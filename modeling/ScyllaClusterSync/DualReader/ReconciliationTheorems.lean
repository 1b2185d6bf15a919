import ScyllaClusterSync.DualReader.Reconciliation

/-!
# What a reconciliation erases

`reconcile_discrepancy` erases on `success`, which the strategies set when the target has
taken their statement, when they see nothing to do, and when they hand the discrepancy to a
human. The statement has the row in no case, so a call leaves the map in order when it erases
nothing, or what is missing in the source: `leavesResolved_iff`.
-/

namespace ScyllaClusterSync
namespace DualReader

open Svckit

/-- The target has taken a statement with the source value of the discrepancy bound to it. -/
def Copied (d : Discrepancy) (executions : List Execution) : Prop :=
  ∃ jsonRow, d.sourceValue = some jsonRow ∧
    ∃ e ∈ executions, e.outcome = .ok ∧ jsonRow ∈ e.statement.values

/-- Whenever the call returns: the discrepancy it was called for is gone only when it has
been copied or is missing in the source, and stays when a human has to look at it. -/
def LeavesResolved (strategy : ReconciliationStrategy) (target : Statement → Outcome)
    (store : DiscrepancyStore) (id : String) : Prop :=
  ∀ r, reconcileDiscrepancy strategy target store id = .ok r → ∀ d, store.find id = some d →
    (r.store.find id = none → Copied d r.executions ∨ d.type = .missingInSource) ∧
    (r.result.action = "ManualReviewRequired" → r.store.find id = some d)

/-- The types for which a strategy looks at the source value. -/
def ReconciliationStrategy.copies : ReconciliationStrategy → DiscrepancyType → Bool
  | .sourceAuthoritative, .missingInTarget => true
  | .sourceAuthoritative, .dataMismatch => true
  | .newestTimestamp, .timestampMismatch => true
  | _, _ => false

/-- The statement that is executed for the rows of a table. -/
def copyStatement (table : String) : Statement := .ofCql ("INSERT INTO " ++ table ++ " JSON ?")

/-- The strategy has something to copy, and the target does not take the statement. -/
def ReconciliationStrategy.Refused (strategy : ReconciliationStrategy)
    (target : Statement → Outcome) (d : Discrepancy) : Prop :=
  strategy.copies d.type = true ∧ d.sourceValue ≠ none ∧ target (copyStatement d.table) ≠ .ok

/-- The strategy does not pass the discrepancy on, and has nothing to copy for it because it is
missing in the source, or is refused the copy. -/
def ReconciliationStrategy.Resolves (strategy : ReconciliationStrategy)
    (target : Statement → Outcome) (d : Discrepancy) : Prop :=
  strategy ≠ .manualReview ∧ (d.type = .missingInSource ∨ strategy.Refused target d)

/-! ## What reaches the target -/

/-- A strategy that decides by itself copies the source value for its types, and does nothing for
the others. -/
theorem reconcile_eq {strategy : ReconciliationStrategy} (hauto : strategy ≠ .manualReview)
    (d : Discrepancy) (target : Statement → Outcome) :
    strategy.reconcile d target =
      if strategy.copies d.type then copySourceValue d target else noActionNeeded := by
  cases strategy with
  | sourceAuthoritative =>
    show reconcileSourceAuthoritative d target = _
    unfold reconcileSourceAuthoritative
    cases d.type <;> rfl
  | newestTimestamp =>
    show reconcileNewestTimestamp d target = _
    unfold reconcileNewestTimestamp
    cases d.type <;> rfl
  | manualReview => exact absurd rfl hauto

theorem mem_copySourceValue {d : Discrepancy} {target : Statement → Outcome} {e : Execution}
    (he : e ∈ (copySourceValue d target).2) :
    e = ⟨copyStatement d.table, target (copyStatement d.table)⟩ := by
  unfold copySourceValue at he
  cases hvalue : d.sourceValue with
  | none => simp [hvalue, noActionNeeded] at he
  | some jsonRow =>
    simp only [hvalue] at he
    split at he <;> exact List.mem_singleton.mp he

/-- A strategy executes the one statement there is for the table, which the target answers. -/
theorem of_mem_executions {strategy : ReconciliationStrategy} {d : Discrepancy}
    {target : Statement → Outcome} {e : Execution} (he : e ∈ (strategy.reconcile d target).2) :
    e = ⟨copyStatement d.table, target (copyStatement d.table)⟩ := by
  by_cases hauto : strategy = .manualReview
  · subst hauto
    exact absurd he List.not_mem_nil
  · rw [reconcile_eq hauto] at he
    split at he
    · exact mem_copySourceValue he
    · exact absurd he List.not_mem_nil

/-- No strategy copies anything: there is no value in its statement. -/
theorem not_copied_reconcile (strategy : ReconciliationStrategy) (d : Discrepancy)
    (target : Statement → Outcome) : ¬ Copied d (strategy.reconcile d target).2 := by
  intro hcopied
  obtain ⟨jsonRow, _, e, he, _, hmem⟩ := hcopied
  rw [of_mem_executions he] at hmem
  exact absurd hmem List.not_mem_nil

/-! ## What the strategies call a success -/

/-- Only a refused copy is no success. -/
theorem copySourceValue_fails_iff {d : Discrepancy} {target : Statement → Outcome} :
    (copySourceValue d target).1.success = false ↔
      d.sourceValue ≠ none ∧ target (copyStatement d.table) ≠ .ok := by
  unfold copySourceValue
  cases hvalue : d.sourceValue with
  | none => simp [noActionNeeded]
  | some jsonRow =>
    have houtcome : (copyRowToTarget target d.table jsonRow).outcome =
        target (copyStatement d.table) := rfl
    simp only [houtcome]
    cases target (copyStatement d.table) <;> simp

theorem reconcile_fails_iff {strategy : ReconciliationStrategy} (hauto : strategy ≠ .manualReview)
    {d : Discrepancy} {target : Statement → Outcome} :
    (strategy.reconcile d target).1.success = false ↔ strategy.Refused target d := by
  rw [reconcile_eq hauto, ReconciliationStrategy.Refused]
  split
  next hcopies => rw [copySourceValue_fails_iff, hcopies, and_iff_right rfl]
  next hcopies => simp [noActionNeeded, hcopies]

theorem action_reconcile {strategy : ReconciliationStrategy} (hauto : strategy ≠ .manualReview)
    (d : Discrepancy) (target : Statement → Outcome) :
    (strategy.reconcile d target).1.action ≠ "ManualReviewRequired" := by
  rw [reconcile_eq hauto]
  split
  · unfold copySourceValue
    cases d.sourceValue with
    | none => simp [noActionNeeded]
    | some jsonRow =>
      dsimp only
      split <;> simp
  · simp [noActionNeeded]

/-! ## The result -/

/-- One discrepancy: it stays, or has been missing in the source, exactly when the strategy
resolves it. -/
theorem erased_iff_resolves (strategy : ReconciliationStrategy) (target : Statement → Outcome)
    (d : Discrepancy) :
    (((strategy.reconcile d target).1.success = true →
        Copied d (strategy.reconcile d target).2 ∨ d.type = .missingInSource) ∧
      ((strategy.reconcile d target).1.action = "ManualReviewRequired" →
        (strategy.reconcile d target).1.success = false)) ↔ strategy.Resolves target d := by
  rw [ReconciliationStrategy.Resolves, or_iff_right (not_copied_reconcile strategy d target)]
  by_cases hauto : strategy = .manualReview
  · subst hauto
    apply iff_of_false
    · intro h
      have hkept : true = false := h.2 rfl
      cases hkept
    · intro h
      exact h.1 rfl
  · have haction := action_reconcile hauto d target
    rw [and_iff_right hauto, ← reconcile_fails_iff hauto]
    cases (strategy.reconcile d target).1.success <;> simp [haction]

/-- For every map, strategy and target: a call erases resolved discrepancies alone exactly
when its strategy resolves the discrepancy the id stands for. -/
theorem leavesResolved_iff (strategy : ReconciliationStrategy) (target : Statement → Outcome)
    (store : DiscrepancyStore) (id : String) :
    LeavesResolved strategy target store id ↔
      ∀ d, store.find id = some d → strategy.Resolves target d := by
  have hresolves : ∀ d, store.find id = some d →
      ((∀ r, reconcileDiscrepancy strategy target store id = .ok r →
        (r.store.find id = none → Copied d r.executions ∨ d.type = .missingInSource) ∧
        (r.result.action = "ManualReviewRequired" → r.store.find id = some d)) ↔
      strategy.Resolves target d) := by
    intro d hd
    rw [reconcileDiscrepancy_of_find hd, ← erased_iff_resolves strategy target d]
    simp only [Except.ok.injEq, forall_eq', find_eraseReconciled, hd]
    cases (strategy.reconcile d target).1.success <;> simp
  constructor
  · intro h d hd
    exact (hresolves d hd).mp fun r hr => h r hr d hd
  · intro h r hr d hd
    exact (hresolves d hd).mpr (h d hd) r hr

/-- A row that differs is handed to a human, and the map forgets it. -/
theorem manual_review_erases :
    ¬ ∀ (strategy : ReconciliationStrategy) (target : Statement → Outcome)
      (store : DiscrepancyStore) (id : String), LeavesResolved strategy target store id := by
  intro hall
  have hfind := DiscrepancyStore.find_put .empty
    { id := "disc-0", table := "app.files", detectedAt := 0 }
  have hcall := reconcileDiscrepancy_of_find hfind .manualReview fun _ => .ok
  have hkept := (hall _ _ _ _ _ hcall _ hfind).2 rfl
  rw [find_eraseReconciled] at hkept
  cases hkept

end DualReader
end ScyllaClusterSync
