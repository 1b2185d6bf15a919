import ScyllaClusterSync.DualReader.ReconciliationTheorems
import ScyllaClusterSync.SSTableLoader.LiveCopy
import ScyllaClusterSync.SSTableLoader.RowInsertTheorems

/-!
# What a copied row leaves on the target

Two paths copy a row to the target: the loader's `insert_row_with_retry`, and
`copy_row_to_target` of the reconciliation strategies. Both execute `INSERT INTO ... JSON ?`
and bind nothing to it, so the statement is the same for all rows of a table
(`statements_of_copyRun`), and no reading of it gives back two of them.
-/

namespace ScyllaClusterSync
namespace Services

open Lib Svckit SSTableLoader DualReader

/-! ## `copy_row_to_target` -/

/-- An answer of a strategy: it has executed the copy of the source value, and says so when the
target took it, or it has executed nothing and says something else. -/
def CopiesOrNot (d : Discrepancy) (target : Statement → Outcome)
    (answer : ReconciliationResult × List Execution) : Prop :=
  (answer.2 = [] ∧ answer.1.action ≠ "CopiedToTarget") ∨
    ∃ jsonRow, d.sourceValue = some jsonRow ∧
      answer.2 = [copyRowToTarget target d.table jsonRow] ∧
      (answer.1.action = "CopiedToTarget" ↔ (copyRowToTarget target d.table jsonRow).outcome = .ok)

theorem copiesOrNot_noActionNeeded (d : Discrepancy) (target : Statement → Outcome) :
    CopiesOrNot d target noActionNeeded :=
  Or.inl ⟨rfl, by decide⟩

theorem copiesOrNot_copySourceValue (d : Discrepancy) (target : Statement → Outcome) :
    CopiesOrNot d target (copySourceValue d target) := by
  unfold copySourceValue
  cases hvalue : d.sourceValue with
  | none => exact copiesOrNot_noActionNeeded d target
  | some jsonRow =>
    refine Or.inr ⟨jsonRow, hvalue, ?_⟩
    dsimp only
    cases houtcome : (copyRowToTarget target d.table jsonRow).outcome with
    | ok => exact ⟨rfl, iff_of_true rfl rfl⟩
    | syncError e =>
      have haction : "" ≠ "CopiedToTarget" := by decide
      exact ⟨rfl, iff_of_false haction (by simp)⟩

theorem copiesOrNot_reconcile (strategy : ReconciliationStrategy) (d : Discrepancy)
    (target : Statement → Outcome) : CopiesOrNot d target (strategy.reconcile d target) := by
  by_cases hauto : strategy = .manualReview
  · subst hauto
    have haction : "ManualReviewRequired" ≠ "CopiedToTarget" := by decide
    exact Or.inl ⟨rfl, haction⟩
  · rw [reconcile_eq hauto]
    split
    · exact copiesOrNot_copySourceValue d target
    · exact copiesOrNot_noActionNeeded d target

/-! ## Both paths -/

/-- A run of one of the two paths for a row of the table: the statements that the target is
given, and whether the row is reported as copied. -/
inductive CopyRun (table row : String) : List Statement → Bool → Prop
  | insert (m : Loader) (target : ℕ → Statement → Outcome) (maxRetries : UInt32) :
    CopyRun table row
      ((m.insertRowWithRetry target (insertQuery table) row maxRetries).attempts.map
        InsertAttempt.statement)
      (m.insertRowWithRetry target (insertQuery table) row maxRetries).returned
  | reconcile (strategy : ReconciliationStrategy) (d : Discrepancy) (target : Statement → Outcome)
    (htable : d.table = table) (hrow : d.sourceValue = some row) :
    CopyRun table row ((strategy.reconcile d target).2.map Execution.statement)
      (decide ((strategy.reconcile d target).1.action = "CopiedToTarget"))

/-- Every statement is the one of the table. -/
theorem statements_of_copyRun {table row : String} {statements : List Statement} {reported : Bool}
    (hrun : CopyRun table row statements reported) :
    ∀ s ∈ statements, s = .ofCql (insertQuery table) := by
  intro s hs
  cases hrun with
  | insert m target maxRetries =>
    obtain ⟨a, ha, rfl⟩ := List.mem_map.mp hs
    exact statement_of_mem_attempts m target _ row maxRetries ha
  | reconcile strategy d target htable hrow =>
    obtain ⟨e, he, rfl⟩ := List.mem_map.mp hs
    rw [of_mem_executions he, copyStatement, htable]
    rfl

/-- A row that is reported as copied has had its statement executed. -/
theorem statements_ne_nil_of_copyRun {table row : String} {statements : List Statement}
    (hrun : CopyRun table row statements true) : statements ≠ [] := by
  generalize hreported : true = reported at hrun
  cases hrun with
  | insert m target maxRetries =>
    have hexactly := insertsExactly_insertRowWithRetry m target (insertQuery table) row maxRetries
    obtain ⟨a, ha, _⟩ := hexactly.returned.mp hreported.symm
    exact List.ne_nil_of_mem (List.mem_map_of_mem ha)
  | reconcile strategy d target htable hrow =>
    rcases copiesOrNot_reconcile strategy d target with ⟨_, haction⟩ | ⟨jsonRow, _, hone, _⟩
    · exact absurd (of_decide_eq_true hreported.symm) haction
    · rw [hone]
      exact List.cons_ne_nil _ _

/-- The target has been asked to store this row in every statement, under a reading of what a
statement asks to store. -/
def StoresExactly (stored : Statement → Option String) (row : String)
    (statements : List Statement) : Prop :=
  ∀ s ∈ statements, stored s = some row

/-- For every table and any two different rows of it that are reported as copied, by either
path: what the target was given does not differ in effect, whatever the effect of a statement
is taken to be, and does not store the one row and the other. -/
theorem copied_rows_not_carried {E : Type} (effect : Statement → E)
    (stored : Statement → Option String) {table row row' : String} (hne : row ≠ row')
    {statements statements' : List Statement} (hrun : CopyRun table row statements true)
    (hrun' : CopyRun table row' statements' true) :
    (∀ s ∈ statements, ∀ s' ∈ statements', effect s = effect s') ∧
      ¬ (StoresExactly stored row statements ∧ StoresExactly stored row' statements') := by
  have hstatements := statements_of_copyRun hrun
  have hstatements' := statements_of_copyRun hrun'
  constructor
  · intro s hs s' hs'
    rw [hstatements s hs, hstatements' s' hs']
  · rintro ⟨hstores, hstores'⟩
    -- one statement of each run, and these are the same
    obtain ⟨s, hs⟩ := List.exists_mem_of_ne_nil _ (statements_ne_nil_of_copyRun hrun)
    obtain ⟨s', hs'⟩ := List.exists_mem_of_ne_nil _ (statements_ne_nil_of_copyRun hrun')
    have hrow := hstores s hs
    rw [hstatements s hs, ← hstatements' s' hs', hstores' s' hs', Option.some.injEq] at hrow
    exact hne hrow.symm

/-! ## Rows that are reported -/

/-- Every row is reported as inserted when the target accepts the statement. -/
theorem copyRun_insert (table row : String) (maxRetries : UInt32) :
    CopyRun table row [.ofCql (insertQuery table)] true := by
  have hfirst : retry what (fun _ => Outcome.ok) maxRetries =
      ⟨attemptsFrom (fun _ => .ok) 0 1, .succeeded⟩ :=
    retryFrom_of_ok (UInt32.le_iff_toNat_le.mpr (Nat.zero_le _)) rfl
  have hrun := @CopyRun.insert table row { filter := none } (fun _ _ => .ok) maxRetries
  rw [attempts_insertRowWithRetry] at hrun
  simp only [Loader.insertRowWithRetry, hfirst] at hrun
  exact hrun

/-- And so it is by a strategy that copies it. -/
theorem copyRun_reconcile (table row : String) :
    CopyRun table row [.ofCql (insertQuery table)] true :=
  .reconcile .sourceAuthoritative
    { id := "", table := table, type := .missingInTarget, sourceValue := some row, detectedAt := 0 }
    (fun _ => .ok) rfl rfl

/-- The row that is bound to the statement. -/
def boundRow (s : Statement) : Option String := s.values.head?

/-- Two rows of one table, the one inserted and the other reconciled. -/
theorem copied_rows_not_carried_twoRows :
    ¬ (StoresExactly boundRow "\x7b\"id\":7\x7d" [.ofCql (insertQuery "app.files")] ∧
      StoresExactly boundRow "\x7b\"id\":8\x7d" [.ofCql (insertQuery "app.files")]) :=
  (copied_rows_not_carried id boundRow (by decide) (copyRun_insert "app.files" _ 3)
    (copyRun_reconcile "app.files" _)).2

/-- Both have been reported, for one and the same statement. -/
theorem two_rows_one_statement :
    CopyRun "app.files" "\x7b\"id\":7\x7d" [.ofCql "INSERT INTO app.files JSON ?"] true ∧
      CopyRun "app.files" "\x7b\"id\":8\x7d" [.ofCql "INSERT INTO app.files JSON ?"] true :=
  ⟨copyRun_insert "app.files" _ 3, copyRun_insert "app.files" _ 3⟩

end Services
end ScyllaClusterSync
