import ScyllaClusterSync.SSTableLoader.LiveCopy
import ScyllaClusterSync.SSTableLoader.RowInsert

/-!
# How often a row is inserted and a page is fetched

Both loops are `Lib.retry`, so both end at the first success or after one execution more
than the retries they are given, at every bound of 32 bits. What they return, throw and count
follows the exit. The copies of `LiveCopy` are such inserts (`run_copy_eq_insertRowWithRetry`).
-/

namespace ScyllaClusterSync
namespace SSTableLoader

open Svckit Lib

theorem what_eq_none {o : Outcome} : what o = none ↔ o = .ok := by
  cases o <;> simp [what]

theorem what_eq_some {o : Outcome} {e : String} : what o = some e ↔ o = .syncError e := by
  cases o <;> simp [what]

/-! ## `insert_row_with_retry` -/

section

variable (m : Loader) (target : ℕ → Statement → Outcome) (insertQuery jsonRow : String)
  (maxRetries : UInt32)

/-- Whatever the exit, its executions are those of the loop, all of the one statement. -/
theorem attempts_insertRowWithRetry :
    (m.insertRowWithRetry target insertQuery jsonRow maxRetries).attempts =
      (retry what (fun i => target i (.ofCql insertQuery)) maxRetries).attempts.map
        fun a => ⟨a.1, .ofCql insertQuery, a.2⟩ := by
  unfold Loader.insertRowWithRetry
  dsimp only
  split <;> rfl

theorem statement_of_mem_attempts {a : InsertAttempt}
    (ha : a ∈ (m.insertRowWithRetry target insertQuery jsonRow maxRetries).attempts) :
    a.statement = .ofCql insertQuery := by
  rw [attempts_insertRowWithRetry] at ha
  obtain ⟨b, _, rfl⟩ := List.mem_map.mp ha
  rfl

theorem map_attempts_insertRowWithRetry :
    (m.insertRowWithRetry target insertQuery jsonRow maxRetries).attempts.map
        (fun a => (a.attempt, a.outcome)) =
      (retry what (fun i => target i (.ofCql insertQuery)) maxRetries).attempts := by
  rw [attempts_insertRowWithRetry, List.map_map]
  exact List.map_id _

theorem exists_ok_attempt_iff :
    (∃ a ∈ (m.insertRowWithRetry target insertQuery jsonRow maxRetries).attempts,
        a.outcome = .ok) ↔
      ∃ a ∈ (retry what (fun i => target i (.ofCql insertQuery)) maxRetries).attempts,
        what a.2 = none := by
  rw [attempts_insertRowWithRetry]
  simp only [List.mem_map, exists_exists_and_eq_and, what_eq_none]

end

/-- What is expected of an insert: the executions of one statement up to the first success,
the answer by whether there is one, and one of two counters incremented. -/
structure InsertsExactly (m : Loader) (target : ℕ → Statement → Outcome) (insertQuery : String)
    (maxRetries : UInt32) (r : InsertRun) : Prop where
  statements : ∀ a ∈ r.attempts, a.statement = .ofCql insertQuery
  executions : UpToFirstSuccess what (fun i => target i (.ofCql insertQuery)) maxRetries
    (r.attempts.map fun a => (a.attempt, a.outcome))
  returned : r.returned = true ↔ ∃ a ∈ r.attempts, a.outcome = .ok
  counters : r.loader = m.fetchAdd (if r.returned then .migratedRows else .failedRows)

/-- It succeeds with an execution, or counts a failed row. -/
theorem insertsExactly_insertRowWithRetry (m : Loader) (target : ℕ → Statement → Outcome)
    (insertQuery jsonRow : String) (maxRetries : UInt32) :
    InsertsExactly m target insertQuery maxRetries
      (m.insertRowWithRetry target insertQuery jsonRow maxRetries) := by
  refine ⟨fun a ha => ?_, ?_, ?_, ?_⟩
  · exact statement_of_mem_attempts m target insertQuery jsonRow maxRetries ha
  · rw [map_attempts_insertRowWithRetry]
    exact retry_upToFirstSuccess what _ maxRetries
  · rw [exists_ok_attempt_iff]
    rcases retry_exit what (fun i => target i (.ofCql insertQuery)) maxRetries with
      ⟨hexit, hok⟩ | ⟨⟨e, hexit⟩, hfailed⟩
    · refine iff_of_true ?_ hok
      simp only [Loader.insertRowWithRetry, hexit]
    · refine iff_of_false ?_ fun hok => ?_
      · simp [Loader.insertRowWithRetry, hexit]
      · obtain ⟨a, ha, hok⟩ := hok
        exact hfailed a ha hok
  · rcases retry_exit what (fun i => target i (.ofCql insertQuery)) maxRetries with
      ⟨hexit, _⟩ | ⟨⟨e, hexit⟩, _⟩
    · simp [Loader.insertRowWithRetry, hexit]
    · simp [Loader.insertRowWithRetry, hexit]

/-! ## The copy of a live row -/

section

variable {R V : Type} [DecidableEq R] {table : String} {row : R} {json : V}

/-- An execution of the loop, as a step of the copy. -/
def insertAction (table : String) (row : R) (a : UInt32 × Outcome) : JobAction R :=
  .insert (insertQuery table) row a.2

/-- Failures leave the clusters alone, and count as attempts. -/
theorem run_failedInserts {answers : ℕ → Outcome} {maxRetries : UInt32} (clusters : Clusters R V)
    (i : ℕ) {n : ℕ} (hn : n ≤ maxRetries.toNat) (hfailed : ∀ j < n, what (answers j) ≠ none) :
    run (Pool.solo (copyProgram maxRetries) i)
        (clusters, { job := .copy table row, stage := .holding json 0 })
        ((attemptsFrom answers 0 n).map (insertAction table row)) =
      some (clusters, { job := .copy table row, stage := .holding json n }) := by
  induction n with
  | zero => rfl
  | succ n ih =>
    have hrest := ih (Nat.le_of_succ_le hn) fun j hj => hfailed j (Nat.lt_succ_of_lt hj)
    rw [attemptsFrom_concat, Nat.zero_add, List.map_append, List.map_singleton, run_concat, hrest]
    cases hanswer : answers n with
    | ok => exact absurd (what_eq_none.mpr hanswer) (hfailed n (Nat.lt_succ_self n))
    | syncError e =>
      simp [insertAction, Pool.solo, copyProgram, jobStep, Nat.lt_of_succ_le hn]

/-- A copy that holds the row's JSON goes through `insert_row_with_retry`: with the executions
of the loop it ends as the call returns. -/
theorem run_copy_eq_insertRowWithRetry (m : Loader) (target : ℕ → Statement → Outcome)
    (jsonRow : String) (maxRetries : UInt32) (clusters : Clusters R V) (i : ℕ) :
    run (Pool.solo (copyProgram maxRetries) i)
        (clusters, { job := .copy table row, stage := .holding json 0 })
        ((m.insertRowWithRetry target (insertQuery table) jsonRow maxRetries).attempts.map
          fun a => .insert a.statement.cql row a.outcome) =
      some (if (m.insertRowWithRetry target (insertQuery table) jsonRow maxRetries).returned then
        ({ clusters with target := overwrite clusters.target (row, some json) },
          { job := .copy table row, stage := .done })
      else (clusters, { job := .copy table row, stage := .failed })) := by
  rw [attempts_insertRowWithRetry, List.map_map]
  change run _ _ (List.map (insertAction table row) _) = _
  rcases retry_cases what (fun i => target i (.ofCql (insertQuery table))) maxRetries with
    ⟨k, hk, hfailed, hok, hloop⟩ | ⟨hfailed, e, he, hloop⟩
  · -- `k` failures and a success
    have hreturned : (m.insertRowWithRetry target (insertQuery table) jsonRow maxRetries).returned =
        true := by
      simp only [Loader.insertRowWithRetry, hloop]
    rw [hreturned, hloop, attemptsFrom_concat, List.map_append, List.map_singleton, run_concat,
      run_failedInserts clusters i hk hfailed, Nat.zero_add, what_eq_none.mp hok]
    simp [insertAction, Pool.solo, copyProgram, jobStep]
  · -- failures up to the bound, the last of which gives up
    have hreturned : (m.insertRowWithRetry target (insertQuery table) jsonRow maxRetries).returned =
        false := by
      simp only [Loader.insertRowWithRetry, hloop]
    rw [hreturned, hloop, attemptsFrom_concat, List.map_append, List.map_singleton, run_concat,
      run_failedInserts clusters i (Nat.le_refl _) fun j hj => hfailed j (Nat.le_of_lt hj),
      Nat.zero_add, what_eq_some.mp he]
    simp [insertAction, Pool.solo, copyProgram, jobStep]

end

/-! ## The page fetch -/

/-- What is expected of a page fetch: a `DatabaseError` when all executions failed, and a page
otherwise. -/
structure FetchesExactly (source : ℕ → Outcome) (pageRetryAttempts : UInt32) (r : PageFetch) :
    Prop where
  executions : UpToFirstSuccess what source pageRetryAttempts r.attempts
  throws : (∃ msg, r.result = .error (databaseError msg)) ↔ ∀ a ∈ r.attempts, a.2 ≠ .ok
  page : r.result = .ok true ↔ ∃ a ∈ r.attempts, a.2 = .ok

theorem fetchesExactly_fetchPage (source : ℕ → Outcome) (pageNum : ℕ) (pageRetryAttempts : UInt32) :
    FetchesExactly source pageRetryAttempts (fetchPage source pageNum pageRetryAttempts) := by
  have hexecutions := retry_upToFirstSuccess what source pageRetryAttempts
  have hexit := retry_exit what source pageRetryAttempts
  unfold fetchPage
  dsimp only
  generalize retry what source pageRetryAttempts = loop at *
  obtain ⟨attempts, exit⟩ := loop
  rcases hexit with ⟨rfl, a, ha, hok⟩ | ⟨⟨e, rfl⟩, hfailed⟩
  · have hok' : a.2 = .ok := what_eq_none.mp hok
    refine ⟨hexecutions, iff_of_false (by simp) fun hfailed => hfailed a ha hok', ?_⟩
    exact iff_of_true rfl ⟨a, ha, hok'⟩
  · have hfailed' : ∀ a ∈ attempts, a.2 ≠ .ok := fun a ha hok =>
      hfailed a ha (what_eq_none.mpr hok)
    refine ⟨hexecutions, iff_of_true ⟨_, rfl⟩ hfailed', iff_of_false (by simp) fun hsome => ?_⟩
    obtain ⟨a, ha, hok⟩ := hsome
    exact hfailed' a ha hok

/-! ## The result -/

/-- For every bound of 32 bits and every sequence of answers: both loops end, with the
executions up to the first success and at most one more than the retries; the insert returns
true when one of them succeeded and increments one of its two counters, and the page fetch
throws a `DatabaseError` when none did. -/
theorem retry_loops_exact (m : Loader) (target : ℕ → Statement → Outcome)
    (insertQuery jsonRow : String) (maxRetries : UInt32) (source : ℕ → Outcome) (pageNum : ℕ)
    (pageRetryAttempts : UInt32) :
    InsertsExactly m target insertQuery maxRetries
        (m.insertRowWithRetry target insertQuery jsonRow maxRetries) ∧
      FetchesExactly source pageRetryAttempts (fetchPage source pageNum pageRetryAttempts) :=
  ⟨insertsExactly_insertRowWithRetry m target insertQuery jsonRow maxRetries,
    fetchesExactly_fetchPage source pageNum pageRetryAttempts⟩

end SSTableLoader
end ScyllaClusterSync
