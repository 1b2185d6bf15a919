import ScyllaClusterSync.SSTableLoader.IndexManagerTheorems
import ScyllaClusterSync.SSTableLoader.VerifyIndexes

/-!
# What `verify_indexes` verifies

That each query succeeds: a SELECT that finds nothing succeeds as well
(`verifyIndexes_eq_true_iff`). So the answer is about the connection, and right about the
indexes when they are all there, or when a query fails (`verifyAll_exact_iff`).
-/

namespace ScyllaClusterSync
namespace SSTableLoader

open Svckit

variable {connected : Bool} {reached : ℕ → Except String Unit} {rows : Finset IndexRow}

/-- The query to the `i`-th index succeeds. -/
def QuerySucceeds (connected : Bool) (reached : ℕ → Except String Unit) (i : ℕ) : Prop :=
  connected = true ∧ reached i = .ok ()

/-- The index is listed in the catalogue. -/
def IndexInfo.Listed (idx : IndexInfo) (rows : Finset IndexRow) : Prop :=
  (⟨idx.keyspace, idx.table, idx.indexName⟩ : IndexRow) ∈ rows

/-- The entry of the catalogue by keyspace and name that the row is for. -/
def IndexRow.entry (row : IndexRow) : String × String := (row.keyspaceName, row.indexName)

/-! ## The answer -/

/-- The rows of the answer make no difference to the outcome. -/
theorem execute_query_eq_ok_iff {query : IndexQuery} {r : Except String Unit} :
    query.execute connected r rows = .ok ↔ connected = true ∧ r = .ok () := by
  rw [IndexQuery.execute, execute_eq_ok_iff]
  cases r <;> simp [Except.map]

theorem verifyOneByOne_eq_true_iff {indexes : List IndexInfo} :
    verifyOneByOne connected reached rows indexes = true ↔
      ∀ i < indexes.length, QuerySucceeds connected reached i := by
  induction indexes generalizing reached with
  | nil => simp [verifyOneByOne]
  | cons idx indexes ih =>
    rw [verifyOneByOne, List.length_cons]
    have hfirst := @execute_query_eq_ok_iff connected rows idx.query (reached 0)
    cases hexecute : idx.query.execute connected (reached 0) rows with
    | ok =>
      have hzero : QuerySucceeds connected reached 0 := hfirst.mp hexecute
      dsimp only
      rw [ih]
      constructor
      · intro hrest i hi
        cases i with
        | zero => exact hzero
        | succ i => exact hrest i (Nat.lt_of_succ_lt_succ hi)
      · intro hall i hi
        exact hall (i + 1) (Nat.succ_lt_succ hi)
    | syncError e =>
      -- the first failure returns
      refine iff_of_false (by simp) fun hall => ?_
      have hok := hfirst.mpr (hall 0 (Nat.succ_pos _))
      rw [hexecute] at hok
      simp at hok

theorem verifyAll_eq_true_iff {m : IndexManager} :
    m.verifyAll connected reached rows = true ↔
      ∀ i < m.indexes.length, QuerySucceeds connected reached i := by
  unfold IndexManager.verifyAll IndexStrategy.verifyIndexes
  cases m.strategy <;> exact verifyOneByOne_eq_true_iff

theorem verifyAll_eq_false_iff {m : IndexManager} :
    m.verifyAll connected reached rows = false ↔
      ∃ i < m.indexes.length, ¬ QuerySucceeds connected reached i := by
  rw [← Bool.not_eq_true, verifyAll_eq_true_iff]
  push Not
  rfl

/-! ## The result -/

/-- What is expected: `true` when every index is listed and every query has succeeded. -/
def VerifiesExactly (m : IndexManager) (connected : Bool) (reached : ℕ → Except String Unit)
    (rows : Finset IndexRow) : Prop :=
  m.verifyAll connected reached rows = true ↔
    (∀ idx ∈ m.indexes, idx.Listed rows) ∧
      ∀ i < m.indexes.length, QuerySucceeds connected reached i

/-- For every catalogue, list of indexes, strategy and pattern of reachability: the answer is
exact when all the indexes are listed or some query fails. And every index that `drop_all` has
reported is gone, and as long as it is, the answer is `false` only when some query fails. -/
theorem verifyAll_exact_iff (m : IndexManager) (connected : Bool)
    (reached : ℕ → Except String Unit) :
    (∀ rows, VerifiesExactly m connected reached rows ↔
      (∀ idx ∈ m.indexes, idx.Listed rows) ∨
        ∃ i < m.indexes.length, ¬ QuerySucceeds connected reached i) ∧
    ∀ env c, ∀ name ∈ (m.dropAll env c).1, ∃ idx ∈ m.indexes, idx.indexName = name ∧
      idx.entry ∉ (m.dropAll env c).2 ∧
      ∀ rows : Finset IndexRow, idx.entry ∉ rows.image IndexRow.entry → ¬ idx.Listed rows ∧
        (m.verifyAll connected reached rows = false ↔
          ∃ i < m.indexes.length, ¬ QuerySucceeds connected reached i) := by
  constructor
  · intro rows
    rw [VerifiesExactly, verifyAll_eq_true_iff, iff_and_self]
    constructor
    · intro hexact
      by_cases hall : ∀ i < m.indexes.length, QuerySucceeds connected reached i
      · exact Or.inl (hexact hall)
      · push Not at hall
        exact Or.inr hall
    · rintro (hlisted | ⟨i, hi, hfails⟩) hall
      · exact hlisted
      · exact absurd (hall i hi) hfails
  · intro env c name hname
    obtain ⟨idx, hidx, hname, hgone⟩ := entry_not_mem_of_dropped hname
    refine ⟨idx, hidx, hname, hgone, fun rows hrows => ⟨fun hlisted => ?_, verifyAll_eq_false_iff⟩⟩
    exact hrows (Finset.mem_image_of_mem IndexRow.entry hlisted)

/-- A manager of one index. -/
def filesByOwner : IndexManager where
  strategy := .standard
  indexes := [{ keyspace := "app", table := "files", indexName := "files_by_owner"
                columnName := "owner" }]

/-- The index is dropped and not rebuilt. -/
theorem verifyAll_exact_iff_dropped :
    filesByOwner.verifyAll true (fun _ => .ok ()) ∅ = false ↔
      ∃ i < 1, ¬ QuerySucceeds true (fun _ => .ok ()) i := by
  obtain ⟨idx, _, _, _, hgone⟩ := (verifyAll_exact_iff filesByOwner true fun _ => .ok ()).2
    .succeeding {("app", "files_by_owner")} "files_by_owner" (by decide)
  exact (hgone ∅ (by simp)).2

/-- Its query finds no row, and it is verified. -/
theorem dropped_index_verified :
    filesByOwner.dropAll .succeeding {("app", "files_by_owner")} = (["files_by_owner"], ∅) ∧
      ¬ VerifiesExactly filesByOwner true (fun _ => .ok ()) ∅ := by
  refine ⟨by decide, fun hexact => ?_⟩
  obtain ⟨hlisted, _⟩ := hexact.mp (by decide)
  exact absurd (hlisted _ List.mem_cons_self) (Finset.notMem_empty _)

end SSTableLoader
end ScyllaClusterSync
