import ScyllaClusterSync.SSTableLoader.IndexManagerTheorems

/-!
# The two strategies compared

Both strategies get the same list of indexes, and every statement ends the same way under
both. They throw alike and drop alike. A rebuild that fails leaves less behind under
`StandardIndexStrategy`, which stops at the first failure, where `ParallelIndexStrategy`
collects the failures and goes on (`rebuilds_compared`).
-/

namespace ScyllaClusterSync
namespace SSTableLoader

open Svckit

/-! ## The same outcomes for both -/

/-- The threads of each batch get the outcomes of their positions, whatever their order. -/
def Follows (answers : ℕ → Outcome) (runs : ℕ → (batch : List IndexInfo) → BatchRun batch) :
    List (List IndexInfo) → Prop
  | [] => True
  | batch :: batches => (runs 0 batch).executed.Perm (assigned answers batch) ∧
      Follows (fun i => answers (i + batch.length)) (fun n => runs (n + 1)) batches

/-- The entries of some statements. -/
def entriesOf (executed : List (IndexInfo × Outcome)) : Catalogue :=
  (executed.map fun x => x.1.entry).toFinset

variable {answers : ℕ → Outcome} {runs : ℕ → (batch : List IndexInfo) → BatchRun batch}
  {outcomes executed : List (IndexInfo × Outcome)} {batches : List (List IndexInfo)}
  {c : Catalogue}

theorem assigned_append (answers : ℕ → Outcome) (indexes indexes' : List IndexInfo) :
    assigned answers (indexes ++ indexes') =
      assigned answers indexes ++ assigned (fun i => answers (i + indexes.length)) indexes' := by
  induction indexes generalizing answers with
  | nil => rfl
  | cons idx indexes ih =>
    rw [List.cons_append, assigned, ih, assigned, List.cons_append]
    simp only [List.length_cons, Nat.add_assoc]

/-- Batches that follow the outcomes execute what the list executes one by one. -/
theorem executedIn_perm (hfollows : Follows answers runs batches) :
    (executedIn runs batches).Perm (assigned answers batches.flatten) := by
  induction batches generalizing answers runs with
  | nil => exact List.Perm.refl _
  | cons batch batches ih =>
    obtain ⟨hbatch, hrest⟩ := hfollows
    rw [executedIn, List.flatten_cons, assigned_append]
    exact hbatch.append (ih hrest)

/-! ## What is created -/

/-- The failed ones among some CREATEs, and their order, make no difference. -/
theorem executeAll_create_of_perm (hperm : executed.Perm outcomes) :
    executeAll IndexInfo.create executed c =
      c ∪ entriesOf (outcomes.filter fun x => x.2 = .ok) := by
  ext e
  rw [mem_executeAll_create, Finset.mem_union, entriesOf, List.mem_toFinset, List.mem_map]
  simp only [hperm.mem_iff, List.mem_filter, decide_eq_true_eq, and_assoc]

/-- CREATEs that all succeed. -/
theorem executeAll_create_of_ok (hok : ∀ x ∈ executed, x.2 = .ok) :
    executeAll IndexInfo.create executed c = c ∪ entriesOf executed := by
  rw [executeAll_create_of_perm (List.Perm.refl executed),
    List.filter_eq_self.mpr fun x hx => decide_eq_true (hok x hx)]

theorem ThrowsOnFailure.perm {r : Except String Unit} (h : ThrowsOnFailure executed r)
    (hperm : executed.Perm outcomes) : ThrowsOnFailure outcomes r := by
  constructor
  · simpa only [hperm.mem_iff] using h.throws
  · simpa only [hperm.mem_iff] using h.returns

/-! ## The strategies -/

/-- A rebuild that ends by these outcomes and adds these of the indexes. -/
structure Rebuilds (outcomes added : List (IndexInfo × Outcome)) (c : Catalogue)
    (r : Except String Unit × Catalogue) : Prop where
  ends : ThrowsOnFailure outcomes r.1
  catalogue : r.2 = c ∪ entriesOf added

theorem rebuilds_standard (env : IndexEnv) (indexes : List IndexInfo) (c : Catalogue) :
    Rebuilds (assigned env.answers indexes)
      ((assigned env.answers indexes).takeWhile fun x => x.2 = .ok) c
      (IndexStrategy.standard.rebuildIndexes env indexes c) := by
  constructor
  · exact rebuildOneByOne_throwsOnFailure env.answers indexes c
  · exact (rebuildOneByOne_snd env.answers indexes c).trans
      (executeAll_create_of_ok fun x hx => ok_of_mem_takeWhile hx)

theorem rebuilds_parallel (env : IndexEnv) {parallelism : ℕ} (pos : 0 < parallelism)
    {indexes : List IndexInfo} (c : Catalogue)
    (hfollows : Follows env.answers env.runs (batchesFrom parallelism indexes 0)) :
    Rebuilds (assigned env.answers indexes)
      ((assigned env.answers indexes).filter fun x => x.2 = .ok) c
      ((IndexStrategy.parallel parallelism pos).rebuildIndexes env indexes c) := by
  have hperm := executedIn_perm hfollows
  rw [flatten_batches pos] at hperm
  constructor
  · exact (rebuildIndexes_parallel_throwsOnFailure env pos indexes c).perm hperm
  · rw [rebuildIndexes_parallel_snd]
    exact executeAll_create_of_perm hperm

/-- Both strategies report the names of the statements that succeeded. -/
theorem dropped_standard (env : IndexEnv) (indexes : List IndexInfo) (c : Catalogue) :
    (IndexStrategy.standard.dropIndexes env indexes c).1 =
      (assigned env.answers indexes).filterMap droppedName :=
  congrArg Prod.fst (dropOneByOne_eq env.answers indexes c)

theorem dropped_parallel (env : IndexEnv) {parallelism : ℕ} (pos : 0 < parallelism)
    {indexes : List IndexInfo} (c : Catalogue)
    (hfollows : Follows env.answers env.runs (batchesFrom parallelism indexes 0)) :
    ((IndexStrategy.parallel parallelism pos).dropIndexes env indexes c).1.Perm
      ((assigned env.answers indexes).filterMap droppedName) := by
  have hperm := executedIn_perm hfollows
  rw [flatten_batches pos] at hperm
  exact (dropBatches_fst env.runs _ c).trans (hperm.filterMap droppedName)

/-- What the parallel rebuild adds to the other one: successes behind the first failure. -/
theorem rebuilt_alike_iff :
    c ∪ entriesOf (outcomes.takeWhile fun x => x.2 = .ok) =
        c ∪ entriesOf (outcomes.filter fun x => x.2 = .ok) ↔
      ∀ x ∈ outcomes.dropWhile fun x => x.2 = .ok, x.2 = .ok →
        x.1.entry ∈ c ∪ entriesOf (outcomes.takeWhile fun x => x.2 = .ok) := by
  have hsplit : outcomes.filter (fun x => x.2 = .ok) =
      (outcomes.takeWhile fun x => x.2 = .ok) ++
        (outcomes.dropWhile fun x => x.2 = .ok).filter fun x => x.2 = .ok := by
    conv_lhs => rw [← @List.takeWhile_append_dropWhile _ (fun x => x.2 = .ok) outcomes]
    have hok : ∀ x ∈ outcomes.takeWhile fun x => x.2 = .ok, decide (x.2 = .ok) = true :=
      fun x hx => decide_eq_true (ok_of_mem_takeWhile hx)
    rw [List.filter_append, List.filter_eq_self.mpr hok]
  rw [hsplit, entriesOf, entriesOf, List.map_append, List.toFinset_append, ← Finset.union_assoc,
    eq_comm, Finset.union_eq_left, Finset.subset_iff]
  simp only [List.mem_toFinset, List.mem_map, List.mem_filter, decide_eq_true_eq]
  constructor
  · intro h x hx hok
    exact h ⟨x, ⟨hx, hok⟩, rfl⟩
  · rintro h _ ⟨x, ⟨hx, hok⟩, rfl⟩
    exact h x hx hok

/-- For every list of indexes, parallelism, outcomes of the statements and order of the threads:
both rebuilds throw when a statement failed; the standard one adds the indexes before the first
failure, the parallel one all whose statements succeeded, and so they leave the same catalogue
when no success behind the first failure is new to it. Both drops report the same names. -/
theorem rebuilds_compared (env : IndexEnv) (parallelism : ℕ) (indexes : List IndexInfo)
    (c : Catalogue)
    (hfollows : Follows env.answers env.runs (batchesFrom (max parallelism 1) indexes 0)) :
    Rebuilds (assigned env.answers indexes)
      ((assigned env.answers indexes).takeWhile fun x => x.2 = .ok) c
      (IndexStrategy.standard.rebuildIndexes env indexes c) ∧
    Rebuilds (assigned env.answers indexes)
      ((assigned env.answers indexes).filter fun x => x.2 = .ok) c
      ((IndexStrategy.ofParallelism parallelism).rebuildIndexes env indexes c) ∧
    ((IndexStrategy.standard.rebuildIndexes env indexes c).2 =
        ((IndexStrategy.ofParallelism parallelism).rebuildIndexes env indexes c).2 ↔
      ∀ x ∈ (assigned env.answers indexes).dropWhile fun x => x.2 = .ok, x.2 = .ok →
        x.1.entry ∈ (IndexStrategy.standard.rebuildIndexes env indexes c).2) ∧
    (IndexStrategy.standard.dropIndexes env indexes c).1.Perm
      ((IndexStrategy.ofParallelism parallelism).dropIndexes env indexes c).1 := by
  have hpos : 0 < max parallelism 1 := by omega
  have hstandard := rebuilds_standard env indexes c
  have hparallel := rebuilds_parallel env hpos c hfollows
  refine ⟨hstandard, hparallel, ?_, ?_⟩
  · rw [hstandard.catalogue]
    exact (Eq.congr_right hparallel.catalogue).trans rebuilt_alike_iff
  · rw [dropped_standard]
    exact (dropped_parallel env hpos c hfollows).symm

/-- Whatever the parallelism, the manager throws and reports by the outcomes of the statements. -/
theorem createIndexManager_by_outcomes (env : IndexEnv) (parallelism : ℕ)
    (indexes : List IndexInfo) (c : Catalogue)
    (hfollows : Follows env.answers env.runs (batchesFrom (max parallelism 1) indexes 0)) :
    ThrowsOnFailure (assigned env.answers indexes)
      ((createIndexManager indexes parallelism).rebuildAll env c).1 ∧
    ((createIndexManager indexes parallelism).dropAll env c).1.Perm
      ((assigned env.answers indexes).filterMap droppedName) := by
  have hpos : 0 < max parallelism 1 := by omega
  unfold IndexManager.rebuildAll IndexManager.dropAll createIndexManager
  dsimp only
  split
  · exact ⟨(rebuilds_parallel env hpos c hfollows).ends, dropped_parallel env hpos c hfollows⟩
  · exact ⟨(rebuilds_standard env indexes c).ends, .of_eq (dropped_standard env indexes c)⟩

/-- Threads that take effect and report in the order of the list. -/
def IndexEnv.inOrder (answers : ℕ → Outcome) (parallelism : ℕ) : IndexEnv where
  answers := answers
  runs n batch :=
    { executed := assigned (fun i => answers (i + n * parallelism)) batch
      reported := assigned (fun i => answers (i + n * parallelism)) batch
      perm := by
        generalize (fun i => answers (i + n * parallelism)) = answers'
        induction batch generalizing answers' with
        | nil => exact List.Perm.refl _
        | cons idx batch ih => exact (ih _).cons idx
      reported_perm := List.Perm.refl _ }

/-- Two indexes of one table. -/
def ownerAndMail : List IndexInfo :=
  [{ keyspace := "app", table := "users", indexName := "users_by_owner", columnName := "owner" },
    { keyspace := "app", table := "users", indexName := "users_by_mail", columnName := "mail" }]

/-- The first statement fails, the others succeed. -/
def firstFails (i : ℕ) : Outcome := if i = 0 then .syncError "timed out" else .ok

theorem follows_firstFails :
    Follows firstFails (IndexEnv.inOrder firstFails 2).runs
      (batchesFrom (max 2 1) ownerAndMail 0) := by
  rw [show batchesFrom (max 2 1) ownerAndMail 0 = [ownerAndMail] by decide +kernel]
  exact ⟨List.Perm.refl _, trivial⟩

/-- Two indexes, in one batch of the parallel strategy. -/
theorem rebuilds_compared_firstFails :
    Rebuilds (assigned firstFails ownerAndMail)
      ((assigned firstFails ownerAndMail).filter fun x => x.2 = .ok) ∅
      ((IndexStrategy.ofParallelism 2).rebuildIndexes (.inOrder firstFails 2) ownerAndMail ∅) :=
  (rebuilds_compared (.inOrder firstFails 2) 2 ownerAndMail ∅ follows_firstFails).2.1

/-- The second index is rebuilt by the parallel strategy only. -/
theorem first_failure_stops_standard :
    Follows firstFails (IndexEnv.inOrder firstFails 2).runs
      (batchesFrom (max 2 1) ownerAndMail 0) ∧
    ("app", "users_by_mail") ∉ (IndexStrategy.standard.rebuildIndexes
      (.inOrder firstFails 2) ownerAndMail ∅).2 ∧
    ("app", "users_by_mail") ∈ ((IndexStrategy.ofParallelism 2).rebuildIndexes
      (.inOrder firstFails 2) ownerAndMail ∅).2 := by
  refine ⟨follows_firstFails, ?_, ?_⟩
  · decide
  · decide +kernel

end SSTableLoader
end ScyllaClusterSync
