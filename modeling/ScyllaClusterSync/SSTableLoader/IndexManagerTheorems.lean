import ScyllaClusterSync.SSTableLoader.IndexManager
import ScyllaClusterSync.Svckit.Database

/-!
# Dropping and rebuilding the indexes

Whatever the strategy, a call amounts to some statements about the indexes it was given, in
some order (`dropIndexes_executes`, `rebuildIndexes_executes`), and a rebuild that returns has
executed one with success for each of them. A statement about an index leaves every other
entry of the catalogue alone.
-/

namespace ScyllaClusterSync
namespace SSTableLoader

open Svckit

/-! ## Statements in a row -/

/-- The statement is about the entry of its index alone. -/
def AboutOwnEntry (statement : IndexInfo → Ddl) : Prop :=
  ∀ idx c e, e ≠ idx.entry → (e ∈ (statement idx).apply c ↔ e ∈ c)

theorem aboutOwnEntry_drop : AboutOwnEntry IndexInfo.drop := by
  intro idx c e hne
  show e ∈ c.erase idx.entry ↔ e ∈ c
  rw [Finset.mem_erase]
  exact and_iff_right hne

theorem aboutOwnEntry_create : AboutOwnEntry IndexInfo.create := by
  intro idx c e hne
  show e ∈ insert idx.entry c ↔ e ∈ c
  rw [Finset.mem_insert]
  exact or_iff_right hne

variable {statement : IndexInfo → Ddl} {executed : List (IndexInfo × Outcome)} {c : Catalogue}
  {e : String × String}

theorem executeAll_append (statement : IndexInfo → Ddl)
    (executed executed' : List (IndexInfo × Outcome)) (c : Catalogue) :
    executeAll statement (executed ++ executed') c =
      executeAll statement executed' (executeAll statement executed c) :=
  List.foldl_append

/-- Other entries stay as they were. -/
theorem mem_executeAll_of_ne (hown : AboutOwnEntry statement)
    (he : ∀ x ∈ executed, e ≠ x.1.entry) : e ∈ executeAll statement executed c ↔ e ∈ c := by
  induction executed generalizing c with
  | nil => rfl
  | cons x executed ih =>
    have hrest := ih (c := (statement x.1).execute c x.2) fun y hy =>
      he y (List.mem_cons_of_mem x hy)
    apply hrest.trans
    cases x.2 with
    | ok => exact hown x.1 c e (he x List.mem_cons_self)
    | syncError w => rfl

/-- What is there after some CREATEs: what was there, and what they created with success. -/
theorem mem_executeAll_create :
    e ∈ executeAll IndexInfo.create executed c ↔
      e ∈ c ∨ ∃ x ∈ executed, x.2 = .ok ∧ x.1.entry = e := by
  induction executed generalizing c with
  | nil => simp [executeAll]
  | cons x executed ih =>
    have hhead : e ∈ (IndexInfo.create x.1).execute c x.2 ↔ e ∈ c ∨ x.2 = .ok ∧ x.1.entry = e := by
      cases x.2 with
      | ok =>
        show e ∈ insert x.1.entry c ↔ _
        rw [Finset.mem_insert, or_comm, eq_comm]
        simp
      | syncError w => simp [Ddl.execute]
    have hrest := ih (c := (IndexInfo.create x.1).execute c x.2)
    simp only [List.mem_cons, exists_eq_or_imp, ← or_assoc, ← hhead]
    exact hrest

/-- What has been created with success is there at the end. -/
theorem entry_mem_executeAll_create {idx : IndexInfo} (h : (idx, .ok) ∈ executed) :
    idx.entry ∈ executeAll IndexInfo.create executed c :=
  mem_executeAll_create.mpr (Or.inr ⟨_, h, rfl, rfl⟩)

/-- What is there after some DROPs: what was there and none of them dropped. -/
theorem mem_executeAll_drop :
    e ∈ executeAll IndexInfo.drop executed c ↔
      e ∈ c ∧ ∀ x ∈ executed, x.2 = .ok → x.1.entry ≠ e := by
  induction executed generalizing c with
  | nil => simp [executeAll]
  | cons x executed ih =>
    have hhead : e ∈ (IndexInfo.drop x.1).execute c x.2 ↔
        e ∈ c ∧ (x.2 = .ok → x.1.entry ≠ e) := by
      cases x.2 with
      | ok =>
        show e ∈ c.erase x.1.entry ↔ _
        rw [Finset.mem_erase, and_comm, ne_comm]
        simp
      | syncError w => simp [Ddl.execute]
    have hrest := ih (c := (IndexInfo.drop x.1).execute c x.2)
    simp only [List.forall_mem_cons, ← and_assoc, ← hhead]
    exact hrest

/-! ## What a call executes -/

/-- The outcome of each statement, by the position of its index in the list. -/
def assigned (answers : ℕ → Outcome) : List IndexInfo → List (IndexInfo × Outcome)
  | [] => []
  | idx :: indexes => (idx, answers 0) :: assigned (fun i => answers (i + 1)) indexes

theorem map_fst_assigned (answers : ℕ → Outcome) (indexes : List IndexInfo) :
    (assigned answers indexes).map Prod.fst = indexes := by
  induction indexes generalizing answers with
  | nil => rfl
  | cons idx indexes ih => exact congrArg (idx :: ·) (ih _)

/-- The statements of some batches: each executes its own in an order of its own, and then come
those of the next one. -/
def executedIn (runs : ℕ → (batch : List IndexInfo) → BatchRun batch) :
    List (List IndexInfo) → List (IndexInfo × Outcome)
  | [] => []
  | batch :: batches => (runs 0 batch).executed ++ executedIn (fun n => runs (n + 1)) batches

variable {answers : ℕ → Outcome} {runs : ℕ → (batch : List IndexInfo) → BatchRun batch}
  {outcomes : List (IndexInfo × Outcome)} {indexes : List IndexInfo}

theorem map_fst_executedIn (runs : ℕ → (batch : List IndexInfo) → BatchRun batch)
    (batches : List (List IndexInfo)) :
    ((executedIn runs batches).map Prod.fst).Perm batches.flatten := by
  induction batches generalizing runs with
  | nil => exact List.Perm.refl _
  | cons batch batches ih =>
    rw [executedIn, List.map_append, List.flatten_cons]
    exact (runs 0 batch).perm.append (ih _)

/-- The batches from `start` on are what is left of the list. -/
theorem flatten_batchesFrom {parallelism : ℕ} (hpos : 0 < parallelism) (indexes : List IndexInfo)
    (start : ℕ) : (batchesFrom parallelism indexes start).flatten = indexes.drop start := by
  induction start using batchesFrom.induct parallelism indexes with
  | case1 start hstart ih =>
    rw [batchesFrom, if_pos hstart, List.flatten_cons, ih, List.drop_take]
    rcases Nat.le_total (start + parallelism) indexes.length with hle | hle
    · rw [Nat.min_eq_left hle, Nat.add_sub_cancel_left, ← List.drop_drop, List.take_append_drop]
    · rw [Nat.min_eq_right hle, List.drop_eq_nil_of_le hle, List.append_nil, ← List.length_drop,
        List.take_length]
  | case2 start hstart =>
    rw [batchesFrom, if_neg hstart, List.flatten_nil, List.drop_eq_nil_of_le]
    omega

theorem flatten_batches {parallelism : ℕ} (hpos : 0 < parallelism) (indexes : List IndexInfo) :
    (batchesFrom parallelism indexes 0).flatten = indexes := by
  rw [flatten_batchesFrom hpos, List.drop_zero]

/-- The catalogue after some statements about these indexes. -/
def Executes (statement : IndexInfo → Ddl) (indexes : List IndexInfo) (c c' : Catalogue)
    (executed : List (IndexInfo × Outcome)) : Prop :=
  (∀ x ∈ executed, x.1 ∈ indexes) ∧ c' = executeAll statement executed c

/-- Statements for indexes of the list, in whatever order. -/
theorem fst_mem_of_perm (hperm : (executed.map Prod.fst).Perm indexes) :
    ∀ x ∈ executed, x.1 ∈ indexes :=
  fun _ hx => hperm.subset (List.mem_map_of_mem hx)

/-- When they all succeed, the statement of every index of the list is among them. -/
theorem ok_mem_of_perm (hperm : (executed.map Prod.fst).Perm indexes)
    (hok : ∀ x ∈ executed, x.2 = .ok) : ∀ idx ∈ indexes, (idx, .ok) ∈ executed := by
  intro idx hidx
  obtain ⟨x, hx, rfl⟩ := List.mem_map.mp (hperm.symm.subset hidx)
  rw [← hok x hx]
  exact hx

/-! ## Dropping -/

/-- What `drop_indexes` reports of a statement. -/
def droppedName (x : IndexInfo × Outcome) : Option String :=
  if x.2 = .ok then some x.1.indexName else none

theorem dropOneByOne_eq (answers : ℕ → Outcome) (indexes : List IndexInfo) (c : Catalogue) :
    dropOneByOne answers indexes c =
      ((assigned answers indexes).filterMap droppedName,
        executeAll IndexInfo.drop (assigned answers indexes) c) := by
  induction indexes generalizing answers c with
  | nil => rfl
  | cons idx indexes ih =>
    rw [assigned, dropOneByOne, List.filterMap_cons]
    cases answers 0 with
    | ok =>
      dsimp only
      rw [ih]
      rfl
    | syncError w => exact ih _ c

theorem dropBatches_snd (runs : ℕ → (batch : List IndexInfo) → BatchRun batch)
    (batches : List (List IndexInfo)) (c : Catalogue) :
    (dropBatches runs batches c).2 = executeAll IndexInfo.drop (executedIn runs batches) c := by
  induction batches generalizing runs c with
  | nil => rfl
  | cons batch batches ih =>
    rw [executedIn, executeAll_append]
    exact ih _ _

/-- The names are those of the successes, in the order of the reports. -/
theorem dropBatches_fst (runs : ℕ → (batch : List IndexInfo) → BatchRun batch)
    (batches : List (List IndexInfo)) (c : Catalogue) :
    (dropBatches runs batches c).1.Perm ((executedIn runs batches).filterMap droppedName) := by
  induction batches generalizing runs c with
  | nil => exact List.Perm.refl _
  | cons batch batches ih =>
    rw [executedIn, List.filterMap_append]
    exact ((runs 0 batch).reported_perm.filterMap droppedName).append (ih _ _)

/-- `drop_indexes` of either strategy. -/
theorem dropIndexes_executes (strategy : IndexStrategy) (env : IndexEnv)
    (indexes : List IndexInfo) (c : Catalogue) :
    ∃ executed,
      Executes IndexInfo.drop indexes c (strategy.dropIndexes env indexes c).2 executed ∧
      (strategy.dropIndexes env indexes c).1.Perm (executed.filterMap droppedName) := by
  cases strategy with
  | standard =>
    have heq := dropOneByOne_eq env.answers indexes c
    have hperm := List.Perm.of_eq (map_fst_assigned env.answers indexes)
    exact ⟨_, ⟨fst_mem_of_perm hperm, congrArg Prod.snd heq⟩, .of_eq (congrArg Prod.fst heq)⟩
  | parallel parallelism pos =>
    have hperm := map_fst_executedIn env.runs (batchesFrom parallelism indexes 0)
    rw [flatten_batches pos] at hperm
    exact ⟨_, ⟨fst_mem_of_perm hperm, dropBatches_snd env.runs _ c⟩, dropBatches_fst env.runs _ c⟩

/-- A name that is reported is that of an index which is gone. -/
theorem entry_not_mem_of_dropped {strategy : IndexStrategy} {env : IndexEnv} {name : String}
    (hname : name ∈ (strategy.dropIndexes env indexes c).1) :
    ∃ idx ∈ indexes, idx.indexName = name ∧
      idx.entry ∉ (strategy.dropIndexes env indexes c).2 := by
  obtain ⟨executed, ⟨habout, hdrop⟩, hnames⟩ := dropIndexes_executes strategy env indexes c
  obtain ⟨x, hx, hdropped⟩ := List.mem_filterMap.mp (hnames.subset hname)
  have hok : x.2 = .ok := by
    by_contra hfailed
    simp [droppedName, hfailed] at hdropped
  refine ⟨x.1, habout x hx, ?_, fun hmem => ?_⟩
  · simpa [droppedName, hok] using hdropped
  · rw [hdrop] at hmem
    exact (mem_executeAll_drop.mp hmem).2 x hx hok rfl

/-! ## How a rebuild ends -/

/-- It throws a `DatabaseError` when a statement failed, and returns otherwise. -/
structure ThrowsOnFailure (outcomes : List (IndexInfo × Outcome)) (r : Except String Unit) :
    Prop where
  throws : (∃ msg, r = .error (databaseError msg)) ↔ ∃ x ∈ outcomes, x.2 ≠ .ok
  returns : r = .ok () ↔ ∀ x ∈ outcomes, x.2 = .ok

theorem throwsOnFailure_ok (hok : ∀ x ∈ outcomes, x.2 = .ok) :
    ThrowsOnFailure outcomes (.ok ()) := by
  refine ⟨iff_of_false (by simp) ?_, iff_of_true rfl hok⟩
  rintro ⟨x, hx, hfailed⟩
  exact hfailed (hok x hx)

theorem throwsOnFailure_error (hfailed : ∃ x ∈ outcomes, x.2 ≠ .ok) (msg : String) :
    ThrowsOnFailure outcomes (.error (databaseError msg)) := by
  refine ⟨iff_of_true ⟨msg, rfl⟩ hfailed, iff_of_false (by simp) fun hok => ?_⟩
  obtain ⟨x, hx, hfailed⟩ := hfailed
  exact hfailed (hok x hx)

/-- A statement before the others that succeeds makes no difference. -/
theorem ThrowsOnFailure.cons {r : Except String Unit} {idx : IndexInfo}
    (h : ThrowsOnFailure outcomes r) : ThrowsOnFailure ((idx, .ok) :: outcomes) r := by
  constructor
  · simpa using h.throws
  · simpa using h.returns

theorem rebuildOneByOne_throwsOnFailure (answers : ℕ → Outcome) (indexes : List IndexInfo)
    (c : Catalogue) :
    ThrowsOnFailure (assigned answers indexes) (rebuildOneByOne answers indexes c).1 := by
  induction indexes generalizing answers c with
  | nil => exact throwsOnFailure_ok fun x hx => absurd hx List.not_mem_nil
  | cons idx indexes ih =>
    rw [assigned, rebuildOneByOne]
    cases answers 0 with
    | ok => exact (ih (fun i => answers (i + 1)) (idx.create.apply c)).cons
    | syncError e =>
      have hfailed : ∃ x ∈ (idx, .syncError e) :: assigned (fun i => answers (i + 1)) indexes,
          x.2 ≠ .ok := ⟨_, List.mem_cons_self, by simp⟩
      have hthrows := throwsOnFailure_error hfailed
        ("Failed to rebuild index " ++ idx.indexName ++ ": " ++ e)
      simp only [databaseError, ← String.append_assoc] at hthrows
      exact hthrows

/-- No thread reports a failure when none fails. -/
theorem BatchRun.failed_eq_nil_iff {batch : List IndexInfo} (run : BatchRun batch) :
    run.failed = [] ↔ ∀ x ∈ run.executed, x.2 = .ok := by
  rw [BatchRun.failed, List.filterMap_eq_nil_iff]
  simp only [run.reported_perm.mem_iff, ite_eq_left_iff, reduceCtorEq, imp_false, not_not]

theorem rebuildBatches_fst_eq_nil_iff {batches : List (List IndexInfo)} :
    (rebuildBatches runs batches c).1 = [] ↔ ∀ x ∈ executedIn runs batches, x.2 = .ok := by
  induction batches generalizing runs c with
  | nil => simp [rebuildBatches, executedIn]
  | cons batch batches ih =>
    rw [executedIn, List.forall_mem_append, ← BatchRun.failed_eq_nil_iff, ← ih]
    exact List.append_eq_nil_iff

/-- The failures that were collected decide. -/
theorem rebuildIndexes_parallel_throwsOnFailure (env : IndexEnv) {parallelism : ℕ}
    (pos : 0 < parallelism) (indexes : List IndexInfo) (c : Catalogue) :
    ThrowsOnFailure (executedIn env.runs (batchesFrom parallelism indexes 0))
      ((IndexStrategy.parallel parallelism pos).rebuildIndexes env indexes c).1 := by
  have hfailures := @rebuildBatches_fst_eq_nil_iff c env.runs (batchesFrom parallelism indexes 0)
  unfold IndexStrategy.rebuildIndexes
  dsimp only
  rcases hresult : rebuildBatches env.runs (batchesFrom parallelism indexes 0) c with
    ⟨failures, c'⟩
  rw [hresult] at hfailures
  cases failures with
  | nil => exact throwsOnFailure_ok (hfailures.mp rfl)
  | cons name failures =>
    have hfailed : ∃ x ∈ executedIn env.runs (batchesFrom parallelism indexes 0), x.2 ≠ .ok := by
      by_contra hnone
      push Not at hnone
      exact List.cons_ne_nil name failures (hfailures.mpr hnone)
    have hthrows := throwsOnFailure_error hfailed
      ("Failed to rebuild " ++ toString (name :: failures).length ++ " indexes")
    simp only [databaseError, ← String.append_assoc] at hthrows
    exact hthrows

/-! ## What a rebuild creates -/

/-- A statement before the first failure succeeds. -/
theorem ok_of_mem_takeWhile {x : IndexInfo × Outcome}
    (hx : x ∈ outcomes.takeWhile fun x => x.2 = .ok) : x.2 = .ok := by
  have hdecide := @List.mem_takeWhile_imp _ (fun x : IndexInfo × Outcome => x.2 = .ok) _ _ hx
  exact of_decide_eq_true hdecide

/-- The statements before the first failure are executed one after the other. -/
theorem rebuildOneByOne_snd (answers : ℕ → Outcome) (indexes : List IndexInfo) (c : Catalogue) :
    (rebuildOneByOne answers indexes c).2 = executeAll IndexInfo.create
      ((assigned answers indexes).takeWhile fun x => x.2 = .ok) c := by
  induction indexes generalizing answers c with
  | nil => rfl
  | cons idx indexes ih =>
    rw [assigned, rebuildOneByOne]
    cases answers 0 with
    | ok => exact ih (fun i => answers (i + 1)) (idx.create.apply c)
    | syncError e => rfl

theorem rebuildBatches_snd (runs : ℕ → (batch : List IndexInfo) → BatchRun batch)
    (batches : List (List IndexInfo)) (c : Catalogue) :
    (rebuildBatches runs batches c).2 =
      executeAll IndexInfo.create (executedIn runs batches) c := by
  induction batches generalizing runs c with
  | nil => rfl
  | cons batch batches ih =>
    rw [executedIn, executeAll_append]
    exact ih _ _

theorem rebuildIndexes_parallel_snd (env : IndexEnv) {parallelism : ℕ} (pos : 0 < parallelism)
    (indexes : List IndexInfo) (c : Catalogue) :
    ((IndexStrategy.parallel parallelism pos).rebuildIndexes env indexes c).2 =
      executeAll IndexInfo.create (executedIn env.runs (batchesFrom parallelism indexes 0)) c := by
  rw [← rebuildBatches_snd]
  unfold IndexStrategy.rebuildIndexes
  dsimp only
  rcases rebuildBatches env.runs (batchesFrom parallelism indexes 0) c with ⟨failures, c'⟩
  cases failures <;> rfl

/-- `rebuild_indexes` of either strategy. -/
theorem rebuildIndexes_executes (strategy : IndexStrategy) (env : IndexEnv)
    (indexes : List IndexInfo) (c : Catalogue) :
    ∃ executed, Executes IndexInfo.create indexes c (strategy.rebuildIndexes env indexes c).2
        executed ∧
      ((strategy.rebuildIndexes env indexes c).1 = .ok () →
        ∀ idx ∈ indexes, (idx, .ok) ∈ executed) := by
  cases strategy with
  | standard =>
    have hperm := List.Perm.of_eq (map_fst_assigned env.answers indexes)
    refine ⟨_, ⟨fun x hx => ?_, rebuildOneByOne_snd env.answers indexes c⟩, fun hreturns => ?_⟩
    · exact fst_mem_of_perm hperm x (List.takeWhile_subset _ hx)
    · -- a rebuild that returns has not met a failure
      have hok := (rebuildOneByOne_throwsOnFailure env.answers indexes c).returns.mp hreturns
      rw [List.takeWhile_eq_self_iff.mpr fun x hx => decide_eq_true (hok x hx)]
      exact ok_mem_of_perm hperm hok
  | parallel parallelism pos =>
    have hperm := map_fst_executedIn env.runs (batchesFrom parallelism indexes 0)
    rw [flatten_batches pos] at hperm
    refine ⟨_, ⟨fst_mem_of_perm hperm, rebuildIndexes_parallel_snd env pos indexes c⟩, ?_⟩
    intro hreturns
    exact ok_mem_of_perm hperm
      ((rebuildIndexes_parallel_throwsOnFailure env pos indexes c).returns.mp hreturns)

/-! ## The result -/

/-- Dropping and then rebuilding the same indexes: they are there at the end, and every
other entry is as before. -/
theorem drop_then_rebuild {strategy : IndexStrategy} {dropEnv rebuildEnv : IndexEnv}
    {indexes : List IndexInfo} {c : Catalogue}
    (hreturns : (strategy.rebuildIndexes rebuildEnv indexes
      (strategy.dropIndexes dropEnv indexes c).2).1 = .ok ()) :
    (∀ idx ∈ indexes, idx.entry ∈ (strategy.rebuildIndexes rebuildEnv indexes
      (strategy.dropIndexes dropEnv indexes c).2).2) ∧
    ∀ e, (∀ idx ∈ indexes, e ≠ idx.entry) → (e ∈ (strategy.rebuildIndexes rebuildEnv indexes
      (strategy.dropIndexes dropEnv indexes c).2).2 ↔ e ∈ c) := by
  obtain ⟨dropped, ⟨hdropped, hdrop⟩, _⟩ := dropIndexes_executes strategy dropEnv indexes c
  obtain ⟨rebuilt, ⟨hrebuilt, hrebuild⟩, hok⟩ := rebuildIndexes_executes strategy rebuildEnv indexes
    (strategy.dropIndexes dropEnv indexes c).2
  constructor
  · intro idx hidx
    rw [hrebuild]
    exact entry_mem_executeAll_create (hok hreturns idx hidx)
  · intro e he
    -- neither the CREATEs nor the DROPs are about this entry
    rw [hrebuild, mem_executeAll_of_ne aboutOwnEntry_create fun x hx => he x.1 (hrebuilt x hx),
      hdrop, mem_executeAll_of_ne aboutOwnEntry_drop fun x hx => he x.1 (hdropped x hx)]

/-- For every list of indexes, either strategy and whatever becomes of the statements: after
`drop_all` and a `rebuild_all` that returns, every configured index is in the catalogue and
every other entry is as before; and so for one keyspace. -/
theorem drop_rebuild_restores (m : IndexManager) (dropEnv rebuildEnv : IndexEnv) (c : Catalogue) :
    (∀ c', m.rebuildAll rebuildEnv (m.dropAll dropEnv c).2 = (.ok (), c') →
      (∀ idx ∈ m.indexes, idx.entry ∈ c') ∧
        ∀ e, (∀ idx ∈ m.indexes, e ≠ idx.entry) → (e ∈ c' ↔ e ∈ c)) ∧
    ∀ keyspace c',
      m.rebuildKeyspace rebuildEnv keyspace (m.dropKeyspace dropEnv keyspace c).2 = (.ok (), c') →
        (∀ idx ∈ m.indexes, idx.keyspace = keyspace → idx.entry ∈ c') ∧
          ∀ e, (∀ idx ∈ m.indexes, e ≠ idx.entry) ∨ e.1 ≠ keyspace → (e ∈ c' ↔ e ∈ c) := by
  constructor
  · intro c' hreturns
    have hboth := drop_then_rebuild (congrArg Prod.fst hreturns)
    rw [show (m.strategy.rebuildIndexes rebuildEnv m.indexes
      (m.strategy.dropIndexes dropEnv m.indexes c).2).2 = c' from congrArg Prod.snd hreturns] at hboth
    exact hboth
  · intro keyspace c' hreturns
    have hboth := drop_then_rebuild (congrArg Prod.fst hreturns)
    rw [show (m.strategy.rebuildIndexes rebuildEnv (m.filtered keyspace)
      (m.strategy.dropIndexes dropEnv (m.filtered keyspace) c).2).2 = c' from
      congrArg Prod.snd hreturns] at hboth
    constructor
    · intro idx hidx hkeyspace
      exact hboth.1 idx (List.mem_filter.mpr ⟨hidx, decide_eq_true hkeyspace⟩)
    · intro e he
      refine hboth.2 e fun idx hidx => ?_
      obtain ⟨hmem, hkeyspace⟩ := List.mem_filter.mp hidx
      rcases he with hother | hother
      · exact hother idx hmem
      · rintro rfl
        exact hother (of_decide_eq_true hkeyspace)

/-- One index is dropped and rebuilt beside another one. -/
theorem drop_rebuild_restores_oneIndex :
    (("app", "files_by_owner") ∈ (insert ("app", "files_by_owner")
      (({("app", "files_by_owner"), ("app", "users_by_mail")} : Catalogue).erase
        ("app", "files_by_owner")) : Catalogue)) ∧
    (("app", "users_by_mail") ∈ (insert ("app", "files_by_owner")
      (({("app", "files_by_owner"), ("app", "users_by_mail")} : Catalogue).erase
        ("app", "files_by_owner")) : Catalogue) ↔
      ("app", "users_by_mail") ∈
        ({("app", "files_by_owner"), ("app", "users_by_mail")} : Catalogue)) := by
  have hboth := (drop_rebuild_restores
    { strategy := .standard
      indexes := [{ keyspace := "app", table := "files", indexName := "files_by_owner"
                    columnName := "owner" }] }
    .succeeding .succeeding {("app", "files_by_owner"), ("app", "users_by_mail")}).1 _ rfl
  refine ⟨hboth.1 _ List.mem_cons_self, hboth.2 _ fun idx hidx => ?_⟩
  rw [List.mem_singleton.mp hidx]
  decide

end SSTableLoader
end ScyllaClusterSync
