import ScyllaClusterSync.Svckit.FilterGovernor

/-!
# `services/sstable-loader/src/index_manager.cpp`

The catalogue of the cluster is a set of keyspaces and index names. A statement changes it
at once or fails without effect. How the statements end, and in which order those of a batch
of threads take effect, is decided by the environment.
-/

namespace ScyllaClusterSync
namespace SSTableLoader

open Svckit

structure IndexInfo where
  keyspace : String
  table : String
  indexName : String
  columnName : String
  indexType : String := "secondary"
deriving DecidableEq, Repr

/-! ## The statements -/

/-- The indexes that exist, by keyspace and name. -/
abbrev Catalogue := Finset (String × String)

inductive Ddl where
  | dropIndexIfExists (keyspace indexName : String)
  | createIndexIfNotExists (indexName keyspace table column : String)

namespace Ddl

def text : Ddl → String
  | .dropIndexIfExists keyspace indexName => "DROP INDEX IF EXISTS " ++ keyspace ++ "." ++ indexName
  | .createIndexIfNotExists indexName keyspace table column =>
    "CREATE INDEX IF NOT EXISTS " ++ indexName ++ " ON " ++ keyspace ++ "." ++ table ++
      " (" ++ column ++ ")"

def apply (c : Catalogue) : Ddl → Catalogue
  | .dropIndexIfExists keyspace indexName => c.erase (keyspace, indexName)
  | .createIndexIfNotExists indexName keyspace _ _ => insert (keyspace, indexName) c

/-- `execute` of the statement. -/
def execute (ddl : Ddl) (c : Catalogue) : Outcome → Catalogue
  | .ok => ddl.apply c
  | .syncError _ => c

end Ddl

namespace IndexInfo

/-- The entry of the catalogue for the index. -/
def entry (idx : IndexInfo) : String × String := (idx.keyspace, idx.indexName)

def drop (idx : IndexInfo) : Ddl := .dropIndexIfExists idx.keyspace idx.indexName

def create (idx : IndexInfo) : Ddl :=
  .createIndexIfNotExists idx.indexName idx.keyspace idx.table idx.columnName

end IndexInfo

/-! ## The environment -/

/-- A batch of threads: its statements in the order in which they take effect, with their
outcomes, and in the order in which the threads report them. -/
structure BatchRun (batch : List IndexInfo) where
  executed : List (IndexInfo × Outcome)
  reported : List (IndexInfo × Outcome)
  perm : (executed.map Prod.fst).Perm batch
  reported_perm : reported.Perm executed

/-- What becomes of the statements of one call: of the `i`-th one when they come one by one,
and of the `n`-th batch otherwise. -/
structure IndexEnv where
  answers : ℕ → Outcome
  runs : ℕ → (batch : List IndexInfo) → BatchRun batch

def executeAll (statement : IndexInfo → Ddl) (executed : List (IndexInfo × Outcome))
    (c : Catalogue) : Catalogue :=
  executed.foldl (fun c x => (statement x.1).execute c x.2) c

namespace BatchRun

variable {batch : List IndexInfo} (run : BatchRun batch)

/-- The names of the statements that succeeded, in the order of the reports. -/
def succeeded : List String :=
  run.reported.filterMap fun x => if x.2 = .ok then some x.1.indexName else none

/-- The names of those that failed. -/
def failed : List String :=
  run.reported.filterMap fun x => if x.2 = .ok then none else some x.1.indexName

end BatchRun

/-- Every statement succeeds, in the order of the list. -/
def IndexEnv.succeeding : IndexEnv where
  answers _ := .ok
  runs _ batch :=
    { executed := batch.map fun idx => (idx, .ok)
      reported := batch.map fun idx => (idx, .ok)
      perm := by
        rw [List.map_map]
        exact List.Perm.of_eq (List.map_id batch)
      reported_perm := List.Perm.refl _ }

/-! ## `StandardIndexStrategy` -/

/-- `drop_indexes`, one statement after the other. A failure is skipped. -/
def dropOneByOne (answers : ℕ → Outcome) : List IndexInfo → Catalogue → List String × Catalogue
  | [], c => ([], c)
  | idx :: indexes, c =>
    match answers 0 with
    | .ok =>
      let (dropped, c) := dropOneByOne (fun i => answers (i + 1)) indexes (idx.drop.apply c)
      (idx.indexName :: dropped, c)
    | .syncError _ => dropOneByOne (fun i => answers (i + 1)) indexes c

/-- `rebuild_indexes`, one statement after the other. The first failure is thrown. -/
def rebuildOneByOne (answers : ℕ → Outcome) :
    List IndexInfo → Catalogue → Except String Unit × Catalogue
  | [], c => (.ok (), c)
  | idx :: indexes, c =>
    match answers 0 with
    | .ok => rebuildOneByOne (fun i => answers (i + 1)) indexes (idx.create.apply c)
    | .syncError e =>
      (.error ("[DatabaseError] Failed to rebuild index " ++ idx.indexName ++ ": " ++ e), c)

/-! ## `ParallelIndexStrategy` -/

/-- The batches of the loop from `start` on. An index is no larger than the length of a
vector plus `parallelism`, which does not wrap. -/
def batchesFrom (parallelism : ℕ) (indexes : List IndexInfo) (start : ℕ) :
    List (List IndexInfo) :=
  if start < indexes.length ∧ 0 < parallelism then
    (indexes.take (min (start + parallelism) indexes.length)).drop start ::
      batchesFrom parallelism indexes (start + parallelism)
  else []
termination_by indexes.length - start

/-- The loop of `drop_indexes` over its batches. -/
def dropBatches (runs : ℕ → (batch : List IndexInfo) → BatchRun batch) :
    List (List IndexInfo) → Catalogue → List String × Catalogue
  | [], c => ([], c)
  | batch :: batches, c =>
    let run := runs 0 batch
    let (dropped, c) := dropBatches (fun n => runs (n + 1)) batches
      (executeAll IndexInfo.drop run.executed c)
    (run.succeeded ++ dropped, c)

/-- The loop of `rebuild_indexes` over its batches, with the failures it collects. -/
def rebuildBatches (runs : ℕ → (batch : List IndexInfo) → BatchRun batch) :
    List (List IndexInfo) → Catalogue → List String × Catalogue
  | [], c => ([], c)
  | batch :: batches, c =>
    let run := runs 0 batch
    let (failures, c) := rebuildBatches (fun n => runs (n + 1)) batches
      (executeAll IndexInfo.create run.executed c)
    (run.failed ++ failures, c)

/-! ## The strategies -/

/-- The implementations of `IndexStrategy`. -/
inductive IndexStrategy where
  | standard
  | parallel (parallelism : ℕ) (pos : 0 < parallelism)

namespace IndexStrategy

/-- The constructor of `ParallelIndexStrategy`. -/
def ofParallelism (parallelism : ℕ) : IndexStrategy :=
  .parallel (max parallelism 1) (Nat.lt_of_lt_of_le Nat.zero_lt_one (Nat.le_max_right _ _))

def dropIndexes (strategy : IndexStrategy) (env : IndexEnv) (indexes : List IndexInfo)
    (c : Catalogue) : List String × Catalogue :=
  match strategy with
  | .standard => dropOneByOne env.answers indexes c
  | .parallel parallelism _ => dropBatches env.runs (batchesFrom parallelism indexes 0) c

def rebuildIndexes (strategy : IndexStrategy) (env : IndexEnv) (indexes : List IndexInfo)
    (c : Catalogue) : Except String Unit × Catalogue :=
  match strategy with
  | .standard => rebuildOneByOne env.answers indexes c
  | .parallel parallelism _ =>
    match rebuildBatches env.runs (batchesFrom parallelism indexes 0) c with
    | ([], c) => (.ok (), c)
    | (failures, c) =>
      (.error ("[DatabaseError] Failed to rebuild " ++ toString failures.length ++ " indexes"), c)

end IndexStrategy

/-! ## `IndexManager` -/

structure IndexManager where
  strategy : IndexStrategy
  indexes : List IndexInfo

/-- `create_index_manager`. -/
def createIndexManager (indexes : List IndexInfo) (parallelism : ℕ) : IndexManager where
  strategy := if parallelism > 1 then .ofParallelism parallelism else .standard
  indexes := indexes

namespace IndexManager

variable (m : IndexManager) (env : IndexEnv)

/-- The filtered copy of the list that the functions for one keyspace act on. -/
def filtered (keyspace : String) : List IndexInfo :=
  m.indexes.filter fun idx => idx.keyspace = keyspace

def dropAll (c : Catalogue) : List String × Catalogue :=
  m.strategy.dropIndexes env m.indexes c

def rebuildAll (c : Catalogue) : Except String Unit × Catalogue :=
  m.strategy.rebuildIndexes env m.indexes c

def dropKeyspace (keyspace : String) (c : Catalogue) : List String × Catalogue :=
  m.strategy.dropIndexes env (m.filtered keyspace) c

def rebuildKeyspace (keyspace : String) (c : Catalogue) : Except String Unit × Catalogue :=
  m.strategy.rebuildIndexes env (m.filtered keyspace) c

end IndexManager

end SSTableLoader
end ScyllaClusterSync
