import ScyllaClusterSync.SSTableLoader.Filter
import ScyllaClusterSync.SSTableLoader.TokenRange

/-!
# `services/sstable-loader/src/loader.cpp`: `migrate_table`

The fields of `SSTableLoader` that its functions share, and `migrate_table` cut into its
atomic steps: one load of `is_running_` or `is_paused_`, one query on the source, the
start of one worker thread, or one worker's `process_range_sync`. The workers of a batch
run in any order, also while the batch is still being started, and are joined before the
next batch.

Every `SyncError` is caught where it is thrown: in `discover_partition_keys`, in
`calculate_ranges` and in the worker. What leaves `migrate_table` is the
`std::system_error` of a worker that cannot be started, once the workers already started
are joined.
-/

namespace ScyllaClusterSync
namespace SSTableLoader

open Svckit

/-! ## Configuration -/

structure TableConfig where
  name : String
  /-- Empty: to be discovered. -/
  partitionKey : List String := []
deriving DecidableEq, Repr

/-- `LoaderConfig`, the fields the migration reads. -/
structure LoaderConfig where
  tables : List TableConfig := []
  numRangesPerCore : UInt32 := 4
  maxConcurrentLoaders : UInt32 := 32
  enablePagination : Bool := false
deriving DecidableEq, Repr

/-- One table; a node alone gives it eight ranges. -/
def oneTable : LoaderConfig where
  tables := [{ name := "app.files" }]
  numRangesPerCore := 1

/-! ## The shared fields -/

/-- The names of the atomic counters. -/
inductive Counter where
  | totalRows
  | migratedRows
  | failedRows
  | filteredRows
  | tablesCompleted
  | tablesTotal
  | tablesSkipped
  | skippedRanges
deriving DecidableEq, Repr

structure Counters where
  totalRows : ℕ := 0
  migratedRows : ℕ := 0
  failedRows : ℕ := 0
  filteredRows : ℕ := 0
  tablesCompleted : ℕ := 0
  tablesTotal : ℕ := 0
  tablesSkipped : ℕ := 0
  skippedRanges : ℕ := 0
deriving DecidableEq, Repr

namespace Counters

def get (s : Counters) : Counter → ℕ
  | .totalRows => s.totalRows
  | .migratedRows => s.migratedRows
  | .failedRows => s.failedRows
  | .filteredRows => s.filteredRows
  | .tablesCompleted => s.tablesCompleted
  | .tablesTotal => s.tablesTotal
  | .tablesSkipped => s.tablesSkipped
  | .skippedRanges => s.skippedRanges

def set (s : Counters) (v : ℕ) : Counter → Counters
  | .totalRows => { s with totalRows := v }
  | .migratedRows => { s with migratedRows := v }
  | .failedRows => { s with failedRows := v }
  | .filteredRows => { s with filteredRows := v }
  | .tablesCompleted => { s with tablesCompleted := v }
  | .tablesTotal => { s with tablesTotal := v }
  | .tablesSkipped => { s with tablesSkipped := v }
  | .skippedRanges => { s with skippedRanges := v }

theorem get_set (s : Counters) (v : ℕ) (c d : Counter) :
    (s.set v c).get d = if d = c then v else s.get d := by
  cases c <;> cases d <;> rfl

end Counters

/-- `SSTableLoader`: its atomics and its governor (`none` is a null `filter_`). -/
structure Loader where
  counters : Counters := {}
  isRunning : Bool := false
  isPaused : Bool := false
  filter : Option SSTableBlacklistGovernor
deriving DecidableEq

namespace Loader

/-- `store` on a counter. -/
def store (m : Loader) (c : Counter) (v : ℕ) : Loader := { m with counters := m.counters.set v c }

/-- `fetch_add(1)` on a counter. -/
def fetchAdd (m : Loader) (c : Counter) : Loader := m.store c (m.counters.get c + 1)

@[simp] theorem isRunning_store (m : Loader) (c : Counter) (v : ℕ) :
    (m.store c v).isRunning = m.isRunning := rfl

@[simp] theorem filter_store (m : Loader) (c : Counter) (v : ℕ) :
    (m.store c v).filter = m.filter := rfl

@[simp] theorem isRunning_fetchAdd (m : Loader) (c : Counter) :
    (m.fetchAdd c).isRunning = m.isRunning := rfl

@[simp] theorem filter_fetchAdd (m : Loader) (c : Counter) :
    (m.fetchAdd c).filter = m.filter := rfl

theorem get_fetchAdd (m : Loader) (c d : Counter) :
    (m.fetchAdd c).counters.get d =
      if d = c then m.counters.get c + 1 else m.counters.get d :=
  Counters.get_set _ _ _ _

end Loader

/-! ## Partition keys -/

/-- `table.name.find('.')`: what stands before the first dot, and what stands after it. -/
def splitAtDot (name : String) : Option (String × String) :=
  match name.toList.dropWhile (· != '.') with
  | [] => none
  | _ :: table => some (.ofList (name.toList.takeWhile (· != '.')), .ofList table)

/-- `discover_partition_keys`: the query's result is not looked at, nor is its failure. -/
def discoverPartitionKeys (_keyspace _table : String) (_schema : Outcome) : List String := ["id"]

/-- The partition keys `migrate_table` resolves. -/
def resolvePartitionKeys (table : TableConfig) (schema : Outcome) : List String :=
  if table.partitionKey ≠ [] then table.partitionKey
  else
    match splitAtDot table.name with
    | some (ks, tbl) => discoverPartitionKeys ks tbl schema
    | none => ["id"]

/-! ## One worker -/

/-- What a worker leaves in the counters, given how `process_range_sync` ended. The unpaged
path counts the failure before it rethrows, the worker's handler counts it again. -/
def processRange (cfg : LoaderConfig) (m : Loader) : Outcome → Loader
  | .ok => m
  | .syncError _ =>
    if cfg.enablePagination then m.fetchAdd .skippedRanges
    else ((m.fetchAdd .failedRows).fetchAdd .skippedRanges).fetchAdd .skippedRanges

/-! ## The function -/

/-- Where a call of `migrate_table` stands. -/
inductive Stage where
  | partitionKeys
  | ranges
  | loopHead
  | pauseGate
  | pauseCheck
  | batch
  | unwind
  | returned
  | threw
  | dividedByZero
deriving DecidableEq, Repr

/-- A call of `migrate_table` with its local variables. -/
structure TableRun where
  table : TableConfig
  stage : Stage := .partitionKeys
  partitionKeys : List String := []
  ranges : List TokenRange := []
  batchStart : ℕ := 0
  /-- The index of the inner loop. -/
  next : ℕ := 0
  /-- The ranges of the batch whose worker has not ended yet. -/
  workers : List TokenRange := []
deriving DecidableEq, Repr

/-- One step of `migrate_table`, with what it observed. -/
inductive TableAction where
  | resolvePartitionKeys (schema : Outcome)
  | calculateRanges (peers : Outcome)
  | leaveLoop
  | batchHead (running : Bool)
  | loadPaused (paused : Bool)
  | pauseCheck (running : Bool)
  | startWorker
  | startWorkerFails
  | processRange (table : String) (range : TokenRange) (o : Outcome)
  | join
  | rethrow
deriving DecidableEq, Repr

namespace TableRun

/-- `batch_end`. -/
def batchEnd (r : TableRun) (cfg : LoaderConfig) : ℕ :=
  min (r.batchStart + cfg.maxConcurrentLoaders.toNat) r.ranges.length

/-- The pause gate is left: the inner loop starts. -/
def enterBatch (r : TableRun) : TableRun := { r with next := r.batchStart, stage := .batch }

end TableRun

/-- One atomic step of `migrate_table`. -/
def migrateTableStep (cfg : LoaderConfig) (m : Loader) (r : TableRun) :
    TableAction → Option (Loader × TableRun)
  | .resolvePartitionKeys schema =>
    if r.stage = .partitionKeys then
      some (m, { r with
        partitionKeys := resolvePartitionKeys r.table schema
        stage := .ranges })
    else none
  | .calculateRanges peers =>
    if r.stage = .ranges then
      match calculateRanges peers cfg.numRangesPerCore with
      | some ranges => some (m, { r with ranges := ranges, stage := .loopHead })
      | none => some (m, { r with stage := .dividedByZero })
    else none
  | .leaveLoop =>
    if r.stage = .loopHead ∧ r.ranges.length ≤ r.batchStart then
      some (m, { r with stage := .returned })
    else none
  | .batchHead running =>
    if r.stage = .loopHead ∧ r.batchStart < r.ranges.length ∧ m.isRunning = running then
      some (m, { r with stage := if running then .pauseGate else .returned })
    else none
  | .loadPaused paused =>
    if r.stage = .pauseGate ∧ m.isPaused = paused then
      some (m, if paused then { r with stage := .pauseCheck } else r.enterBatch)
    else none
  | .pauseCheck running =>
    -- `break` leaves the pause gate, not the batch loop
    if r.stage = .pauseCheck ∧ m.isRunning = running then
      some (m, if running then { r with stage := .pauseGate } else r.enterBatch)
    else none
  | .startWorker =>
    if r.stage = .batch ∧ r.next < r.batchEnd cfg then
      some (m, { r with
        workers := r.workers ++ r.ranges[r.next]?.toList
        next := r.next + 1 })
    else none
  | .startWorkerFails =>
    if r.stage = .batch ∧ r.next < r.batchEnd cfg then some (m, { r with stage := .unwind })
    else none
  | .processRange table range o =>
    if (r.stage = .batch ∨ r.stage = .unwind) ∧ table = r.table.name ∧ range ∈ r.workers then
      some (processRange cfg m o, { r with workers := r.workers.erase range })
    else none
  | .join =>
    if r.stage = .batch ∧ r.next = r.batchEnd cfg ∧ r.workers = [] then
      some (m, { r with
        batchStart := r.batchStart + cfg.maxConcurrentLoaders.toNat
        stage := .loopHead })
    else none
  | .rethrow =>
    if r.stage = .unwind ∧ r.workers = [] then some (m, { r with stage := .threw }) else none

end SSTableLoader
end ScyllaClusterSync
