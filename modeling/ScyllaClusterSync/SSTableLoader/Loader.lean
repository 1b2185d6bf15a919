import ScyllaClusterSync.Lib.Pool
import ScyllaClusterSync.SSTableLoader.MigrateTable

/-!
# `services/sstable-loader/src/loader.cpp`: migrations and their control

Any number of `start_migration`, `migrate_single_table` and `stop_migration` calls are
the threads of a pool over the loader's fields; `stop`, `pause`, `resume` and the
governor's `reload_config` are its environment. Every load and store of an atomic is a
step of its own, except for the `get_stats` a migration returns: it reads all of them in one.
The one `GET /status` calls makes them one by one (`Services.StatusFeed`).
-/

namespace ScyllaClusterSync
namespace SSTableLoader

open Svckit Lib

/-- The calls that run concurrently on one loader. -/
inductive Request where
  | startMigration (keyspaceFilter : List String)
  | migrateSingleTable (keyspace table : String)
  | stopMigration
deriving DecidableEq, Repr

/-- `MigrationStats`, as `get_stats` reads it. -/
structure MigrationStats where
  counters : Counters
  isRunning : Bool
  isPaused : Bool
deriving DecidableEq, Repr

/-- What a call does next. -/
inductive Pc where
  | guard
  | rejected
  /-- The stores between the guard and `is_running_ = true` that are still to come. -/
  | setup (todo : List (Counter × ℕ))
  | selectTables
  | tableHead (rest : List TableConfig)
  | filterGate (table : TableConfig) (rest : List TableConfig)
  | countSkipped (rest : List TableConfig)
  | migrating (run : TableRun) (rest : List TableConfig)
  | clearRunning
  | finishing
  | returned (stats : MigrationStats)
  | threw
  | stopGuard
  | stopRunning
  | stopPaused
  | stopped
deriving DecidableEq, Repr

structure Call where
  request : Request
  pc : Pc
deriving DecidableEq, Repr

/-- One step of a call, with what it observed. -/
inductive CallAction where
  | guard (running : Bool)
  | setup
  | setRunning
  | selectTables
  | leaveTables
  | tableHead (running : Bool)
  | shouldSkipTable
  | countSkipped
  | table (a : TableAction)
  | countCompleted (table : String)
  | rethrow
  | clearRunning
  | finish
  | stopGuard (running : Bool)
  | stopRunning
  | stopPaused
deriving DecidableEq, Repr

/-- One step that is not a call's. -/
inductive EnvAction where
  | stop
  | pause
  | resume
  | reload
deriving DecidableEq, Repr

abbrev Action := PoolAction Request CallAction EnvAction

abbrev State := Pool Loader Call

/-! ## The parts of the calls -/

/-- `full_name` of `migrate_single_table`. -/
def fullName (keyspace table : String) : String := keyspace ++ "." ++ table

/-- `ks` of the table selection: what stands before the first dot, else the empty string. -/
def keyspaceOf (name : String) : String := ((splitAtDot name).map Prod.fst).getD ""

/-- The tables `start_migration` selects. -/
def tablesToMigrate (cfg : LoaderConfig) (keyspaceFilter : List String) : List TableConfig :=
  if keyspaceFilter = [] then cfg.tables
  else cfg.tables.filter fun t =>
    keyspaceFilter.any fun f => f == keyspaceOf t.name || f == t.name

/-- What a call stores between its guard and `is_running_ = true`. -/
def setupStores : Request → List (Counter × ℕ)
  | .startMigration _ =>
    [(.totalRows, 0), (.migratedRows, 0), (.failedRows, 0), (.filteredRows, 0),
      (.tablesCompleted, 0), (.tablesSkipped, 0), (.skippedRanges, 0)]
  | .migrateSingleTable _ _ =>
    [(.totalRows, 0), (.migratedRows, 0), (.failedRows, 0), (.filteredRows, 0),
      (.tablesTotal, 1)]
  | .stopMigration => []

/-- Where a call goes once `is_running_` is true. -/
def afterSetRunning : Request → Pc
  | .migrateSingleTable ks t => .migrating { table := { name := fullName ks t } } []
  | _ => .selectTables

/-- Where a call goes once a table is counted as completed. -/
def afterTable (rest : List TableConfig) : Request → Pc
  | .startMigration _ => .tableHead rest
  | _ => .clearRunning

/-- `filter_ && filter_->should_skip_table(table)`, and the loader it leaves. -/
def Loader.shouldSkipTable (m : Loader) (table : String) : FilterDecision × Loader :=
  match m.filter with
  | none => (.allow, m)
  | some g => ((g.shouldSkipTable table).1, { m with filter := some (g.shouldSkipTable table).2 })

/-- The `get_stats` of a `return`. -/
def Loader.getStats (m : Loader) : MigrationStats where
  counters := m.counters
  isRunning := m.isRunning
  isPaused := m.isPaused

/-! ## The steps -/

/-- One atomic step of a call. -/
def callStep (cfg : LoaderConfig) (m : Loader) (c : Call) : CallAction → Option (Loader × Call)
  | .guard running =>
    if c.pc = .guard ∧ m.isRunning = running then
      some (m, { c with pc := if running then .rejected else .setup (setupStores c.request) })
    else none
  | .setup =>
    match c.pc with
    | .setup ((counter, v) :: todo) => some (m.store counter v, { c with pc := .setup todo })
    | _ => none
  | .setRunning =>
    if c.pc = .setup [] then
      some ({ m with isRunning := true }, { c with pc := afterSetRunning c.request })
    else none
  | .selectTables =>
    match c.pc, c.request with
    | .selectTables, .startMigration keyspaceFilter =>
      some (m.store .tablesTotal (tablesToMigrate cfg keyspaceFilter).length,
        { c with pc := .tableHead (tablesToMigrate cfg keyspaceFilter) })
    | _, _ => none
  | .leaveTables =>
    if c.pc = .tableHead [] then some (m, { c with pc := .clearRunning }) else none
  | .tableHead running =>
    match c.pc with
    | .tableHead (table :: rest) =>
      if m.isRunning = running then
        some (m, { c with pc := if running then .filterGate table rest else .clearRunning })
      else none
    | _ => none
  | .shouldSkipTable =>
    match c.pc with
    | .filterGate table rest =>
      some ((m.shouldSkipTable table.name).2,
        { c with pc := if (m.shouldSkipTable table.name).1 = .skipTable then .countSkipped rest
            else .migrating { table := table } rest })
    | _ => none
  | .countSkipped =>
    match c.pc with
    | .countSkipped rest => some (m.fetchAdd .tablesSkipped, { c with pc := .tableHead rest })
    | _ => none
  | .table a =>
    match c.pc with
    | .migrating r rest => (migrateTableStep cfg m r a).map fun (m', r') =>
      (m', { c with pc := .migrating r' rest })
    | _ => none
  | .countCompleted table =>
    match c.pc with
    | .migrating r rest =>
      if r.stage = .returned ∧ table = r.table.name then
        some (m.fetchAdd .tablesCompleted, { c with pc := afterTable rest c.request })
      else none
    | _ => none
  | .rethrow =>
    -- not a `SyncError`: no handler, and `is_running_` stays as it is
    match c.pc with
    | .migrating r _ => if r.stage = .threw then some (m, { c with pc := .threw }) else none
    | _ => none
  | .clearRunning =>
    if c.pc = .clearRunning then
      some ({ m with isRunning := false }, { c with pc := .finishing })
    else none
  | .finish =>
    if c.pc = .finishing then some (m, { c with pc := .returned m.getStats }) else none
  | .stopGuard running =>
    if c.pc = .stopGuard ∧ m.isRunning = running then
      some (m, { c with pc := if running then .stopRunning else .rejected })
    else none
  | .stopRunning =>
    if c.pc = .stopRunning then
      some ({ m with isRunning := false }, { c with pc := .stopPaused })
    else none
  | .stopPaused =>
    if c.pc = .stopPaused then some ({ m with isPaused := false }, { c with pc := .stopped })
    else none

/-- One step of the environment. -/
def envStep (m : Loader) : EnvAction → Loader
  | .stop => { m with isRunning := false }
  | .pause => { m with isPaused := true }
  | .resume => { m with isPaused := false }
  | .reload => { m with filter := m.filter.map SSTableBlacklistGovernor.reloadConfig }

/-- Where a call starts. -/
def entry : Request → Pc
  | .stopMigration => .stopGuard
  | _ => .guard

/-- The whole loader, as a pool. -/
def program (cfg : LoaderConfig) : Pool.Program Loader Call Request CallAction EnvAction where
  start k := { request := k, pc := entry k }
  thread _ := callStep cfg
  env m e := some (envStep m e)

/-- A loader that has just been constructed with this governor. -/
def initial (filter : Option SSTableBlacklistGovernor) : State := Pool.init { filter := filter }

/-- The runs of the loader. -/
abbrev runs (cfg : LoaderConfig) (filter : Option SSTableBlacklistGovernor) (h : List Action) :
    Option State :=
  run (Pool.step (program cfg)) (initial filter) h

end SSTableLoader
end ScyllaClusterSync
