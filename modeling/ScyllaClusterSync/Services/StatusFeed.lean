import ScyllaClusterSync.SSTableLoader.Loader
import ScyllaClusterSync.TuiDash.Api

/-!
# The dashboard beside the loader

`GET /status` of `services/sstable-loader/src/api.cpp` and the live dashboard of
`services/tui-dash` that polls it. The handler takes no lock: it loads one counter or flag after
another, first those of `get_stats` and then those of the governor, and the loader goes on
between any two loads and until the answer arrives. A request can fail at any time, and its
answer is lost then. The keys of the dashboard are in the same run.

The text of the answer is a JSON value here: what `dump` prints, `json::parse` reads back.
-/

namespace ScyllaClusterSync
namespace Services

open Lib SSTableLoader TuiDash

variable {D : Type}

/-! ## `GET /status` -/

/-- What the handler reads, each in one load. -/
inductive StatusField where
  | counter (c : Counter)
  | isRunning
  | isPaused
  /-- `is_enabled` of the governor, under its mutex. -/
  | filterEnabled
  | filterTablesSkipped
  | filterRowsSkipped
  | filterRowsAllowed
deriving DecidableEq, Repr

/-- The loads of `get_stats`, in its order. -/
def getStatsOrder : List StatusField :=
  [.counter .totalRows, .counter .migratedRows, .counter .failedRows, .counter .filteredRows,
    .counter .tablesCompleted, .counter .tablesTotal, .counter .tablesSkipped,
    .counter .skippedRanges, .isRunning, .isPaused]

/-- The loads behind `if (filter)`. -/
def filterOrder : List StatusField :=
  [.filterEnabled, .filterTablesSkipped, .filterRowsSkipped, .filterRowsAllowed]

/-- `body["filter"]`, as far as it has been read. -/
structure FilterStatus where
  enabled : Bool := false
  tablesSkipped : ℕ := 0
  rowsSkipped : ℕ := 0
  rowsAllowed : ℕ := 0
deriving DecidableEq, Repr

/-- A run of the handler: the loads still to come, and what it has read so far. -/
structure StatusCall where
  hasFilter : Bool
  todo : List StatusField := getStatsOrder ++ if hasFilter then filterOrder else []
  stats : MigrationStats := { counters := {}, isRunning := false, isPaused := false }
  filter : FilterStatus := {}
deriving DecidableEq, Repr

namespace StatusCall

/-- What one load leaves. A null `filter` is never read. -/
def read (m : Loader) (c : StatusCall) : StatusField → StatusCall
  | .counter k => { c with stats.counters := c.stats.counters.set (m.counters.get k) k }
  | .isRunning => { c with stats.isRunning := m.isRunning }
  | .isPaused => { c with stats.isPaused := m.isPaused }
  | .filterEnabled => { c with filter.enabled := m.filter.elim false (·.isEnabled) }
  | .filterTablesSkipped =>
    { c with filter.tablesSkipped := m.filter.elim 0 (·.stats.tablesSkipped) }
  | .filterRowsSkipped => { c with filter.rowsSkipped := m.filter.elim 0 (·.stats.rowsSkipped) }
  | .filterRowsAllowed => { c with filter.rowsAllowed := m.filter.elim 0 (·.stats.rowsAllowed) }

/-- The next load. -/
def load (m : Loader) (c : StatusCall) : Option StatusCall :=
  match c.todo with
  | [] => none
  | f :: rest => some { c.read m f with todo := rest }

end StatusCall

/-- A JSON object with these members, each key at most once. -/
def jsonObject (members : List (String × Json (Scalar D))) : Json (Scalar D) :=
  .object (members.map Prod.fst).toFinset fun key => (members.lookup key.1).getD (.scalar .null)

/-- A counter, which has 64 bits. -/
def count (n : ℕ) : Json (Scalar D) := .scalar (.unsigned (UInt64.ofNat n))

variable [Double D]

/-- `stats.progress_percent`; `percent` is the arithmetic of `float`. -/
def progressPercent (percent : UInt64 → UInt64 → D) (stats : MigrationStats) : D :=
  if 0 < UInt64.ofNat stats.counters.totalRows then
    percent (UInt64.ofNat stats.counters.migratedRows) (UInt64.ofNat stats.counters.totalRows)
  else Double.zero

/-- `body["migration"]`. -/
def statusMigration (percent : UInt64 → UInt64 → D) (stats : MigrationStats) : Json (Scalar D) :=
  jsonObject
    [("total_rows", count stats.counters.totalRows),
      ("migrated_rows", count stats.counters.migratedRows),
      ("failed_rows", count stats.counters.failedRows),
      ("filtered_rows", count stats.counters.filteredRows),
      ("tables_completed", count stats.counters.tablesCompleted),
      ("tables_total", count stats.counters.tablesTotal),
      ("tables_skipped", count stats.counters.tablesSkipped),
      ("progress_percent", .scalar (.float (progressPercent percent stats))),
      ("is_running", .scalar (.boolean stats.isRunning)),
      ("is_paused", .scalar (.boolean stats.isPaused))]

omit [Double D] in
/-- `body["filter"]`. -/
def statusFilter (s : FilterStatus) : Json (Scalar D) :=
  jsonObject
    [("enabled", .scalar (.boolean s.enabled)),
      ("tables_skipped", count s.tablesSkipped),
      ("rows_skipped", count s.rowsSkipped),
      ("rows_allowed", count s.rowsAllowed)]

/-- The answer of a handler that has made its loads. -/
def getStatus (percent : UInt64 → UInt64 → D) (c : StatusCall) : Json (Scalar D) :=
  jsonObject
    ([("status", .string "ok"), ("migration", statusMigration percent c.stats)] ++
      if c.hasFilter then [("filter", statusFilter c.filter)] else [])

/-! ## A loader and a dashboard -/

/-- The loader, the request that is being answered, and the dashboard. -/
structure Feed (D : Type) where
  loader : SSTableLoader.State
  handler : Option StatusCall := none
  /-- The answer on its way. -/
  answer : Option (Json (Scalar D)) := none
  dashboard : LiveDashboard D

inductive FeedAction where
  | loader (a : SSTableLoader.Action)
  /-- The handler of `GET /status` is called. -/
  | request
  /-- It makes its next load. -/
  | load
  | reply
  /-- Its answer arrives. -/
  | deliver
  | lost (text : String)
  /-- The server answers with another status than 200. -/
  | refused (status : ℤ)
  | key (k : Key)

/-- The request is over, and the dashboard has an event. A handler that is still running then
answers nobody. -/
def Feed.onEvent (what : JsonException D → String) (baseUrl : String) (now : ℕ → ℕ) (p : Feed D)
    (event : LiveEvent D) : Feed D :=
  { p with
    handler := none
    answer := none
    dashboard := liveStep logCapacity what baseUrl p.dashboard (event, now) }

/-- One step, with the readings of the dashboard's clock. -/
def feedStep (cfg : LoaderConfig) (percent : UInt64 → UInt64 → D)
    (what : JsonException D → String) (baseUrl : String) (p : Feed D)
    (action : FeedAction × (ℕ → ℕ)) : Option (Feed D) :=
  match action.1 with
  | .loader a => (Pool.step (program cfg) p.loader a).map fun loader => { p with loader := loader }
  | .request =>
    some { p with handler := some { hasFilter := p.loader.mem.filter.isSome }, answer := none }
  | .load =>
    (p.handler.bind (StatusCall.load p.loader.mem)).map fun c => { p with handler := some c }
  | .reply =>
    p.handler.bind fun c =>
      if c.todo = [] then some { p with handler := none, answer := some (getStatus percent c) }
      else none
  | .deliver =>
    p.answer.map fun body => p.onEvent what baseUrl action.2 (.poll (.reply 200 (.ok body)))
  | .lost text => some (p.onEvent what baseUrl action.2 (.poll (.error text)))
  | .refused status =>
    if status = 200 then none
    else some (p.onEvent what baseUrl action.2 (.poll (.reply status (.error ""))))
  | .key k =>
    some { p with
      dashboard := liveStep logCapacity what baseUrl p.dashboard (.key k, action.2) }

/-- A loader and a dashboard that have just been started. -/
def Feed.start (filter : Option SSTableBlacklistGovernor) (now : ℕ) (apiUrl : String) : Feed D where
  loader := initial filter
  dashboard := .start logCapacity now apiUrl

/-- The steps of the loader. -/
def loaderActions (h : List (FeedAction × (ℕ → ℕ))) : List SSTableLoader.Action :=
  h.filterMap fun action =>
    match action.1 with
    | .loader a => some a
    | _ => none

end Services
end ScyllaClusterSync
