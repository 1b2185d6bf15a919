import ScyllaClusterSync.SSTableLoader.RowFilter
import ScyllaClusterSync.TuiDash.State

/-!
# `services/tui-dash/src/api.cpp` and the loops of `main.cpp`

The live dashboard: a thread polls `/status` of the loader and writes what it reads into the
state, and the keys of the user change the same state under the same mutex. A number in the
answer is taken from any JSON number, a flag from a boolean only; a member of another kind is
an exception that leaves the fields before it updated.

What `httplib` makes of a request and what `json::parse` makes of a body come with the answer.
-/

namespace ScyllaClusterSync
namespace TuiDash

open Lib
open SSTableLoader (Json)

/-- The scalars of `nlohmann::json`. -/
inductive Scalar (D : Type) where
  | null
  | boolean (b : Bool)
  | unsigned (n : UInt64)
  | integer (n : Int64)
  | float (x : D)

/-- The exceptions of `json::value`, with the value they complain about. -/
inductive JsonException (D : Type) where
  | parseError (what : String)
  | typeMustBeNumber (value : Json (Scalar D))
  | typeMustBeBoolean (value : Json (Scalar D))
  | valueOfNonObject (value : Json (Scalar D))

variable {D : Type} [Double D]

/-! ## `json::value(key, default)` -/

def getUInt64 : Json (Scalar D) → Except (JsonException D) UInt64
  | .scalar (.unsigned n) => .ok n
  | .scalar (.integer n) => .ok n.toUInt64
  | .scalar (.float x) => .ok (Double.toUInt64 x)
  | v => .error (.typeMustBeNumber v)

/-- A `uint32_t` is taken from a boolean as well, unlike a `uint64_t`. -/
def getUInt32 : Json (Scalar D) → Except (JsonException D) UInt32
  | .scalar (.boolean b) => .ok (if b then 1 else 0)
  | v => (getUInt64 v).map UInt64.toUInt32

def getDouble : Json (Scalar D) → Except (JsonException D) D
  | .scalar (.unsigned n) => .ok (Double.ofUInt64 n)
  | .scalar (.integer n) => .ok (Double.ofInt64 n)
  | .scalar (.float x) => .ok x
  | v => .error (.typeMustBeNumber v)

def getBool : Json (Scalar D) → Except (JsonException D) Bool
  | .scalar (.boolean b) => .ok b
  | v => .error (.typeMustBeBoolean v)

/-- `m.value(key, fallback)`. -/
def value {T : Type} (get : Json (Scalar D) → Except (JsonException D) T) (fallback : T)
    (m : Json (Scalar D)) (key : String) : Except (JsonException D) T :=
  match m with
  | .object keys members =>
    ((Json.object keys members).member key).elim (.ok fallback) get
  | m => .error (.valueOfNonObject m)

/-! ## `update_state` -/

/-- One assignment of `update_state`: a field from a member of `migration`. -/
def Assignment (D : Type) : Type :=
  Json (Scalar D) → DashboardState D → Except (JsonException D) (DashboardState D)

def assignment {T : Type} (get : Json (Scalar D) → Except (JsonException D) T) (fallback : T)
    (key : String) (set : T → DashboardState D → DashboardState D) : Assignment D :=
  fun m s => (value get fallback m key).map fun v => set v s

/-- The assignments, in their order; the last one also runs `update_elapsed`. -/
def assignments : List (Assignment D) :=
  [assignment getUInt64 0 "total_rows" fun v s => { s with totalRows := v },
    assignment getUInt64 0 "migrated_rows" fun v s => { s with migratedRows := v },
    assignment getUInt64 0 "failed_rows" fun v s => { s with failedRows := v },
    assignment getUInt64 0 "filtered_rows" fun v s => { s with filteredRows := v },
    assignment getDouble Double.zero "throughput_rows_per_sec" fun v s =>
      { s with throughput := v },
    assignment getDouble Double.zero "progress_percent" fun v s => { s with progressPercent := v },
    assignment getUInt32 0 "tables_total" fun v s => { s with tablesTotal := v },
    assignment getUInt32 0 "tables_completed" fun v s => { s with tablesCompleted := v },
    assignment getUInt32 0 "tables_skipped" fun v s => { s with tablesSkipped := v },
    assignment getBool false "is_running" fun v s => { s with isRunning := v },
    assignment getBool false "is_paused" fun v s => { s with isPaused := v },
    assignment getDouble Double.zero "elapsed_secs" fun v s =>
      ({ s with elapsedSecs := v } : DashboardState D).updateElapsed]

/-- The assignments up to the first that throws. -/
def assign (m : Json (Scalar D)) :
    List (Assignment D) → DashboardState D → DashboardState D × Option (JsonException D)
  | [], s => (s, none)
  | a :: as, s =>
    match a m s with
    | .ok s' => assign m as s'
    | .error e => (s, some e)

/-- `add_log` under a condition. -/
def logWhen (cap : ℕ) (condition : Bool) (now : ℕ) (level message : String)
    (s : DashboardState D) : DashboardState D :=
  if condition then s.addLog cap now level message else s

/-- What `update_state` logs, by the state before and after the assignments. `now` are the
readings of the clock. -/
def logTransitions (cap : ℕ) (baseUrl : String) (now : ℕ → ℕ) (before s : DashboardState D) :
    DashboardState D :=
  let newlyFailed := s.failedRows.toNat - before.failedRows.toNat
  logWhen cap (before.failedRows < s.failedRows && 100 < newlyFailed) (now 4) "WARN"
    (toString newlyFailed ++ " rows failed") <|
  logWhen cap (before.isPaused && !s.isPaused && s.isRunning) (now 3) "INFO"
    "Migration resumed" <|
  logWhen cap (!before.isPaused && s.isPaused) (now 2) "WARN" "Migration paused" <|
  logWhen cap (before.isRunning && !s.isRunning && 0 < s.migratedRows) (now 1) "INFO"
    "Migration completed" <|
  logWhen cap (!before.isRunning && s.isRunning) (now 0) "INFO"
    ("Connected to sstable-loader at " ++ baseUrl) s

/-- `update_state`, and the exception that ends it early. -/
def updateState (cap : ℕ) (baseUrl : String) (now : ℕ → ℕ) (body : Json (Scalar D))
    (s : DashboardState D) : DashboardState D × Option (JsonException D) :=
  match body.member "migration" with
  | none => (s, none)
  | some m =>
    match assign m assignments s with
    | (s', some e) => (s', some e)
    | (s', none) => (logTransitions cap baseUrl now s s', none)

/-! ## `fetch_status` -/

/-- What a request comes back with. -/
inductive Response (D : Type) where
  | error (text : String)
  | reply (status : ℤ) (body : Except String (Json (Scalar D)))

/-- The fields of `ApiClient` that change. -/
structure ApiClient where
  connected : Bool := false
  lastError : String := ""
deriving DecidableEq, Repr

/-- What `fetch_status` does with an exception of the library. -/
def parseFailed (cap : ℕ) (what : JsonException D → String) (now : ℕ) (e : JsonException D)
    (s : DashboardState D) : ApiClient × DashboardState D :=
  ({ connected := false, lastError := "Parse error: " ++ what e },
    s.addLog cap now "ERROR" ("Failed to parse API response: " ++ ("Parse error: " ++ what e)))

/-- `fetch_status`, by the answer. `what` is the text of an exception. -/
def fetchStatus (cap : ℕ) (what : JsonException D → String) (baseUrl : String) (now : ℕ → ℕ)
    (c : ApiClient) (s : DashboardState D) : Response D → ApiClient × DashboardState D
  | .error text =>
    ({ c with connected := false },
      logWhen cap c.connected (now 0) "WARN" ("Lost connection to sstable-loader: " ++ text) s)
  | .reply status body =>
    if status ≠ 200 then
      ({ connected := false, lastError := "HTTP " ++ toString status }, s)
    else
      match body with
      | .error text => parseFailed cap what (now 0) (.parseError text) s
      | .ok body =>
        match updateState cap baseUrl now body s with
        | (s', none) => ({ connected := true, lastError := "" }, s')
        | (s', some e) => parseFailed cap what (now 0) e s'

/-! ## The live dashboard -/

/-- The keys that change the state. -/
inductive Key where
  | space
  | r
  | arrowUp
  | arrowDown
deriving DecidableEq, Repr

/-- What happens to a live dashboard: a poll is answered, or a key is pressed. -/
inductive LiveEvent (D : Type) where
  | poll (response : Response D)
  | key (k : Key)

structure LiveDashboard (D : Type) where
  client : ApiClient := {}
  state : DashboardState D

/-- The handler of the keys. -/
def onKey (cap : ℕ) (now : ℕ) (s : DashboardState D) : Key → DashboardState D
  | .space => s.togglePause cap now
  | .r => .reset cap now
  | .arrowUp => s.scrollUp
  | .arrowDown => s.scrollDown

/-- One event, with the readings of the clock. -/
def liveStep (cap : ℕ) (what : JsonException D → String) (baseUrl : String)
    (d : LiveDashboard D) (event : LiveEvent D × (ℕ → ℕ)) : LiveDashboard D :=
  match event.1 with
  | .poll response =>
    { client := (fetchStatus cap what baseUrl event.2 d.client d.state response).1
      state := (fetchStatus cap what baseUrl event.2 d.client d.state response).2 }
  | .key k => { d with state := onKey cap (event.2 0) d.state k }

/-- A live dashboard when `main` starts its loops. -/
def LiveDashboard.start (cap : ℕ) (now : ℕ) (apiUrl : String) : LiveDashboard D where
  state := (DashboardState.new : DashboardState D).addLog cap now "INFO"
    ("TUI Dashboard started - connecting to " ++ apiUrl)

/-- The dashboard after these events. -/
def liveRun (cap : ℕ) (what : JsonException D → String) (baseUrl : String) (now : ℕ)
    (events : List (LiveEvent D × (ℕ → ℕ))) : LiveDashboard D :=
  events.foldl (liveStep cap what baseUrl) (.start cap now baseUrl)

end TuiDash
end ScyllaClusterSync
