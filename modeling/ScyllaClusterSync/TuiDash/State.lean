import ScyllaClusterSync.DualWriter.GenerateId
import ScyllaClusterSync.Lib.BoundedLog

/-!
# `services/tui-dash/src/state.cpp`: `DashboardState`

What the terminal dashboard shows, and the functions that change it. The source keeps the last
100 entries of the activity log (`logCapacity`); here the number is a parameter, so that a
dashboard can be compared with one that keeps more.

`double` is a parameter with the few operations the dashboard needs.
-/

namespace ScyllaClusterSync
namespace TuiDash

open Lib

/-- `double`: the conversions of the language. `toInt` is `static_cast<int>`. -/
class Double (D : Type) where
  zero : D
  ofUInt64 : UInt64 → D
  ofInt64 : Int64 → D
  toUInt64 : D → UInt64
  toInt : D → Int32
  toInt_zero : toInt zero = 0

/-- `LogEntry`; the timestamp is a reading of the system clock. -/
structure LogEntry where
  timestamp : ℕ
  level : String
  message : String
deriving DecidableEq, Repr

structure TableStatus (D : Type) where
  name : String
  status : String := "PENDING"
  progress : D
  rowsMigrated : UInt64 := 0
  rowsTotal : UInt64 := 0

structure DashboardState (D : Type) where
  totalRows : UInt64 := 0
  migratedRows : UInt64 := 0
  failedRows : UInt64 := 0
  filteredRows : UInt64 := 0
  throughput : D
  progressPercent : D
  tablesTotal : UInt32 := 0
  tablesCompleted : UInt32 := 0
  tablesSkipped : UInt32 := 0
  rangesTotal : UInt32 := 0
  rangesCompleted : UInt32 := 0
  isRunning : Bool := false
  isPaused : Bool := false
  elapsedSecs : D
  elapsedDisplay : String := "00:00:00"
  tables : List (TableStatus D) := []
  activityLog : List LogEntry := []
  scrollOffset : UInt64 := 0

/-- The entries the source keeps. -/
def logCapacity : ℕ := 100

/-- `printf("%02d", n)`. -/
def twoDigits (n : ℤ) : List Char :=
  if n < 0 then '-' :: Nat.toDigits 10 n.natAbs
  else (Nat.toDigits 10 n.natAbs).leftpad 2 '0'

/-- The text `update_elapsed` prints for a number of seconds. -/
def elapsedText (total : ℤ) : List Char :=
  twoDigits (total.tdiv 3600) ++ ':' ::
    (twoDigits ((total.tmod 3600).tdiv 60) ++ ':' :: twoDigits (total.tmod 60))

namespace DashboardState

variable {D : Type} [Double D] (cap : ℕ)

/-- `DashboardState{}`. -/
def new : DashboardState D where
  throughput := Double.zero
  progressPercent := Double.zero
  elapsedSecs := Double.zero

/-- `add_log`. -/
def addLog (s : DashboardState D) (now : ℕ) (level message : String) : DashboardState D :=
  { s with activityLog := BoundedLog.push cap s.activityLog { timestamp := now, level, message } }

/-- `toggle_pause`. -/
def togglePause (s : DashboardState D) (now : ℕ) : DashboardState D :=
  if s.isRunning then
    let s := { s with isPaused := !s.isPaused }
    s.addLog cap now (if s.isPaused then "WARN" else "INFO")
      (if s.isPaused then "Migration paused by user" else "Migration resumed")
  else s

/-- `reset`. -/
def reset (now : ℕ) : DashboardState D :=
  (new : DashboardState D).addLog cap now "INFO" "Dashboard reset"

/-- `scroll_up`. -/
def scrollUp (s : DashboardState D) : DashboardState D :=
  if s.scrollOffset > 0 then { s with scrollOffset := s.scrollOffset - 1 } else s

/-- `scroll_down`. -/
def scrollDown (s : DashboardState D) : DashboardState D :=
  { s with scrollOffset := s.scrollOffset + 1 }

/-- `update_elapsed`. -/
def updateElapsed (s : DashboardState D) : DashboardState D :=
  { s with
    elapsedDisplay :=
      DualWriter.snprintf 16 (elapsedText (Double.toInt s.elapsedSecs).toInt) }

/-- The log as a dashboard with room for `cap` entries has it. -/
def truncate (s : DashboardState D) : DashboardState D :=
  { s with activityLog := s.activityLog.rtake cap }

end DashboardState

end TuiDash
end ScyllaClusterSync
