import ScyllaClusterSync.DualWriter.WriterSystem

/-!
# `DualWriter::get_stats` beside the writer

`get_stats` loads six counters one after another, takes the size of the queue under its mutex
and returns what it has. Any number of such calls are the threads of a pool whose memory is
the whole writer: the steps of the `write()` calls, of the retry thread and of the reload
thread are its environment, and come between any two loads.
-/

namespace ScyllaClusterSync
namespace DualWriter

open Lib

/-- `WriterStatsSnapshot`. -/
structure WriterStatsSnapshot where
  totalWrites : ℕ := 0
  successfulWrites : ℕ := 0
  failedWrites : ℕ := 0
  retriedWrites : ℕ := 0
  filteredWrites : ℕ := 0
  abandonedWrites : ℕ := 0
  pendingRetries : ℕ := 0
deriving DecidableEq, Repr

/-- The fields of a snapshot. -/
inductive StatsField where
  | totalWrites
  | successfulWrites
  | failedWrites
  | retriedWrites
  | filteredWrites
  | abandonedWrites
  | pendingRetries
deriving DecidableEq, Repr

/-- The order in which `get_stats` fills them. -/
def loadOrder : List StatsField :=
  [.totalWrites, .successfulWrites, .failedWrites, .retriedWrites, .filteredWrites,
    .abandonedWrites, .pendingRetries]

namespace WriterStatsSnapshot

def get (s : WriterStatsSnapshot) : StatsField → ℕ
  | .totalWrites => s.totalWrites
  | .successfulWrites => s.successfulWrites
  | .failedWrites => s.failedWrites
  | .retriedWrites => s.retriedWrites
  | .filteredWrites => s.filteredWrites
  | .abandonedWrites => s.abandonedWrites
  | .pendingRetries => s.pendingRetries

def set (s : WriterStatsSnapshot) (v : ℕ) : StatsField → WriterStatsSnapshot
  | .totalWrites => { s with totalWrites := v }
  | .successfulWrites => { s with successfulWrites := v }
  | .failedWrites => { s with failedWrites := v }
  | .retriedWrites => { s with retriedWrites := v }
  | .filteredWrites => { s with filteredWrites := v }
  | .abandonedWrites => { s with abandonedWrites := v }
  | .pendingRetries => { s with pendingRetries := v }

theorem get_set (s : WriterStatsSnapshot) (v : ℕ) (f f' : StatsField) :
    (s.set v f).get f' = if f' = f then v else s.get f' := by
  cases f <;> cases f' <;> rfl

end WriterStatsSnapshot

/-- One load: a counter, or the size of `failed_writes_`. -/
def Writer.load (m : Writer) : StatsField → ℕ
  | .totalWrites => m.stats.totalWrites
  | .successfulWrites => m.stats.successfulWrites
  | .failedWrites => m.stats.failedWrites
  | .retriedWrites => m.stats.retriedWrites
  | .filteredWrites => m.stats.filteredWrites
  | .abandonedWrites => m.stats.abandonedWrites
  | .pendingRetries => m.pendingRetryCount

/-- A call of `get_stats`: the loads still to come, and the snapshot so far. -/
structure StatsCall where
  todo : List StatsField := loadOrder
  snap : WriterStatsSnapshot := {}
deriving DecidableEq, Repr

/-- One load of a call. -/
def getStatsStep (m : Writer) (c : StatsCall) (f : StatsField) : Option StatsCall :=
  match c.todo with
  | [] => none
  | f' :: rest => if f = f' then some { todo := rest, snap := c.snap.set (m.load f) f } else none

abbrev StatsAction := PoolAction Unit StatsField Action

abbrev StatsState := Pool State StatsCall

/-- The writer with its observers. -/
def statsProgram (generateId : ℕ → String) (maxRetries : UInt32) :
    Pool.Program State StatsCall Unit StatsField Action where
  start _ := {}
  thread _ p c f := (getStatsStep p.mem c f).map fun c' => (p, c')
  env p a := Pool.step (program generateId maxRetries) p a

/-- The runs of the writer with its observers. -/
abbrev statsRuns (generateId : ℕ → String) (maxRetries : UInt32)
    (filter : Option BlacklistFilterGovernor) (h : List StatsAction) : Option StatsState :=
  run (Pool.step (statsProgram generateId maxRetries)) (Pool.init (initial filter)) h

/-- No more results than writes, and no more filtered writes either. -/
def WriterStatsSnapshot.Consistent (s : WriterStatsSnapshot) : Prop :=
  s.successfulWrites + s.failedWrites ≤ s.totalWrites ∧ s.filteredWrites ≤ s.totalWrites

instance (s : WriterStatsSnapshot) : Decidable s.Consistent :=
  inferInstanceAs (Decidable (_ ∧ _))

end DualWriter
end ScyllaClusterSync
