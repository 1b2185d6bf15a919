import ScyllaClusterSync.DualWriter.Writer
import ScyllaClusterSync.Lib.Pool

/-!
# Any number of `write()` calls, the retry thread and hot reload, interleaved

The functions of `writer.cpp` cut into their atomic steps: one atomic counter update, one
section under the governor's or the queue's mutex, or one `execute` on a cluster. A
`write()` call is a thread of the pool, the retry thread and the reload thread are its
environment. Every action carries what it does and what it observed (the statement and
the outcome of an `execute`, the entry an iteration of the retry loop is about), so the
list of actions of a run is its history.

`generateId w` is the id `generate_id` draws for the `w`-th call, should its shadow write
have to be queued: a call draws at most one.
-/

namespace ScyllaClusterSync
namespace DualWriter

open Svckit Lib

/-! ## Calls -/

/-- What a `write()` call does next. -/
inductive Pc where
  | entered
  | gate
  | tableCheck
  | skipCount
  | sourceOnly
  | dualSource
  | dualTarget
  | enqueue (error : String)
  | finish (r : WriteResult)
  | returned (r : WriteResult)
deriving DecidableEq, Repr

/-- A call `write(cql, keyspace)` and where it stands. -/
structure WriteCall where
  cql : String
  keyspace : String
  pc : Pc := .entered
deriving DecidableEq, Repr

/-- The arguments of a call. -/
structure WriteRequest where
  cql : String
  keyspace : String
deriving DecidableEq, Repr

/-- One step of a call. -/
inductive CallAction where
  | countTotal
  | isEnabled
  | shouldSkipTable
  | countFiltered
  | sourceExecute (cql : String) (o : Outcome)
  | targetExecute (cql : String) (o : Outcome)
  | enqueue
  | finish
deriving DecidableEq, Repr

/-- One step of the retry thread. `snapshot` has the order in which the map is visited;
the others name the entry at the head of the snapshot. -/
inductive RetryAction where
  | snapshot (order : List String)
  | abandon (id : String)
  | keep (id : String)
  | isEnabled
  | drop (id : String)
  | pass (id : String)
  | execute (id cql : String) (o : Outcome)
  | apply
deriving DecidableEq, Repr

/-- One step of a thread that is not a `write()` call. -/
inductive EnvAction where
  | retry (a : RetryAction)
  | reload
deriving DecidableEq, Repr

abbrev Action := PoolAction WriteRequest CallAction EnvAction

abbrev State := Pool Writer WriteCall

/-- The result of the source execute in `write_dual_async`: go on to the target, or return. -/
def afterSource : Outcome → Pc
  | .ok => .dualTarget
  | .syncError e => .finish { errorMessage := "Source write failed: " ++ e }

/-- The result of the target execute in `write_dual_async`. -/
def afterTarget : Outcome → Pc
  | .ok => .finish { sourceOk := true, targetOk := true }
  | .syncError e => .enqueue e

/-- One atomic step of call `w`. -/
def callStep (generateId : ℕ → String) (w : ℕ) (m : Writer) (c : WriteCall) :
    CallAction → Option (Writer × WriteCall)
  | .countTotal =>
    if c.pc = .entered then some (m.countTotal, { c with pc := .gate }) else none
  | .isEnabled =>
    if c.pc = .gate then
      some (m, { c with pc := if m.filterEnabled then .tableCheck else .dualSource })
    else none
  | .shouldSkipTable =>
    if c.pc = .tableCheck then
      some ((m.shouldSkipTable c.keyspace).2,
        { c with pc := if (m.shouldSkipTable c.keyspace).1 = .skipTable then .skipCount
            else .dualSource })
    else none
  | .countFiltered =>
    if c.pc = .skipCount then some (m.countFiltered, { c with pc := .sourceOnly }) else none
  | .sourceExecute cql o =>
    if cql ≠ c.cql then none
    else if c.pc = .sourceOnly then
      some (m, { c with pc := .finish (Writer.writeSourceOnly o) })
    else if c.pc = .dualSource then some (m, { c with pc := afterSource o })
    else none
  | .targetExecute cql o =>
    if cql = c.cql ∧ c.pc = .dualTarget then some (m, { c with pc := afterTarget o }) else none
  | .enqueue =>
    match c.pc with
    | .enqueue e =>
      some (m.enqueueFailedWrite (generateId w) c.cql c.keyspace e,
        { c with pc := .finish (Writer.shadowFailed e) })
    | _ => none
  | .finish =>
    match c.pc with
    | .finish r => some (m.countResult r, { c with pc := .returned r })
    | _ => none

/-! ## The retry thread -/

namespace RetryCycle

/-- The head of the snapshot goes to `to_remove`. -/
def remove (r : RetryCycle) (id : String) : RetryCycle :=
  { r with todo := r.todo.tail, toRemove := r.toRemove ++ [id], stage := .maxAttempts }

/-- The head of the snapshot goes to `to_update`, one attempt and the new error later. -/
def update (r : RetryCycle) (id : String) (fw : FailedWrite) (error : String) : RetryCycle :=
  { r with
    todo := r.todo.tail
    toUpdate := r.toUpdate ++ [(id, { fw with attempts := fw.attempts + 1, error := error })]
    stage := .maxAttempts }

end RetryCycle

/-- The retry thread's cycle and the entry at the head of its snapshot, when it is at
this stage of the checks on the entry named `id`. -/
def Writer.headAt (m : Writer) (stage : RetryStage) (id : String) :
    Option (RetryCycle × FailedWrite) :=
  match m.retry with
  | none => none
  | some r =>
    match r.todo with
    | [] => none
    | (id', fw) :: _ => if r.stage = stage ∧ id' = id then some (r, fw) else none

/-- One atomic step of `retry_failed_writes_loop`. -/
def retryStep (maxRetries : UInt32) (m : Writer) : RetryAction → Option Writer
  | .snapshot order =>
    -- an empty map is `continue`: the thread goes back to sleep
    if m.retry = none ∧ order ≠ [] ∧ order.Perm m.failedWrites.keys then
      some { m with retry := some { todo := KVMap.entriesAt m.failedWrites order } }
    else none
  | .abandon id => (m.headAt .maxAttempts id).bind fun (r, fw) =>
    if maxRetries ≤ fw.attempts then
      some { m with
        stats.abandonedWrites := m.stats.abandonedWrites + 1
        retry := some (r.remove id) }
    else none
  | .keep id => (m.headAt .maxAttempts id).bind fun (r, fw) =>
    if fw.attempts < maxRetries then some { m with retry := some { r with stage := .gate } }
    else none
  | .isEnabled => m.retry.bind fun r =>
    if r.stage = .gate then
      some { m with
        retry := some { r with stage := if m.filterEnabled then .tableCheck else .execute } }
    else none
  | .drop id => (m.headAt .tableCheck id).bind fun (r, fw) =>
    if (m.shouldSkipTable fw.keyspace).1 = .skipTable then
      some { (m.shouldSkipTable fw.keyspace).2 with retry := some (r.remove id) }
    else none
  | .pass id => (m.headAt .tableCheck id).bind fun (r, fw) =>
    if (m.shouldSkipTable fw.keyspace).1 ≠ .skipTable then
      some { (m.shouldSkipTable fw.keyspace).2 with retry := some { r with stage := .execute } }
    else none
  | .execute id cql o => (m.headAt .execute id).bind fun (r, fw) =>
    if cql = fw.cql then
      match o with
      | .ok => some { m with
          stats.retriedWrites := m.stats.retriedWrites + 1
          retry := some (r.remove id) }
      | .syncError e => some { m with retry := some (r.update id fw e) }
    else none
  | .apply => m.retry.bind fun r =>
    if r.todo = [] then
      some { m with
        failedWrites := KVMap.insertAll (KVMap.eraseAll m.failedWrites r.toRemove) r.toUpdate
        retry := none }
    else none

/-- One step of the retry thread or of the reload thread. -/
def envStep (maxRetries : UInt32) (m : Writer) : EnvAction → Option Writer
  | .retry a => retryStep maxRetries m a
  | .reload => some { m with filter := m.filter.map BlacklistFilterGovernor.reloadConfig }

/-- The whole service, as a pool. -/
def program (generateId : ℕ → String) (maxRetries : UInt32) :
    Pool.Program Writer WriteCall WriteRequest CallAction EnvAction where
  start k := { cql := k.cql, keyspace := k.keyspace }
  thread := callStep generateId
  env := envStep maxRetries

/-- A service that has just been constructed with this governor (`none`: no filter). -/
def initial (filter : Option BlacklistFilterGovernor) : State := Pool.init { filter := filter }

/-- The runs of the service. -/
abbrev runs (generateId : ℕ → String) (maxRetries : UInt32)
    (filter : Option BlacklistFilterGovernor) (h : List Action) : Option State :=
  run (Pool.step (program generateId maxRetries)) (initial filter) h

end DualWriter
end ScyllaClusterSync
