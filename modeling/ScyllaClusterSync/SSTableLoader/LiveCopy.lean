import ScyllaClusterSync.Lib.Pool
import ScyllaClusterSync.Lib.Replica
import ScyllaClusterSync.Svckit.FilterGovernor

/-!
# Rows copied while they are written

The loader's copy of a row next to the writes that pass through the dual-writer, on two
clusters that keep what they were told last. A copy takes the row's JSON out of the
result of the range query in one step, and `insert_row_with_retry` executes
`insert_query` with it until the target accepts it or the retries are used up. A write is
`write_dual_async`: the source, then the target.

Neither statement carries a write timestamp, and nothing orders a copy and a write.
-/

namespace ScyllaClusterSync
namespace SSTableLoader

open Svckit Lib

/-- `insert_query` of `process_range_sync`. -/
def insertQuery (table : String) : String := "INSERT INTO " ++ table ++ " JSON ?"

section

variable (R V : Type)

/-- The rows of the two clusters. -/
structure Clusters where
  source : R → Option V
  target : R → Option V

/-- What runs side by side. -/
inductive Job where
  | write (row : R) (value : V)
  | copy (table : String) (row : R)

/-- How far a job has come. -/
inductive JobStage where
  | start
  /-- The source has the value, the target is still to be given it. -/
  | holding (value : V) (attempt : ℕ)
  | done
  /-- The row was not in the result. -/
  | absent
  | failed

structure Task where
  job : Job R V
  stage : JobStage V := .start

inductive JobAction where
  | source (row : R) (o : Outcome)
  | target (row : R) (o : Outcome)
  | read (row : R)
  | insert (query : String) (row : R) (o : Outcome)

abbrev CopyAction := PoolAction (Job R V) (JobAction R) Empty

abbrev CopyState := Pool (Clusters R V) (Task R V)

end

variable {R V : Type}

def Job.row : Job R V → R
  | .write row _ => row
  | .copy _ row => row

def JobStage.isHolding : JobStage V → Bool
  | .holding _ _ => true
  | _ => false

/-- The job is over, and not for a failure. -/
def JobStage.succeeded : JobStage V → Bool
  | .done => true
  | .absent => true
  | _ => false

variable [DecidableEq R]

/-- One atomic step of a job. -/
def jobStep (maxRetries : UInt32) (m : Clusters R V) (t : Task R V) :
    JobAction R → Option (Clusters R V × Task R V)
  | .source row o =>
    match t.job, t.stage with
    | .write row' value, .start =>
      if row = row' then
        match o with
        | .ok => some ({ m with source := overwrite m.source (row, some value) },
            { t with stage := .holding value 0 })
        | .syncError _ => some (m, { t with stage := .failed })
      else none
    | _, _ => none
  | .target row o =>
    match t.job, t.stage with
    | .write row' _, .holding value _ =>
      if row = row' then
        match o with
        | .ok => some ({ m with target := overwrite m.target (row, some value) },
            { t with stage := .done })
        -- queued for the retry loop, and no longer a write that has gone well
        | .syncError _ => some (m, { t with stage := .failed })
      else none
    | _, _ => none
  | .read row =>
    match t.job, t.stage with
    | .copy _ row', .start =>
      if row = row' then
        match m.source row with
        | some json => some (m, { t with stage := .holding json 0 })
        | none => some (m, { t with stage := .absent })
      else none
    | _, _ => none
  | .insert query row o =>
    match t.job, t.stage with
    | .copy table row', .holding json attempt =>
      if query = insertQuery table ∧ row = row' then
        match o with
        | .ok => some ({ m with target := overwrite m.target (row, some json) },
            { t with stage := .done })
        | .syncError _ =>
          if attempt < maxRetries.toNat then
            some (m, { t with stage := .holding json (attempt + 1) })
          else some (m, { t with stage := .failed })
      else none
    | _, _ => none

/-- Writes and copies, as a pool. -/
def copyProgram (maxRetries : UInt32) :
    Pool.Program (Clusters R V) (Task R V) (Job R V) (JobAction R) Empty where
  start job := { job := job }
  thread _ := jobStep maxRetries
  env _ e := e.elim

/-- The runs from these two clusters. -/
abbrev copyRuns (maxRetries : UInt32) (source target : R → Option V)
    (h : List (CopyAction R V)) : Option (CopyState R V) :=
  run (Pool.step (copyProgram maxRetries)) (Pool.init { source := source, target := target }) h

end SSTableLoader
end ScyllaClusterSync
