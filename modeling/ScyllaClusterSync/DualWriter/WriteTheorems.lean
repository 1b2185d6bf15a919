import ScyllaClusterSync.DualWriter.WriterHistory

/-!
# A call that nothing interleaves with is `Writer.write`

`Writer.write` has the function of `writer.cpp` in one piece; the pool cuts it into
atomic steps. `runs_write` connects the two: the steps of one call, taken one after
another, lead to the state and the result of `Writer.write` and make its cluster calls.
-/

namespace ScyllaClusterSync
namespace DualWriter

open Svckit Lib

/-- The steps of `write_dual_async`, up to and including the final counter. -/
def dualActions (cql : String) : Outcome → Outcome → List CallAction
  | .syncError e, _ => [.sourceExecute cql (.syncError e), .finish]
  | .ok, .ok => [.sourceExecute cql .ok, .targetExecute cql .ok, .finish]
  | .ok, .syncError e =>
    [.sourceExecute cql .ok, .targetExecute cql (.syncError e), .enqueue, .finish]

/-- The steps of a call that runs alone from the state `m`. -/
def writeActions (m : Writer) (cql keyspace : String) (src tgt : Outcome) : List CallAction :=
  if m.filterEnabled then
    if (m.shouldSkipTable keyspace).1 = .skipTable then
      [.countTotal, .isEnabled, .shouldSkipTable, .countFiltered, .sourceExecute cql src, .finish]
    else [CallAction.countTotal, .isEnabled, .shouldSkipTable] ++ dualActions cql src tgt
  else [CallAction.countTotal, .isEnabled] ++ dualActions cql src tgt

variable (generateId : ℕ → String) (maxRetries : UInt32) (w : ℕ) (m : Writer)
  (cql keyspace : String) (src tgt : Outcome)

/-- `write_dual_async` and the counter after it. -/
theorem run_dualActions :
    run (Pool.solo (program generateId maxRetries) w)
        (m, { cql := cql, keyspace := keyspace, pc := .dualSource }) (dualActions cql src tgt) =
      some ((m.writeDualAsync (generateId w) cql keyspace src tgt).2.1.countResult
          (m.writeDualAsync (generateId w) cql keyspace src tgt).1,
        { cql := cql, keyspace := keyspace,
          pc := .returned (m.writeDualAsync (generateId w) cql keyspace src tgt).1 }) := by
  cases src with
  | syncError e =>
    simp [dualActions, run, Pool.solo, program, callStep, afterSource, Writer.writeDualAsync]
  | ok =>
    cases tgt with
    | ok =>
      simp [dualActions, run, Pool.solo, program, callStep, afterSource, afterTarget,
        Writer.writeDualAsync]
    | syncError e =>
      simp [dualActions, run, Pool.solo, program, callStep, afterSource, afterTarget,
        Writer.writeDualAsync]

theorem clusterCalls_dualActions :
    (dualActions cql src tgt).filterMap (fun a => clusterCall (.act w a)) =
      (m.writeDualAsync (generateId w) cql keyspace src tgt).2.2 := by
  cases src with
  | syncError e => rfl
  | ok => cases tgt <;> rfl

/-- Counting the call does not change what the filter answers. -/
theorem shouldSkipTable_countTotal :
    m.countTotal.shouldSkipTable keyspace =
      ((m.shouldSkipTable keyspace).1, (m.shouldSkipTable keyspace).2.countTotal) := by
  unfold Writer.shouldSkipTable
  rw [Writer.filter_countTotal]
  cases m.filter <;> rfl

/-- The whole call. -/
theorem run_writeActions :
    run (Pool.solo (program generateId maxRetries) w) (m, { cql := cql, keyspace := keyspace })
        (writeActions m cql keyspace src tgt) =
      some ((m.write (generateId w) cql keyspace src tgt).2.1,
        { cql := cql, keyspace := keyspace,
          pc := .returned (m.write (generateId w) cql keyspace src tgt).1 }) := by
  have hskip := shouldSkipTable_countTotal m keyspace
  have henabled : m.countTotal.filterEnabled = m.filterEnabled := rfl
  unfold writeActions Writer.write
  cases he : m.filterEnabled with
  | false =>
    simp only [Bool.false_eq_true, if_false, henabled, he, run_append]
    have hhead : run (Pool.solo (program generateId maxRetries) w)
        (m, { cql := cql, keyspace := keyspace }) [.countTotal, .isEnabled] =
        some (m.countTotal, { cql := cql, keyspace := keyspace, pc := .dualSource }) := by
      simp [run, Pool.solo, program, callStep, henabled, he]
    rw [hhead, Option.bind_some, run_dualActions]
  | true =>
    simp only [if_true, henabled, he, hskip]
    cases hd : (m.shouldSkipTable keyspace).1 with
    | skipTable =>
      simp [run, Pool.solo, program, callStep, henabled, he, hskip, hd]
    | _ =>
      simp only [reduceCtorEq, if_false, run_append]
      have hhead : run (Pool.solo (program generateId maxRetries) w)
          (m, { cql := cql, keyspace := keyspace }) [.countTotal, .isEnabled, .shouldSkipTable] =
          some ((m.shouldSkipTable keyspace).2.countTotal,
            { cql := cql, keyspace := keyspace, pc := .dualSource }) := by
        simp [run, Pool.solo, program, callStep, henabled, he, hskip, hd]
      rw [hhead, Option.bind_some, run_dualActions]

theorem clusterCalls_writeActions :
    (writeActions m cql keyspace src tgt).filterMap (fun a => clusterCall (.act w a)) =
      (m.write (generateId w) cql keyspace src tgt).2.2 := by
  have hskip := shouldSkipTable_countTotal m keyspace
  have henabled : m.countTotal.filterEnabled = m.filterEnabled := rfl
  unfold writeActions Writer.write
  cases he : m.filterEnabled with
  | false =>
    simp only [Bool.false_eq_true, if_false, henabled, he, List.filterMap_append,
      clusterCalls_dualActions generateId w m.countTotal cql keyspace src tgt]
    rfl
  | true =>
    simp only [if_true, henabled, he, hskip]
    cases hd : (m.shouldSkipTable keyspace).1 with
    | skipTable => rfl
    | _ =>
      simp only [reduceCtorEq, if_false, List.filterMap_append, clusterCalls_dualActions generateId w
        (m.shouldSkipTable keyspace).2.countTotal cql keyspace src tgt]
      rfl

/-- In any state of the service, a call taken without interruption is `Writer.write`: it
leads to its memory and its result, makes its cluster calls and leaves the other calls
as they are. -/
theorem runs_write {p : State} (hw : p.threads[w]? = some { cql := cql, keyspace := keyspace }) :
    run (Pool.step (program generateId maxRetries)) p
        ((writeActions p.mem cql keyspace src tgt).map (.act w)) =
      some { mem := (p.mem.write (generateId w) cql keyspace src tgt).2.1
             threads := p.threads.set w
               { cql := cql, keyspace := keyspace,
                 pc := .returned (p.mem.write (generateId w) cql keyspace src tgt).1 } } ∧
    ((writeActions p.mem cql keyspace src tgt).map (.act w)).filterMap clusterCall =
      (p.mem.write (generateId w) cql keyspace src tgt).2.2 := by
  constructor
  · exact Pool.run_solo hw (run_writeActions generateId maxRetries w p.mem cql keyspace src tgt)
  · rw [List.filterMap_map]
    exact clusterCalls_writeActions generateId w p.mem cql keyspace src tgt

end DualWriter
end ScyllaClusterSync
