import ScyllaClusterSync.DualWriter.Filter
import ScyllaClusterSync.Lib.KVMap

/-!
# `services/dual-writer/src/writer.cpp`: the state of `DualWriter` and its functions

This file has the data of `writer.hpp` and the functions of `writer.cpp` as they run on
their own, with the outcomes of `source_->execute` and `target_->execute` as arguments.
`WriterSystem` cuts the same functions into their atomic steps and interleaves them.

Counters are unbounded; `attempts` and `max_retries` are the `uint32_t` they are in the
source. `first_attempt` and `latency_ms` are clock readings that nothing reads back.
-/

namespace ScyllaClusterSync
namespace DualWriter

open Svckit Lib

/-- `WriteResult`: outcome of a dual write operation. -/
structure WriteResult where
  sourceOk : Bool := false
  targetOk : Bool := false
  errorMessage : String := ""
deriving DecidableEq, Repr

/-- `FailedWrite`: a shadow write queued for background retry. -/
structure FailedWrite where
  id : String
  cql : String
  keyspace : String
  error : String
  attempts : UInt32 := 1
deriving DecidableEq, Repr

/-- `WriterStats`. -/
structure WriterStats where
  totalWrites : ℕ := 0
  successfulWrites : ℕ := 0
  failedWrites : ℕ := 0
  retriedWrites : ℕ := 0
  filteredWrites : ℕ := 0
  abandonedWrites : ℕ := 0
deriving DecidableEq, Repr

/-- Which check of the retry loop the entry at the head of the snapshot is at. -/
inductive RetryStage where
  | maxAttempts
  | gate
  | tableCheck
  | execute
deriving DecidableEq, Repr

/-- The local variables of the retry loop between its snapshot and its apply step:
the entries of `snapshot` not yet dealt with, `to_remove` and `to_update`. -/
structure RetryCycle where
  todo : List (String × FailedWrite)
  toRemove : List String := []
  toUpdate : List (String × FailedWrite) := []
  stage : RetryStage := .maxAttempts
deriving DecidableEq

/-- The mutable state of a `DualWriter` (the class; here `Writer`), its retry thread
included: `retry` is `none` while that thread sleeps. -/
structure Writer where
  filter : Option BlacklistFilterGovernor
  failedWrites : KVMap String FailedWrite := ∅
  stats : WriterStats := {}
  retry : Option RetryCycle := none
deriving DecidableEq

/-- One call of `ScyllaConnection::execute` on one of the two clusters. -/
inductive ClusterCall where
  | source (cql : String) (o : Outcome)
  | target (cql : String) (o : Outcome)
deriving DecidableEq, Repr

namespace Writer

/-! ## Counters and the queue -/

/-- `stats_.total_writes.fetch_add(1)`. -/
def countTotal (m : Writer) : Writer :=
  { m with stats.totalWrites := m.stats.totalWrites + 1 }

/-- `stats_.filtered_writes.fetch_add(1)`. -/
def countFiltered (m : Writer) : Writer :=
  { m with stats.filteredWrites := m.stats.filteredWrites + 1 }

/-- The counters `write()` updates last, by `result.source_ok`. -/
def countResult (m : Writer) (r : WriteResult) : Writer :=
  if r.sourceOk then
    { m with stats.successfulWrites := m.stats.successfulWrites + 1 }
  else
    { m with stats.failedWrites := m.stats.failedWrites + 1 }

/-- `filter_ && filter_->is_enabled()`. -/
def filterEnabled (m : Writer) : Bool :=
  match m.filter with
  | none => false
  | some g => g.isEnabled

/-- `filter_->should_skip_table(keyspace)`, reached only after `filter_` was tested. -/
def shouldSkipTable (m : Writer) (keyspace : String) : FilterDecision × Writer :=
  match m.filter with
  | none => (.allow, m)
  | some g => ((g.shouldSkipTable keyspace).1,
      { m with filter := some (g.shouldSkipTable keyspace).2 })

/-- `enqueue_failed_write`, with the id `generate_id` drew. -/
def enqueueFailedWrite (m : Writer) (id cql keyspace error : String) : Writer :=
  { m with
    failedWrites := KVMap.emplace m.failedWrites id
      { id := id, cql := cql, keyspace := keyspace, error := error, attempts := 1 } }

/-- `pending_retry_count`. -/
def pendingRetryCount (m : Writer) : ℕ := m.failedWrites.keys.length

/-! ## `write` and its dispatchers -/

/-- `write_source_only`, by the outcome of `source_->execute`. -/
def writeSourceOnly : Outcome → WriteResult
  | .ok => { sourceOk := true }
  | .syncError e => { errorMessage := "Source write failed: " ++ e }

/-- The result of a write whose source execute succeeded and whose shadow write did not. -/
def shadowFailed (e : String) : WriteResult :=
  { sourceOk := true, errorMessage := "Target shadow write failed: " ++ e }

/-- `write_dual_async`: the source first, then the shadow write, queued when it fails. -/
def writeDualAsync (m : Writer) (id cql keyspace : String) (src tgt : Outcome) :
    WriteResult × Writer × List ClusterCall :=
  match src with
  | .syncError e => ({ errorMessage := "Source write failed: " ++ e }, m, [.source cql src])
  | .ok =>
    match tgt with
    | .ok => ({ sourceOk := true, targetOk := true }, m, [.source cql src, .target cql tgt])
    | .syncError e =>
      (shadowFailed e, m.enqueueFailedWrite id cql keyspace e, [.source cql src, .target cql tgt])

/-- `write`: count, filter gate, dispatch (always `write_dual_async`), count the result.
`src` and `tgt` are the outcomes of the two executes, as far as they are made. -/
def write (m : Writer) (id cql keyspace : String) (src tgt : Outcome) :
    WriteResult × Writer × List ClusterCall :=
  let m := m.countTotal
  if m.filterEnabled then
    match m.shouldSkipTable keyspace with
    | (.skipTable, m) =>
      let result := writeSourceOnly src
      (result, m.countFiltered.countResult result, [.source cql src])
    | (_, m) =>
      let (result, m, calls) := m.writeDualAsync id cql keyspace src tgt
      (result, m.countResult result, calls)
  else
    let (result, m, calls) := m.writeDualAsync id cql keyspace src tgt
    (result, m.countResult result, calls)

/-! ## What the helpers leave alone -/

@[simp] theorem failedWrites_countTotal (m : Writer) :
    m.countTotal.failedWrites = m.failedWrites := rfl

@[simp] theorem retry_countTotal (m : Writer) : m.countTotal.retry = m.retry := rfl

@[simp] theorem filter_countTotal (m : Writer) : m.countTotal.filter = m.filter := rfl

@[simp] theorem failedWrites_countFiltered (m : Writer) :
    m.countFiltered.failedWrites = m.failedWrites := rfl

@[simp] theorem retry_countFiltered (m : Writer) : m.countFiltered.retry = m.retry := rfl

@[simp] theorem filter_countFiltered (m : Writer) : m.countFiltered.filter = m.filter := rfl

@[simp] theorem failedWrites_countResult (m : Writer) (r : WriteResult) :
    (m.countResult r).failedWrites = m.failedWrites := by
  unfold countResult
  split <;> rfl

@[simp] theorem retry_countResult (m : Writer) (r : WriteResult) :
    (m.countResult r).retry = m.retry := by
  unfold countResult
  split <;> rfl

@[simp] theorem filter_countResult (m : Writer) (r : WriteResult) :
    (m.countResult r).filter = m.filter := by
  unfold countResult
  split <;> rfl

@[simp] theorem failedWrites_shouldSkipTable (m : Writer) (keyspace : String) :
    (m.shouldSkipTable keyspace).2.failedWrites = m.failedWrites := by
  unfold shouldSkipTable
  split <;> rfl

@[simp] theorem retry_shouldSkipTable (m : Writer) (keyspace : String) :
    (m.shouldSkipTable keyspace).2.retry = m.retry := by
  unfold shouldSkipTable
  split <;> rfl

@[simp] theorem stats_shouldSkipTable (m : Writer) (keyspace : String) :
    (m.shouldSkipTable keyspace).2.stats = m.stats := by
  unfold shouldSkipTable
  split <;> rfl

theorem lookup_enqueue_self {m : Writer} {id cql keyspace error : String}
    (hfresh : m.failedWrites.lookup id = none) :
    (m.enqueueFailedWrite id cql keyspace error).failedWrites.lookup id =
      some ⟨id, cql, keyspace, error, 1⟩ :=
  KVMap.lookup_emplace_of_notMem hfresh

theorem lookup_enqueue_ne {m : Writer} {id id' cql keyspace error : String} (hne : id' ≠ id) :
    (m.enqueueFailedWrite id cql keyspace error).failedWrites.lookup id' =
      m.failedWrites.lookup id' :=
  KVMap.lookup_emplace_ne hne

/-! ## The filter's configuration -/

/-- The table blacklist in force: none without a governor. -/
def tableBlacklisted (m : Writer) (keyspace : String) : Bool :=
  match m.filter with
  | none => false
  | some g => (Blacklists.load g.config).skipsTable keyspace

theorem tableBlacklisted_of_shouldSkipTable {m : Writer} {keyspace : String} :
    (m.shouldSkipTable keyspace).1 = .skipTable ↔ m.tableBlacklisted keyspace := by
  unfold shouldSkipTable tableBlacklisted
  cases m.filter with
  | none => simp
  | some g => exact g.shouldSkipTable_eq_skipTable

/-- The gate in front of the dispatch is passed exactly by the tables that are not
blacklisted: a governor with a matching rule is enabled. -/
theorem filterEnabled_of_tableBlacklisted {m : Writer} {keyspace : String}
    (h : m.tableBlacklisted keyspace) : m.filterEnabled := by
  unfold tableBlacklisted at h
  unfold filterEnabled
  cases hf : m.filter with
  | none => simp [hf] at h
  | some g =>
    simp only [hf] at h ⊢
    rw [g.isEnabled_eq]
    exact Blacklists.enabled_of_skipsTable h

end Writer

end DualWriter
end ScyllaClusterSync
