import ScyllaClusterSync.Lib.Retry
import ScyllaClusterSync.SSTableLoader.MigrateTable
import ScyllaClusterSync.Svckit.Database

/-!
# `services/sstable-loader/src/loader.cpp`: `insert_row_with_retry` and the page fetch

Two retry loops with an inclusive bound, one around an insert on the target and one around a
query on the source. The cluster answers the `i`-th execution of a call; the table and the
range of a row are for the log, and the delays are left out.

`process_range_sync` is given around the page fetch: in both of its paths what it does with
the rows it has read is still a comment.
-/

namespace ScyllaClusterSync
namespace SSTableLoader

open Svckit Lib

/-- `what()` of the `SyncError`, `none` when there is none. -/
def what : Outcome → Option String
  | .ok => none
  | .syncError e => some e

/-! ## `insert_row_with_retry` -/

/-- One execution on the target, with the counter of the loop. -/
structure InsertAttempt where
  attempt : UInt32
  statement : Statement
  outcome : Outcome
deriving DecidableEq

structure InsertRun where
  attempts : List InsertAttempt
  returned : Bool
  loader : Loader

/-- `insert_row_with_retry`. The row is not bound to the statement. -/
def Loader.insertRowWithRetry (m : Loader) (target : ℕ → Statement → Outcome)
    (insertQuery _jsonRow : String) (maxRetries : UInt32) : InsertRun :=
  let statement := Statement.ofCql insertQuery
  let loop := retry what (fun i => target i statement) maxRetries
  let attempts := loop.attempts.map fun a => ⟨a.1, statement, a.2⟩
  match loop.exit with
  | .succeeded => ⟨attempts, true, m.fetchAdd .migratedRows⟩
  | .gaveUp _ => ⟨attempts, false, m.fetchAdd .failedRows⟩
  | .ranOut => ⟨attempts, false, m⟩

/-! ## `process_range_sync` -/

/-- The fetch of one page: its executions on the source, and `page_ok` or what is thrown. -/
structure PageFetch where
  attempts : List (UInt32 × Outcome)
  result : Except String Bool

def pageFetchError (pageNum : ℕ) (pageRetryAttempts : UInt32) (e : String) : String :=
  databaseError ("Page " ++ toString pageNum ++ " fetch failed after " ++
    toString pageRetryAttempts.toNat ++ " retries: " ++ e)

def fetchPage (source : ℕ → Outcome) (pageNum : ℕ) (pageRetryAttempts : UInt32) : PageFetch :=
  let loop := retry what source pageRetryAttempts
  match loop.exit with
  | .succeeded => ⟨loop.attempts, .ok true⟩
  | .gaveUp e => ⟨loop.attempts, .error (pageFetchError pageNum pageRetryAttempts e)⟩
  | .ranOut => ⟨loop.attempts, .ok false⟩

/-- `process_range_sync`: how it ends, and what it has counted. -/
def processRangeSync (cfg : LoaderConfig) (pageRetryAttempts : UInt32) (source : ℕ → Outcome)
    (m : Loader) : Outcome × Loader :=
  if cfg.enablePagination then
    -- `has_more_pages` is cleared after the first page, and a page that is not ok ends the loop
    match (fetchPage source 0 pageRetryAttempts).result with
    | .ok _ => (.ok, m)
    | .error e => (.syncError e, m)
  else
    match source 0 with
    | .ok => (.ok, m)
    | .syncError e => (.syncError e, (m.fetchAdd .failedRows).fetchAdd .skippedRanges)

/-- The body of a worker of `migrate_table`. -/
def rangeWorker (cfg : LoaderConfig) (pageRetryAttempts : UInt32) (source : ℕ → Outcome)
    (m : Loader) : Loader :=
  match processRangeSync cfg pageRetryAttempts source m with
  | (.ok, m) => m
  | (.syncError _, m) => m.fetchAdd .skippedRanges

/-- What a worker counts is decided by how `process_range_sync` ends. -/
theorem rangeWorker_eq (cfg : LoaderConfig) (pageRetryAttempts : UInt32) (source : ℕ → Outcome)
    (m : Loader) : rangeWorker cfg pageRetryAttempts source m =
      processRange cfg m (processRangeSync cfg pageRetryAttempts source m).1 := by
  unfold rangeWorker processRangeSync processRange
  cases hpaged : cfg.enablePagination with
  | true =>
    simp only [if_true]
    cases (fetchPage source 0 pageRetryAttempts).result <;> rfl
  | false =>
    simp only [Bool.false_eq_true, if_false]
    cases source 0 <;> rfl

end SSTableLoader
end ScyllaClusterSync
