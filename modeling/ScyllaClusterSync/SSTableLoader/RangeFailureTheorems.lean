import ScyllaClusterSync.SSTableLoader.TableCountersTheorems

/-!
# How often a failed range is counted

The paged path of `process_range_sync` leaves a failure to the worker's handler, the unpaged
one counts it before it rethrows, and the handler counts it again. So `skipped_ranges_` is
the number of failures or twice that, by `enable_pagination` alone.
-/

namespace ScyllaClusterSync
namespace SSTableLoader

open Svckit Lib

variable {cfg : LoaderConfig} {i : ℕ} {h : List Action}

/-- The table and the range of a failed `process_range_sync`. -/
def CallAction.failedPair : CallAction → Option (String × TokenRange)
  | .table (.processRange t range (.syncError _)) => some (t, range)
  | _ => none

/-- The tables and ranges for which `process_range_sync` threw in call `i`. -/
def failedPairs (i : ℕ) (h : List Action) : List (String × TokenRange) :=
  (Pool.stepsOf i h).filterMap CallAction.failedPair

/-- How often one failure is counted. -/
def countsPerFailure (cfg : LoaderConfig) : ℕ := if cfg.enablePagination then 1 else 2

theorem eventCount_skippedRanges (a : CallAction) :
    eventCount cfg a .skippedRanges = countsPerFailure cfg * (a.failedPair.toList).length := by
  cases a with
  | table b =>
    cases b with
    | processRange table range o =>
      cases o with
      | ok => rfl
      | syncError e => exact (Nat.mul_one _).symm
    | _ => rfl
  | _ => rfl

/-- Every failure of the call is counted that often. -/
theorem ownEvents_skippedRanges :
    ownEvents cfg i h .skippedRanges = countsPerFailure cfg * (failedPairs i h).length := by
  unfold ownEvents failedPairs
  induction Pool.stepsOf i h with
  | nil => rfl
  | cons a steps ih =>
    rw [List.map_cons, List.sum_cons, ih, eventCount_skippedRanges, ← Nat.mul_add]
    congr 1
    rw [List.filterMap_cons]
    cases a.failedPair with
    | none => exact Nat.zero_add _
    | some pair => exact Nat.add_comm 1 _

theorem skippedRanges_of_returned {filter : Option SSTableBlacklistGovernor} {p : State} {c : Call}
    {keyspaceFilter : List String} {stats : MigrationStats}
    (hmeets : Meets (Pool.step (program cfg)) GuardOutsideWindows [] (initial filter) h)
    (hrun : runs cfg filter h = some p) (hc : p.threads[i]? = some c)
    (hrequest : c.request = .startMigration keyspaceFilter) (hpc : c.pc = .returned stats) :
    stats.counters.skippedRanges = countsPerFailure cfg * (failedPairs i h).length := by
  obtain ⟨found, _, ht⟩ := tally_of_returned hmeets hrun hc hpc
  have hskipped := ht.counted .skippedRanges (by decide)
  -- the setup of `start_migration` stored a zero
  rw [hrequest, ownEvents_skippedRanges] at hskipped
  have hzero : (storeAll found (setupStores (.startMigration keyspaceFilter))).get .skippedRanges =
      0 := rfl
  rw [hzero, Nat.zero_add] at hskipped
  exact hskipped

/-- In every run with one migration at a time, for every `start_migration` that has returned:
`skipped_ranges_` is the number of the failures of `process_range_sync` in it exactly when
they were paged or there were none, and the number of the pairs of a table and a range that
failed exactly when they were paged and none failed twice, or there were none. -/
theorem failed_ranges_counted_iff (cfg : LoaderConfig) (filter : Option SSTableBlacklistGovernor)
    (h : List Action) (p : State) (i : ℕ) (c : Call) (keyspaceFilter : List String)
    (stats : MigrationStats)
    (hmeets : Meets (Pool.step (program cfg)) GuardOutsideWindows [] (initial filter) h)
    (hrun : runs cfg filter h = some p) (hc : p.threads[i]? = some c)
    (hrequest : c.request = .startMigration keyspaceFilter) (hpc : c.pc = .returned stats) :
    (stats.counters.skippedRanges = (failedPairs i h).length ↔
      cfg.enablePagination = true ∨ failedPairs i h = []) ∧
    (stats.counters.skippedRanges = (failedPairs i h).toFinset.card ↔
      (cfg.enablePagination = true ∧ (failedPairs i h).Nodup) ∨ failedPairs i h = []) := by
  have hskipped := skippedRanges_of_returned hmeets hrun hc hrequest hpc
  have hempty : (failedPairs i h).length = 0 ↔ failedPairs i h = [] := List.length_eq_zero_iff
  -- as many different pairs as failures: no pair failed twice
  have hcard : (failedPairs i h).toFinset.card = (failedPairs i h).length ↔
      (failedPairs i h).Nodup := Multiset.toFinset_card_eq_card_iff_nodup
  have hle := List.toFinset_card_le (failedPairs i h)
  rw [← hempty, ← hcard]
  cases hpaged : cfg.enablePagination with
  | true =>
    have hone : countsPerFailure cfg = 1 := if_pos hpaged
    rw [hone, Nat.one_mul] at hskipped
    simp only [true_and, true_or, iff_true]
    omega
  | false =>
    have htwo : countsPerFailure cfg = 2 := by
      rw [countsPerFailure, hpaged]
      rfl
    rw [htwo] at hskipped
    simp only [Bool.false_eq_true, false_and, false_or]
    omega

/-- A migration of one table, in which the query of one range times out. -/
def oneRangeTimesOut : List Action :=
  .spawn (.startMigration []) ::
    (startUp ++ [CallAction.selectTables, CallAction.tableHead true, CallAction.shouldSkipTable] ++
      (oneBatch fun k => if k = 3 then .syncError "timeout" else .ok).map CallAction.table ++
      [CallAction.countCompleted "app.files", CallAction.leaveTables, CallAction.clearRunning,
        CallAction.finish]).map (PoolAction.act 0)

/-- What it returns, unpaged. -/
def oneRangeTimesOutStats : MigrationStats where
  counters := { failedRows := 1, tablesCompleted := 1, tablesTotal := 1, skippedRanges := 2 }
  isRunning := false
  isPaused := false

theorem exists_oneRangeTimesOut : ∃ p, runs oneTable none oneRangeTimesOut = some p ∧
    p.threads = [{ request := .startMigration [], pc := .returned oneRangeTimesOutStats }] := by
  have hthreads : (runs oneTable none oneRangeTimesOut).map (·.threads) =
      some [{ request := .startMigration [], pc := .returned oneRangeTimesOutStats }] := by
    decide +kernel
  exact Option.map_eq_some_iff.mp hthreads

theorem meets_oneRangeTimesOut : Meets (Pool.step (program oneTable)) GuardOutsideWindows []
    (initial none) oneRangeTimesOut := by
  obtain ⟨p, hrun, _⟩ := exists_oneRangeTimesOut
  exact meets_of_one_migration hrun (by decide)

theorem failed_ranges_counted_iff_oneRangeTimesOut :
    (oneRangeTimesOutStats.counters.skippedRanges = (failedPairs 0 oneRangeTimesOut).length ↔
      oneTable.enablePagination = true ∨ failedPairs 0 oneRangeTimesOut = []) ∧
    (oneRangeTimesOutStats.counters.skippedRanges =
        (failedPairs 0 oneRangeTimesOut).toFinset.card ↔
      (oneTable.enablePagination = true ∧ (failedPairs 0 oneRangeTimesOut).Nodup) ∨
        failedPairs 0 oneRangeTimesOut = []) := by
  obtain ⟨p, hrun, hthreads⟩ := exists_oneRangeTimesOut
  exact failed_ranges_counted_iff oneTable none oneRangeTimesOut p 0 _ [] oneRangeTimesOutStats
    meets_oneRangeTimesOut hrun (by rw [hthreads]; rfl) rfl rfl

/-- One range has failed, and the unpaged path counts two. -/
theorem failed_range_counted_twice :
    ¬ ∀ (cfg : LoaderConfig) (filter : Option SSTableBlacklistGovernor) (h : List Action)
      (p : State) (i : ℕ) (c : Call) (keyspaceFilter : List String) (stats : MigrationStats),
      Meets (Pool.step (program cfg)) GuardOutsideWindows [] (initial filter) h →
      runs cfg filter h = some p → p.threads[i]? = some c →
      c.request = .startMigration keyspaceFilter → c.pc = .returned stats →
      stats.counters.skippedRanges = (failedPairs i h).toFinset.card := by
  intro hall
  obtain ⟨p, hrun, hthreads⟩ := exists_oneRangeTimesOut
  have hcounted := hall oneTable none oneRangeTimesOut p 0 _ [] oneRangeTimesOutStats
    meets_oneRangeTimesOut hrun (by rw [hthreads]; rfl) rfl rfl
  have hpairs : failedPairs 0 oneRangeTimesOut = [("app.files", tokenRange 8 3)] := by
    decide +kernel
  rw [hpairs] at hcounted
  exact absurd hcounted (by decide)

end SSTableLoader
end ScyllaClusterSync
