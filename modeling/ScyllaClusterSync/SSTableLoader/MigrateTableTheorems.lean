import ScyllaClusterSync.SSTableLoader.MigrateTable

/-!
# What `migrate_table` has done when it returns

One inversion lemma for each step, then `BatchInv`: the ranges handed to
`process_range_sync` so far, together with the ranges whose worker is still running, are
the first ones of the list. It holds after every step, so that a call that returns has
processed every range once, unless a loop head found `is_running_` cleared.
-/

namespace ScyllaClusterSync
namespace SSTableLoader

open Svckit

variable {cfg : LoaderConfig} {m m' : Loader} {r r' : TableRun}

/-! ## Inversion of the steps -/

theorem step_resolvePartitionKeys {schema : Outcome}
    (h : migrateTableStep cfg m r (.resolvePartitionKeys schema) = some (m', r')) :
    r.stage = .partitionKeys ∧ m' = m ∧ r' = { r with
      partitionKeys := resolvePartitionKeys r.table schema
      stage := .ranges } := by
  simp only [migrateTableStep, Option.ite_none_right_eq_some, Option.some.injEq,
    Prod.mk.injEq] at h
  exact ⟨h.1, h.2.1.symm, h.2.2.symm⟩

theorem step_calculateRanges {peers : Outcome}
    (h : migrateTableStep cfg m r (.calculateRanges peers) = some (m', r')) :
    r.stage = .ranges ∧ m' = m ∧
      ((∃ ranges, calculateRanges peers cfg.numRangesPerCore = some ranges ∧
        r' = { r with ranges := ranges, stage := .loopHead }) ∨
        r' = { r with stage := .dividedByZero }) := by
  simp only [migrateTableStep, Option.ite_none_right_eq_some] at h
  obtain ⟨hstage, h⟩ := h
  split at h
  next ranges hranges =>
    simp only [Option.some.injEq, Prod.mk.injEq] at h
    exact ⟨hstage, h.1.symm, Or.inl ⟨ranges, hranges, h.2.symm⟩⟩
  next =>
    simp only [Option.some.injEq, Prod.mk.injEq] at h
    exact ⟨hstage, h.1.symm, Or.inr h.2.symm⟩

theorem step_leaveLoop (h : migrateTableStep cfg m r .leaveLoop = some (m', r')) :
    r.stage = .loopHead ∧ r.ranges.length ≤ r.batchStart ∧ m' = m ∧
      r' = { r with stage := .returned } := by
  simp only [migrateTableStep, Option.ite_none_right_eq_some, Option.some.injEq,
    Prod.mk.injEq] at h
  exact ⟨h.1.1, h.1.2, h.2.1.symm, h.2.2.symm⟩

theorem step_batchHead {running : Bool}
    (h : migrateTableStep cfg m r (.batchHead running) = some (m', r')) :
    r.stage = .loopHead ∧ r.batchStart < r.ranges.length ∧ m.isRunning = running ∧ m' = m ∧
      r' = { r with stage := if running then .pauseGate else .returned } := by
  simp only [migrateTableStep, Option.ite_none_right_eq_some, Option.some.injEq,
    Prod.mk.injEq] at h
  exact ⟨h.1.1, h.1.2.1, h.1.2.2, h.2.1.symm, h.2.2.symm⟩

theorem step_loadPaused {paused : Bool}
    (h : migrateTableStep cfg m r (.loadPaused paused) = some (m', r')) :
    r.stage = .pauseGate ∧ m.isPaused = paused ∧ m' = m ∧
      r' = if paused then { r with stage := .pauseCheck } else r.enterBatch := by
  simp only [migrateTableStep, Option.ite_none_right_eq_some, Option.some.injEq,
    Prod.mk.injEq] at h
  exact ⟨h.1.1, h.1.2, h.2.1.symm, h.2.2.symm⟩

theorem step_pauseCheck {running : Bool}
    (h : migrateTableStep cfg m r (.pauseCheck running) = some (m', r')) :
    r.stage = .pauseCheck ∧ m.isRunning = running ∧ m' = m ∧
      r' = if running then { r with stage := .pauseGate } else r.enterBatch := by
  simp only [migrateTableStep, Option.ite_none_right_eq_some, Option.some.injEq,
    Prod.mk.injEq] at h
  exact ⟨h.1.1, h.1.2, h.2.1.symm, h.2.2.symm⟩

theorem step_startWorker (h : migrateTableStep cfg m r .startWorker = some (m', r')) :
    r.stage = .batch ∧ r.next < r.batchEnd cfg ∧ m' = m ∧ r' = { r with
      workers := r.workers ++ r.ranges[r.next]?.toList
      next := r.next + 1 } := by
  simp only [migrateTableStep, Option.ite_none_right_eq_some, Option.some.injEq,
    Prod.mk.injEq] at h
  exact ⟨h.1.1, h.1.2, h.2.1.symm, h.2.2.symm⟩

theorem step_startWorkerFails (h : migrateTableStep cfg m r .startWorkerFails = some (m', r')) :
    r.stage = .batch ∧ m' = m ∧ r' = { r with stage := .unwind } := by
  simp only [migrateTableStep, Option.ite_none_right_eq_some, Option.some.injEq,
    Prod.mk.injEq] at h
  exact ⟨h.1.1, h.2.1.symm, h.2.2.symm⟩

theorem step_processRange {table : String} {range : TokenRange} {o : Outcome}
    (h : migrateTableStep cfg m r (.processRange table range o) = some (m', r')) :
    (r.stage = .batch ∨ r.stage = .unwind) ∧ table = r.table.name ∧ range ∈ r.workers ∧
      m' = processRange cfg m o ∧ r' = { r with workers := r.workers.erase range } := by
  simp only [migrateTableStep, Option.ite_none_right_eq_some, Option.some.injEq,
    Prod.mk.injEq] at h
  exact ⟨h.1.1, h.1.2.1, h.1.2.2, h.2.1.symm, h.2.2.symm⟩

theorem step_join (h : migrateTableStep cfg m r .join = some (m', r')) :
    r.stage = .batch ∧ r.next = r.batchEnd cfg ∧ r.workers = [] ∧ m' = m ∧ r' = { r with
      batchStart := r.batchStart + cfg.maxConcurrentLoaders.toNat
      stage := .loopHead } := by
  simp only [migrateTableStep, Option.ite_none_right_eq_some, Option.some.injEq,
    Prod.mk.injEq] at h
  exact ⟨h.1.1, h.1.2.1, h.1.2.2, h.2.1.symm, h.2.2.symm⟩

theorem step_rethrow (h : migrateTableStep cfg m r .rethrow = some (m', r')) :
    r.stage = .unwind ∧ m' = m ∧ r' = { r with stage := .threw } := by
  simp only [migrateTableStep, Option.ite_none_right_eq_some, Option.some.injEq,
    Prod.mk.injEq] at h
  exact ⟨h.1.1, h.2.1.symm, h.2.2.symm⟩

/-- A step before the loop is the one that the stage names. -/
theorem action_of_partitionKeys {a : TableAction} (hstage : r.stage = .partitionKeys)
    (hstep : migrateTableStep cfg m r a = some (m', r')) :
    ∃ schema, a = .resolvePartitionKeys schema := by
  cases a with
  | resolvePartitionKeys schema => exact ⟨schema, rfl⟩
  | _ => simp [migrateTableStep, hstage] at hstep

theorem action_of_ranges {a : TableAction} (hstage : r.stage = .ranges)
    (hstep : migrateTableStep cfg m r a = some (m', r')) : ∃ peers, a = .calculateRanges peers := by
  cases a with
  | calculateRanges peers => exact ⟨peers, rfl⟩
  | _ => simp [migrateTableStep, hstage] at hstep

/-! ## What no step changes -/

theorem processRange_frame (cfg : LoaderConfig) (m : Loader) (o : Outcome) :
    (processRange cfg m o).isRunning = m.isRunning ∧
      (processRange cfg m o).isPaused = m.isPaused ∧
      (processRange cfg m o).filter = m.filter := by
  cases o with
  | ok => exact ⟨rfl, rfl, rfl⟩
  | syncError e =>
    unfold processRange
    split_ifs <;> exact ⟨rfl, rfl, rfl⟩

/-- A failed range is counted. -/
theorem skippedRanges_processRange (cfg : LoaderConfig) (m : Loader) (e : String) :
    m.counters.skippedRanges < (processRange cfg m (.syncError e)).counters.skippedRanges := by
  show m.counters.get .skippedRanges < (processRange cfg m (.syncError e)).counters.get .skippedRanges
  unfold processRange
  split_ifs
  · rw [Loader.get_fetchAdd, if_pos rfl]
    omega
  · rw [Loader.get_fetchAdd, if_pos rfl, Loader.get_fetchAdd, if_pos rfl, Loader.get_fetchAdd,
      if_neg (by decide)]
    omega

/-- `migrate_table` writes neither flag nor the governor, and stays with its table. -/
theorem migrateTableStep_frame {a : TableAction} (h : migrateTableStep cfg m r a = some (m', r')) :
    m'.isRunning = m.isRunning ∧ m'.isPaused = m.isPaused ∧ m'.filter = m.filter ∧
      r'.table = r.table := by
  cases a with
  | resolvePartitionKeys schema =>
    obtain ⟨_, hm, hr⟩ := step_resolvePartitionKeys h
    rw [hm, hr]; exact ⟨rfl, rfl, rfl, rfl⟩
  | calculateRanges peers =>
    obtain ⟨_, hm, hr⟩ := step_calculateRanges h
    rcases hr with ⟨ranges, _, hr⟩ | hr <;> rw [hm, hr] <;> exact ⟨rfl, rfl, rfl, rfl⟩
  | leaveLoop =>
    obtain ⟨_, _, hm, hr⟩ := step_leaveLoop h
    rw [hm, hr]; exact ⟨rfl, rfl, rfl, rfl⟩
  | batchHead running =>
    obtain ⟨_, _, _, hm, hr⟩ := step_batchHead h
    rw [hm, hr]; exact ⟨rfl, rfl, rfl, rfl⟩
  | loadPaused paused =>
    obtain ⟨_, _, hm, hr⟩ := step_loadPaused h
    rw [hm, hr]
    cases paused <;> exact ⟨rfl, rfl, rfl, rfl⟩
  | pauseCheck running =>
    obtain ⟨_, _, hm, hr⟩ := step_pauseCheck h
    rw [hm, hr]
    cases running <;> exact ⟨rfl, rfl, rfl, rfl⟩
  | startWorker =>
    obtain ⟨_, _, hm, hr⟩ := step_startWorker h
    rw [hm, hr]; exact ⟨rfl, rfl, rfl, rfl⟩
  | startWorkerFails =>
    obtain ⟨_, hm, hr⟩ := step_startWorkerFails h
    rw [hm, hr]; exact ⟨rfl, rfl, rfl, rfl⟩
  | processRange table range o =>
    obtain ⟨_, _, _, hm, hr⟩ := step_processRange h
    obtain ⟨hrunning, hpaused, hfilter⟩ := processRange_frame cfg m o
    rw [hm, hr]; exact ⟨hrunning, hpaused, hfilter, rfl⟩
  | join =>
    obtain ⟨_, _, _, hm, hr⟩ := step_join h
    rw [hm, hr]; exact ⟨rfl, rfl, rfl, rfl⟩
  | rethrow =>
    obtain ⟨_, hm, hr⟩ := step_rethrow h
    rw [hm, hr]; exact ⟨rfl, rfl, rfl, rfl⟩

/-! ## The batch loop -/

/-- The ranges of the table that were handed to `process_range_sync`. -/
def processed (table : String) (log : List TableAction) : List TokenRange :=
  log.filterMap fun
    | .processRange t range _ => if t = table then some range else none
    | _ => none

/-- The ranges processed and in process are the first ones of the list. -/
def BatchInv (log : List TableAction) (cfg : LoaderConfig) (r : TableRun) : Prop :=
  match r.stage with
  | .loopHead =>
    r.workers = [] ∧ (processed r.table.name log).Perm (r.ranges.take r.batchStart)
  | .pauseGate | .pauseCheck =>
    r.workers = [] ∧ r.batchStart < r.ranges.length ∧
      (processed r.table.name log).Perm (r.ranges.take r.batchStart)
  | .batch =>
    r.next ≤ r.batchEnd cfg ∧
      (processed r.table.name log ++ r.workers).Perm (r.ranges.take r.next)
  | .returned => .batchHead false ∈ log ∨ (processed r.table.name log).Perm r.ranges
  | _ => True

variable {log : List TableAction}

@[simp] theorem processed_nil (table : String) : processed table [] = [] := rfl

theorem processed_concat {table : String} {a : TableAction}
    (ha : ∀ t range o, a ≠ .processRange t range o) :
    processed table (log ++ [a]) = processed table log := by
  unfold processed
  rw [List.filterMap_append]
  cases a with
  | processRange t range o => exact absurd rfl (ha t range o)
  | _ => exact List.append_nil _

theorem processed_concat_self {table : String} {range : TokenRange} {o : Outcome} :
    processed table (log ++ [.processRange table range o]) = processed table log ++ [range] := by
  unfold processed
  rw [List.filterMap_append]
  simp

/-- At the start of the batch loop nothing has been processed. -/
theorem batchInv_ranges (cfg : LoaderConfig) (hr : r.stage = .loopHead) (hw : r.workers = [])
    (hb : r.batchStart = 0) : BatchInv [] cfg r := by
  unfold BatchInv
  rw [hr]
  simp [hw, hb]

theorem BatchInv.enter (hinv : r.workers = [] ∧ r.batchStart < r.ranges.length ∧
    (processed r.table.name log).Perm (r.ranges.take r.batchStart)) :
    BatchInv log cfg r.enterBatch := by
  obtain ⟨hworkers, hlt, hperm⟩ := hinv
  show r.batchStart ≤ min (r.batchStart + cfg.maxConcurrentLoaders.toNat) r.ranges.length ∧
    (processed r.table.name log ++ r.workers).Perm (r.ranges.take r.batchStart)
  refine ⟨by omega, ?_⟩
  rwa [hworkers, List.append_nil]

/-- Every step of the loop keeps the invariant. -/
theorem BatchInv.step {a : TableAction} (hinv : BatchInv log cfg r)
    (ha : ∀ peers, a ≠ .calculateRanges peers)
    (h : migrateTableStep cfg m r a = some (m', r')) : BatchInv (log ++ [a]) cfg r' := by
  unfold BatchInv at hinv
  cases a with
  | resolvePartitionKeys schema =>
    rw [(step_resolvePartitionKeys h).2.2]
    trivial
  | calculateRanges peers => exact absurd rfl (ha peers)
  | leaveLoop =>
    obtain ⟨hstage, hle, _, hr⟩ := step_leaveLoop h
    rw [hstage] at hinv
    rw [hr]
    -- the loop ends when the start of the batch has passed the last range
    refine Or.inr ?_
    rw [processed_concat (by simp)]
    simpa only [List.take_of_length_le hle] using hinv.2
  | batchHead running =>
    obtain ⟨hstage, hlt, _, _, hr⟩ := step_batchHead h
    rw [hstage] at hinv
    rw [hr]
    cases running with
    -- `is_running_` is clear: the rest of the list is given up
    | false => exact Or.inl (List.mem_append_right _ List.mem_cons_self)
    | true =>
      refine ⟨hinv.1, hlt, ?_⟩
      rw [processed_concat (by simp)]
      exact hinv.2
  | loadPaused paused =>
    obtain ⟨hstage, _, _, hr⟩ := step_loadPaused h
    rw [hstage, ← @processed_concat log r.table.name (.loadPaused paused) (by simp)] at hinv
    rw [hr]
    cases paused with
    | false => exact BatchInv.enter hinv
    | true => exact hinv
  | pauseCheck running =>
    obtain ⟨hstage, _, _, hr⟩ := step_pauseCheck h
    rw [hstage, ← @processed_concat log r.table.name (.pauseCheck running) (by simp)] at hinv
    rw [hr]
    cases running with
    | false => exact BatchInv.enter hinv
    | true => exact hinv
  | startWorker =>
    obtain ⟨hstage, hlt, _, hr⟩ := step_startWorker h
    rw [hstage] at hinv
    obtain ⟨_, hperm⟩ := hinv
    rw [hr]
    unfold BatchInv
    simp only [hstage]
    refine ⟨hlt, ?_⟩
    -- the worker gets the next range of the list
    rw [processed_concat (by simp), List.take_add_one, ← List.append_assoc]
    exact hperm.append_right _
  | startWorkerFails =>
    rw [(step_startWorkerFails h).2.2]
    trivial
  | processRange table range o =>
    obtain ⟨hstage, htable, hmem, _, hr⟩ := step_processRange h
    rw [hr]
    unfold BatchInv
    rcases hstage with hstage | hstage
    · rw [hstage] at hinv
      simp only [hstage]
      refine ⟨hinv.1, ?_⟩
      rw [htable, processed_concat_self, List.append_assoc]
      -- the workers finish in any order, so the list is only kept up to permutation
      exact ((List.perm_cons_erase hmem).symm.append_left _).trans hinv.2
    · simp only [hstage]
  | join =>
    obtain ⟨hstage, hnext, hworkers, _, hr⟩ := step_join h
    rw [hstage] at hinv
    have hperm := hinv.2
    -- all workers of the batch have finished, and the batch ended at its end or at that of the list
    rw [hworkers, List.append_nil, hnext, TableRun.batchEnd, ← List.take_eq_take_min] at hperm
    rw [hr]
    refine ⟨hworkers, ?_⟩
    rw [processed_concat (by simp)]
    exact hperm
  | rethrow =>
    rw [(step_rethrow h).2.2]
    trivial

end SSTableLoader
end ScyllaClusterSync
