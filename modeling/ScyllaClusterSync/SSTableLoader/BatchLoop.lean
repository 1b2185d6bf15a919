import ScyllaClusterSync.SSTableLoader.CompletionTheorems

/-!
# The batch loop of `migrate_table` and what interrupts it

The loop of one `migrate_table` call for any list of ranges, with `stop`, `pause`,
`resume` and `reload_config` between any two of its steps. No further migration is started
on the same loader meanwhile: a start that sets `is_running_` again while a stopped call is
still at work is a matter of several calls, and not of this loop.

* `batch` is what one iteration dispatches, `batchesBegun` counts the iterations;
* `stepsLeft` bounds what the loop has still to do, waiting at the pause gate apart;
* `exists_step`: until the loop has ended there is a next step.
-/

namespace ScyllaClusterSync
namespace SSTableLoader

open Svckit Lib

/-! ## The loop and its environment -/

/-- A step of the loop, or one of the control functions in between. -/
inductive LoopAction where
  | table (a : TableAction)
  | control (e : EnvAction)
deriving DecidableEq, Repr

def loopStep (cfg : LoaderConfig) (s : Loader × TableRun) :
    LoopAction → Option (Loader × TableRun)
  | .table a => migrateTableStep cfg s.1 s.2 a
  | .control e => some (envStep s.1 e, s.2)

/-- `migrate_table` in front of its first loop head. -/
def TableRun.atLoop (table : TableConfig) (partitionKeys : List String)
    (ranges : List TokenRange) : TableRun where
  table := table
  stage := .loopHead
  partitionKeys := partitionKeys
  ranges := ranges

/-- The steps of the loop itself. -/
def tableSteps (log : List LoopAction) : List TableAction :=
  log.filterMap fun
    | .table a => some a
    | .control _ => none

/-- The loop heads that found `is_running_` set, one for each batch that was begun. -/
def batchesBegun (steps : List TableAction) : ℕ := steps.count (.batchHead true)

/-- The ranges with index from `batch_start` to `batch_end` in the `k`-th iteration. -/
def batch (cfg : LoaderConfig) (ranges : List TokenRange) (k : ℕ) : List TokenRange :=
  (ranges.drop (k * cfg.maxConcurrentLoaders.toNat)).take cfg.maxConcurrentLoaders.toNat

variable {cfg : LoaderConfig} {ranges : List TokenRange} {m m' : Loader} {r r' : TableRun}
  {steps : List TableAction}

theorem tableSteps_append (log log' : List LoopAction) :
    tableSteps (log ++ log') = tableSteps log ++ tableSteps log' := List.filterMap_append

theorem tableSteps_concat_table (log : List LoopAction) (a : TableAction) :
    tableSteps (log ++ [.table a]) = tableSteps log ++ [a] := tableSteps_append log _

theorem tableSteps_concat_control (log : List LoopAction) (e : EnvAction) :
    tableSteps (log ++ [.control e]) = tableSteps log := by
  rw [tableSteps_append]
  exact List.append_nil _

theorem mem_tableSteps {log : List LoopAction} {a : TableAction} :
    a ∈ tableSteps log ↔ .table a ∈ log := by
  unfold tableSteps
  rw [List.mem_filterMap]
  constructor
  · rintro ⟨b, hb, heq⟩
    cases b with
    | table a' => rwa [← Option.some.inj heq]
    | control e => simp at heq
  · intro ha
    exact ⟨_, ha, rfl⟩

theorem batchesBegun_concat (a : TableAction) :
    batchesBegun (steps ++ [a]) = batchesBegun steps + if a = .batchHead true then 1 else 0 := by
  rw [batchesBegun, List.count_append, List.count_singleton]
  simp only [beq_iff_eq]
  rfl

theorem batchesBegun_concat_of_ne {a : TableAction} (ha : a ≠ .batchHead true) :
    batchesBegun (steps ++ [a]) = batchesBegun steps := by
  rw [batchesBegun_concat, if_neg ha]
  rfl

/-- The first `k` batches are the first ranges of the list. -/
theorem flatMap_batch (cfg : LoaderConfig) (ranges : List TokenRange) (k : ℕ) :
    (List.range k).flatMap (batch cfg ranges) =
      ranges.take (k * cfg.maxConcurrentLoaders.toNat) := by
  induction k with
  | zero => simp
  | succ k ih =>
    rw [List.range_succ, List.flatMap_append, ih, Nat.add_mul, Nat.one_mul, List.take_add]
    simp [batch]

theorem length_batch_le (cfg : LoaderConfig) (ranges : List TokenRange) (k : ℕ) :
    (batch cfg ranges k).length ≤ cfg.maxConcurrentLoaders.toNat :=
  List.length_take_le _ _

/-! ## The loop goes on until it has ended -/

/-- There is a next step in every stage of the loop but the two it ends in. -/
theorem exists_step (hinv : BatchInv steps cfg r) (hknown : r.stage.hasRanges) (m : Loader) :
    r.stage = .returned ∨ r.stage = .threw ∨
      ∃ a m' r', migrateTableStep cfg m r a = some (m', r') := by
  unfold BatchInv at hinv
  cases hstage : r.stage with
  | partitionKeys | ranges | dividedByZero =>
    -- the stages before the loop
    rw [hstage] at hknown
    exact absurd hknown (by decide)
  | returned => exact Or.inl rfl
  | threw => exact Or.inr (Or.inl rfl)
  | loopHead =>
    refine Or.inr (Or.inr ?_)
    by_cases hend : r.ranges.length ≤ r.batchStart
    · exact ⟨.leaveLoop, _, _, if_pos ⟨hstage, hend⟩⟩
    · exact ⟨.batchHead m.isRunning, _, _, if_pos ⟨hstage, Nat.lt_of_not_le hend, rfl⟩⟩
  | pauseGate => exact Or.inr (Or.inr ⟨.loadPaused m.isPaused, _, _, if_pos ⟨hstage, rfl⟩⟩)
  | pauseCheck => exact Or.inr (Or.inr ⟨.pauseCheck m.isRunning, _, _, if_pos ⟨hstage, rfl⟩⟩)
  | batch =>
    rw [hstage] at hinv
    refine Or.inr (Or.inr ?_)
    by_cases hnext : r.next < r.batchEnd cfg
    -- all workers of the batch are started before the first one is joined
    · exact ⟨.startWorker, _, _, if_pos ⟨hstage, hnext⟩⟩
    · have hend : r.next = r.batchEnd cfg := Nat.le_antisymm hinv.1 (Nat.le_of_not_lt hnext)
      cases hworkers : r.workers with
      | nil => exact ⟨.join, _, _, if_pos ⟨hstage, hend, hworkers⟩⟩
      | cons range rest =>
        have hmem : range ∈ r.workers := by rw [hworkers]; exact List.mem_cons_self
        exact ⟨.processRange r.table.name range .ok, _, _, if_pos ⟨Or.inl hstage, rfl, hmem⟩⟩
  | unwind =>
    refine Or.inr (Or.inr ?_)
    cases hworkers : r.workers with
    | nil => exact ⟨.rethrow, _, _, if_pos ⟨hstage, hworkers⟩⟩
    | cons range rest =>
      have hmem : range ∈ r.workers := by rw [hworkers]; exact List.mem_cons_self
      exact ⟨.processRange r.table.name range .ok, _, _, if_pos ⟨Or.inr hstage, rfl, hmem⟩⟩

/-- A round of the pause gate that ends at the gate again. -/
def TableAction.waits : TableAction → Bool
  | .loadPaused true => true
  | .pauseCheck true => true
  | _ => false

/-- No run of the loop has more steps left than this, rounds of the pause gate apart. -/
def TableRun.stepsLeft (r : TableRun) (cfg : LoaderConfig) : ℕ :=
  match r.stage with
  | .loopHead => 5 * (r.ranges.length - r.batchStart) + 1
  | .pauseGate | .pauseCheck => 5 * (r.ranges.length - r.batchStart)
  | .batch =>
    2 * (r.batchEnd cfg - r.next) + r.workers.length + 5 * (r.ranges.length - r.batchEnd cfg) + 2
  | .unwind => r.workers.length + 1
  | _ => 0

theorem stepsLeft_loopHead (hstage : r.stage = .loopHead) :
    r.stepsLeft cfg = 5 * (r.ranges.length - r.batchStart) + 1 := by
  rw [TableRun.stepsLeft, hstage]

theorem stepsLeft_gate (hstage : r.stage = .pauseGate ∨ r.stage = .pauseCheck) :
    r.stepsLeft cfg = 5 * (r.ranges.length - r.batchStart) := by
  rcases hstage with hstage | hstage <;> rw [TableRun.stepsLeft, hstage]

theorem stepsLeft_batch (hstage : r.stage = .batch) :
    r.stepsLeft cfg = 2 * (r.batchEnd cfg - r.next) + r.workers.length +
      5 * (r.ranges.length - r.batchEnd cfg) + 2 := by
  rw [TableRun.stepsLeft, hstage]

theorem stepsLeft_unwind (hstage : r.stage = .unwind) :
    r.stepsLeft cfg = r.workers.length + 1 := by
  rw [TableRun.stepsLeft, hstage]

theorem stepsLeft_ended (hstage : r.stage = .returned ∨ r.stage = .threw) :
    r.stepsLeft cfg = 0 := by
  rcases hstage with hstage | hstage <;> rw [TableRun.stepsLeft, hstage]

/-- A batch that is begun has a range in it, so that leaving the gate is progress. -/
theorem stepsLeft_enterBatch (hcfg : 1 ≤ cfg.maxConcurrentLoaders.toNat) (hworkers : r.workers = [])
    (hlt : r.batchStart < r.ranges.length) :
    r.enterBatch.stepsLeft cfg + 1 ≤ 5 * (r.ranges.length - r.batchStart) := by
  show 2 * (r.batchEnd cfg - r.batchStart) + r.workers.length +
    5 * (r.ranges.length - r.batchEnd cfg) + 2 + 1 ≤ 5 * (r.ranges.length - r.batchStart)
  rw [hworkers, List.length_nil, TableRun.batchEnd]
  omega

/-- Every step that does not wait at the gate leaves one less. -/
theorem stepsLeft_step (hcfg : 1 ≤ cfg.maxConcurrentLoaders.toNat) (hinv : BatchInv steps cfg r)
    (hknown : r.stage.hasRanges) {a : TableAction}
    (h : migrateTableStep cfg m r a = some (m', r')) :
    r'.stepsLeft cfg + (if a.waits then 0 else 1) ≤ r.stepsLeft cfg := by
  unfold BatchInv at hinv
  -- in all cases but the two loads of the gate one step is to be paid for
  have hpaid : r'.stepsLeft cfg + 1 ≤ r.stepsLeft cfg →
      r'.stepsLeft cfg + (if a.waits then 0 else 1) ≤ r.stepsLeft cfg := by
    intro hle
    have hcost : (if a.waits then 0 else 1) ≤ 1 := by split <;> omega
    omega
  cases a with
  | resolvePartitionKeys schema =>
    rw [(step_resolvePartitionKeys h).1] at hknown
    exact absurd hknown (by decide)
  | calculateRanges peers =>
    rw [(step_calculateRanges h).1] at hknown
    exact absurd hknown (by decide)
  | leaveLoop =>
    obtain ⟨hstage, _, _, hr⟩ := step_leaveLoop h
    refine hpaid ?_
    rw [stepsLeft_loopHead hstage, stepsLeft_ended (by rw [hr]; exact Or.inl rfl)]
    omega
  | batchHead running =>
    obtain ⟨hstage, _, _, _, hr⟩ := step_batchHead h
    refine hpaid ?_
    rw [stepsLeft_loopHead hstage, hr]
    cases running with
    | false =>
      rw [stepsLeft_ended (Or.inl rfl)]
      omega
    | true => exact Nat.le_refl _
  | loadPaused paused =>
    obtain ⟨hstage, _, _, hr⟩ := step_loadPaused h
    rw [hstage] at hinv
    rw [stepsLeft_gate (Or.inl hstage), hr]
    cases paused with
    | false => exact stepsLeft_enterBatch hcfg hinv.1 hinv.2.1
    | true => exact Nat.le_refl _
  | pauseCheck running =>
    obtain ⟨hstage, _, _, hr⟩ := step_pauseCheck h
    rw [hstage] at hinv
    rw [stepsLeft_gate (Or.inr hstage), hr]
    cases running with
    | false => exact stepsLeft_enterBatch hcfg hinv.1 hinv.2.1
    | true => exact Nat.le_refl _
  | startWorker =>
    obtain ⟨hstage, hlt, _, hr⟩ := step_startWorker h
    have hlen : (r.ranges[r.next]?.toList).length ≤ 1 := by
      cases r.ranges[r.next]? <;> simp
    have hleft : r'.stepsLeft cfg = 2 * (r.batchEnd cfg - (r.next + 1)) +
        (r.workers ++ r.ranges[r.next]?.toList).length +
        5 * (r.ranges.length - r.batchEnd cfg) + 2 := by
      rw [hr]
      exact stepsLeft_batch hstage
    refine hpaid ?_
    rw [stepsLeft_batch hstage, hleft, List.length_append]
    omega
  | startWorkerFails =>
    obtain ⟨hstage, _, hr⟩ := step_startWorkerFails h
    refine hpaid ?_
    rw [stepsLeft_batch hstage, hr, stepsLeft_unwind rfl]
    show r.workers.length + 1 + 1 ≤ _
    omega
  | processRange table range o =>
    obtain ⟨hstage, _, hmem, _, hr⟩ := step_processRange h
    have hlen := List.length_erase_of_mem hmem
    have hpos := List.length_pos_of_mem hmem
    refine hpaid ?_
    rcases hstage with hstage | hstage
    · have hleft : r'.stepsLeft cfg = 2 * (r.batchEnd cfg - r.next) +
          (r.workers.erase range).length + 5 * (r.ranges.length - r.batchEnd cfg) + 2 := by
        rw [hr]
        exact stepsLeft_batch hstage
      rw [stepsLeft_batch hstage, hleft]
      omega
    · have hleft : r'.stepsLeft cfg = (r.workers.erase range).length + 1 := by
        rw [hr]
        exact stepsLeft_unwind hstage
      rw [stepsLeft_unwind hstage, hleft]
      omega
  | join =>
    obtain ⟨hstage, hnext, hworkers, _, hr⟩ := step_join h
    have hleft : r'.stepsLeft cfg =
        5 * (r.ranges.length - (r.batchStart + cfg.maxConcurrentLoaders.toNat)) + 1 := by
      rw [hr]
      exact stepsLeft_loopHead rfl
    refine hpaid ?_
    rw [stepsLeft_batch hstage, hleft, hnext, hworkers, TableRun.batchEnd]
    omega
  | rethrow =>
    obtain ⟨hstage, _, hr⟩ := step_rethrow h
    refine hpaid ?_
    rw [stepsLeft_unwind hstage, stepsLeft_ended (by rw [hr]; exact Or.inr rfl)]
    omega

end SSTableLoader
end ScyllaClusterSync
