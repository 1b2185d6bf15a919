import ScyllaClusterSync.SSTableLoader.DispatchTheorems
import ScyllaClusterSync.SSTableLoader.TokenRangeTheorems

/-!
# A stop at the pause gate

`break` leaves the wait of the pause gate, and not the batch loop. So a loop that is held
there when `stop` comes goes on into the batch whose head it had passed, and only the next
loop head ends it: after the stop it processes that one batch, and none after it.
-/

namespace ScyllaClusterSync
namespace SSTableLoader

open Svckit Lib

variable {cfg : LoaderConfig} {ranges : List TokenRange} {m : Loader} {r : TableRun}
  {steps since : List TableAction} {table : String} {s : Loader × TableRun}

/-- In front of its next batch, at the pause gate. -/
def Stage.atGate : Stage → Bool
  | .pauseGate => true
  | .pauseCheck => true
  | _ => false

/-- What the invariants say at the gate: the batch held back is the last one begun. -/
theorem LoopInv.held (hinv : LoopInv cfg table ranges steps r) (hgate : r.stage.atGate) :
    r.workers = [] ∧ r.batchStart < ranges.length ∧
      (processed table steps).Perm (ranges.take r.batchStart) ∧
      r.batchStart + cfg.maxConcurrentLoaders.toNat =
        batchesBegun steps * cfg.maxConcurrentLoaders.toNat := by
  have hbatch := hinv.accounted
  have hheads := hinv.heads
  unfold BatchInv at hbatch
  unfold HeadInv at hheads
  rw [hinv.table, hinv.ranges] at hbatch
  cases hstage : r.stage with
  | pauseGate | pauseCheck =>
    rw [hstage] at hbatch hheads
    exact ⟨hbatch.1, hbatch.2.1, hbatch.2.2, hheads⟩
  | _ => simp [hstage, Stage.atGate] at hgate

/-- The batch that is held back at the gate. -/
def heldBatch (cfg : LoaderConfig) (r : TableRun) : List TokenRange :=
  (r.ranges.drop r.batchStart).take cfg.maxConcurrentLoaders.toNat

/-- No later step hands a range to `process_range_sync`. -/
def StartsNoMore (cfg : LoaderConfig) (s : Loader × TableRun) : Prop :=
  ∀ post s', run (loopStep cfg) s post = some s' →
    processed s.2.table.name (tableSteps post) = []

/-- From the gate on, with no further batch begun: ranges of the batch held back, and all of
them when the loop has returned. -/
theorem LoopInv.processed_since_gate {r' : TableRun} (hinv : LoopInv cfg table ranges steps r)
    (hgate : r.stage.atGate) (hinv' : LoopInv cfg table ranges (steps ++ since) r')
    (hnone : batchesBegun since = 0) :
    (processed table since).Subperm (heldBatch cfg r) ∧
      (r'.stage = .returned → (processed table since).Perm (heldBatch cfg r)) := by
  obtain ⟨_, hlt, hperm, hstart⟩ := hinv.held hgate
  have hbegun : batchesBegun (steps ++ since) = batchesBegun steps := by
    rw [batchesBegun_append, hnone, Nat.add_zero]
  rw [heldBatch, hinv.ranges]
  refine ⟨hinv'.processed_since (Nat.le_of_lt hlt) hperm (by rw [hbegun, hstart]), ?_⟩
  intro hreturned
  -- a loop that has returned has processed all batches begun
  have hheads := hinv'.heads
  rw [HeadInv, hreturned, hinv'.table, hinv'.ranges, hbegun, ← hstart, processed_append] at hheads
  have hsince := perm_take_of_perm_append (Nat.le_of_lt hlt) hperm hheads.2
  rwa [Nat.add_sub_cancel_left] at hsince

/-! ## The way out of the gate -/

/-- A stopped loop leaves the gate into its batch. -/
theorem exists_run_enterBatch (hrunning : m.isRunning = false) (hgate : r.stage.atGate) :
    ∃ log, run (loopStep cfg) (m, r) log = some (m, r.enterBatch) := by
  have hcheck : ∀ r : TableRun, r.stage = .pauseCheck →
      run (loopStep cfg) (m, r) [.table (.pauseCheck false)] = some (m, r.enterBatch) := by
    intro r hstage
    simp [run, loopStep, migrateTableStep, hstage, hrunning]
  cases hstage : r.stage with
  | pauseCheck => exact ⟨_, hcheck r hstage⟩
  | pauseGate =>
    cases hpaused : m.isPaused with
    | false => exact ⟨[.table (.loadPaused false)], by
        simp [run, loopStep, migrateTableStep, hstage, hpaused]⟩
    | true =>
      -- one more look at the flag, which `stop` has cleared
      have hload : run (loopStep cfg) (m, r) [.table (.loadPaused true)] =
          some (m, { r with stage := .pauseCheck }) := by
        simp [run, loopStep, migrateTableStep, hstage, hpaused]
      refine ⟨[.table (.loadPaused true)] ++ [.table (.pauseCheck false)], ?_⟩
      rw [run_append, hload, Option.bind_some, hcheck _ rfl]
      rfl
  | _ => simp [hstage, Stage.atGate] at hgate

/-- In the batch there is a range to be processed. -/
theorem exists_run_processRange_of_enterBatch (hconcurrent : 1 ≤ cfg.maxConcurrentLoaders.toNat)
    (hworkers : r.workers = []) (hlt : r.batchStart < r.ranges.length) :
    ∃ range s', run (loopStep cfg) (m, r.enterBatch)
      [.table .startWorker, .table (.processRange r.table.name range .ok)] = some s' := by
  have hpos : 0 < cfg.maxConcurrentLoaders.toNat := hconcurrent
  -- the first range of the batch
  refine ⟨r.ranges[r.batchStart], Option.isSome_iff_exists.mp ?_⟩
  simp [run, loopStep, migrateTableStep, TableRun.enterBatch, TableRun.batchEnd, hworkers, hlt, hpos]

theorem not_startsNoMore (hconcurrent : 1 ≤ cfg.maxConcurrentLoaders.toNat)
    (hrunning : m.isRunning = false) (hgate : r.stage.atGate) (hworkers : r.workers = [])
    (hlt : r.batchStart < r.ranges.length) : ¬ StartsNoMore cfg (m, r) := by
  intro hnone
  obtain ⟨log, hlog⟩ := @exists_run_enterBatch cfg m r hrunning hgate
  obtain ⟨range, s', hbatch⟩ :=
    @exists_run_processRange_of_enterBatch cfg m r hconcurrent hworkers hlt
  have hrun : run (loopStep cfg) (m, r) (log ++
      [.table .startWorker, .table (.processRange r.table.name range .ok)]) = some s' := by
    rw [run_append, hlog, Option.bind_some, hbatch]
  have hempty := hnone _ _ hrun
  rw [tableSteps_append, processed_append] at hempty
  simp [tableSteps, processed] at hempty

/-- After a stop at the gate no further batch is begun. -/
theorem processed_of_stopped {table : TableConfig} {partitionKeys : List String}
    {log post : List LoopAction} {s' : Loader × TableRun}
    (hrun : run (loopStep cfg) (m, .atLoop table partitionKeys ranges) log = some s)
    (hgate : s.2.stage.atGate)
    (hpost : run (loopStep cfg) (envStep s.1 .stop, s.2) post = some s') :
    (processed table.name (tableSteps post)).Subperm (heldBatch cfg s.2) ∧
      (s'.2.stage = .returned →
        (processed table.name (tableSteps post)).Perm (heldBatch cfg s.2)) := by
  have hstop : run (loopStep cfg) s (.control .stop :: post) = some s' := hpost
  have hall : run (loopStep cfg) (m, .atLoop table partitionKeys ranges)
      (log ++ .control .stop :: post) = some s' := by
    rw [run_append, hrun, Option.bind_some, hstop]
  have hinv := loopInv_of_run hrun
  have hinv' := loopInv_of_run hall
  rw [tableSteps_append] at hinv'
  exact hinv.processed_since_gate hgate hinv' (batchesBegun_of_stopped rfl hpost).2

/-! ## The result -/

/-- For every list of ranges and every interleaving of `pause`, `resume`, `stop` and
`reload_config` with the loop that has led to the pause gate: after a stop there no further
range is processed exactly when the batches are empty. In any case the loop then processes
ranges of the batch held back only, and all of them before it returns. -/
theorem stopped_at_gate_iff (cfg : LoaderConfig) (table : TableConfig)
    (partitionKeys : List String) (ranges : List TokenRange) (m : Loader) (log : List LoopAction)
    (s : Loader × TableRun)
    (hrun : run (loopStep cfg) (m, .atLoop table partitionKeys ranges) log = some s)
    (hgate : s.2.stage.atGate = true) :
    (StartsNoMore cfg (envStep s.1 .stop, s.2) ↔ cfg.maxConcurrentLoaders = 0) ∧
      ∀ post s', run (loopStep cfg) (envStep s.1 .stop, s.2) post = some s' →
        (processed table.name (tableSteps post)).Subperm (heldBatch cfg s.2) ∧
          (s'.2.stage = .returned →
            (processed table.name (tableSteps post)).Perm (heldBatch cfg s.2)) := by
  have hinv := loopInv_of_run hrun
  obtain ⟨hworkers, hlt, _, _⟩ := hinv.held hgate
  refine ⟨⟨?_, ?_⟩, fun post s' hpost => processed_of_stopped hrun hgate hpost⟩
  · intro hnone
    by_contra hne
    rw [← hinv.ranges] at hlt
    exact not_startsNoMore (UInt32.le_iff_toNat_le.mp (one_le_of_ne_zero hne)) rfl hgate hworkers hlt
      hnone
  · -- what the batches have in them is nothing
    intro hzero post s' hpost
    have hsub := (processed_of_stopped hrun hgate hpost).1
    have hempty : heldBatch cfg s.2 = [] := by
      rw [heldBatch, hzero]
      rfl
    rw [hempty, List.subperm_nil] at hsub
    rw [hinv.table]
    exact hsub

/-- The loop over three ranges, paused between its two batches. -/
def heldAtGate : List LoopAction :=
  [.table (.batchHead true), .table (.loadPaused false), .table .startWorker, .table .startWorker,
    .table (.processRange "app.files" ⟨0, 9⟩ .ok), .table (.processRange "app.files" ⟨10, 19⟩ .ok),
    .table .join, .control .pause, .table (.batchHead true), .table (.loadPaused true)]

def heldAtGateState : Loader × TableRun :=
  ({ isRunning := true, isPaused := true, filter := none },
    { table := { name := "app.files" }, stage := .pauseCheck, partitionKeys := ["id"],
      ranges := threeRanges, batchStart := 2, next := 2 })

theorem run_heldAtGate :
    run (loopStep { maxConcurrentLoaders := 2 })
      ({ isRunning := true, filter := none }, .atLoop { name := "app.files" } ["id"] threeRanges)
      heldAtGate = some heldAtGateState := by
  decide +kernel

theorem stopped_at_gate_iff_heldAtGate :
    (StartsNoMore { maxConcurrentLoaders := 2 }
        (envStep heldAtGateState.1 .stop, heldAtGateState.2) ↔
      ({ maxConcurrentLoaders := 2 } : LoaderConfig).maxConcurrentLoaders = 0) ∧
    heldBatch { maxConcurrentLoaders := 2 } heldAtGateState.2 = [⟨20, 29⟩] :=
  ⟨(stopped_at_gate_iff { maxConcurrentLoaders := 2 } { name := "app.files" } ["id"] threeRanges
    _ heldAtGate heldAtGateState run_heldAtGate rfl).1, by decide⟩

/-- Paused after the first batch, then stopped: the range of the second one is still
processed. -/
theorem batch_started_after_stop :
    ¬ ∀ (cfg : LoaderConfig) (table : TableConfig) (partitionKeys : List String)
      (ranges : List TokenRange) (m : Loader) (log : List LoopAction) (s : Loader × TableRun),
      run (loopStep cfg) (m, .atLoop table partitionKeys ranges) log = some s →
      s.2.stage.atGate = true → StartsNoMore cfg (envStep s.1 .stop, s.2) := by
  intro hall
  have hnone := hall _ _ _ _ _ _ _ run_heldAtGate rfl
  exact not_startsNoMore (by decide) rfl rfl rfl (by decide) hnone

end SSTableLoader
end ScyllaClusterSync
