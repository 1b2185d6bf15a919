import ScyllaClusterSync.SSTableLoader.BatchLoop

/-!
# Each range is dispatched exactly once

`BatchInv` knows which ranges have been processed at each stage of the loop; `HeadInv` adds
how many loop heads have been passed by then. Since a range is only dispatched between the
head of its batch and the next one, the two say what a stop between any two steps leaves
undone: `ranges_dispatched_once`.
-/

namespace ScyllaClusterSync
namespace SSTableLoader

open Svckit Lib

variable {cfg : LoaderConfig} {ranges : List TokenRange} {m m' : Loader} {r r' : TableRun}
  {steps : List TableAction} {table : String}

/-! ## The loop heads passed -/

/-- Where the loop stands, by the number of the loop heads it has passed. -/
def HeadInv (steps : List TableAction) (cfg : LoaderConfig) (r : TableRun) : Prop :=
  match r.stage with
  | .loopHead => r.batchStart = batchesBegun steps * cfg.maxConcurrentLoaders.toNat
  | .pauseGate | .pauseCheck | .batch =>
    r.batchStart + cfg.maxConcurrentLoaders.toNat =
      batchesBegun steps * cfg.maxConcurrentLoaders.toNat
  | .unwind | .threw =>
    .startWorkerFails ∈ steps ∧ ∃ n ≤ batchesBegun steps * cfg.maxConcurrentLoaders.toNat,
      (processed r.table.name steps ++ r.workers).Perm (r.ranges.take n)
  | .returned =>
    r.workers = [] ∧ (processed r.table.name steps).Perm
      (r.ranges.take (batchesBegun steps * cfg.maxConcurrentLoaders.toNat))
  | _ => True

/-- A batch has no more ranges than there may be workers at a time. -/
theorem batchEnd_le (r : TableRun) (cfg : LoaderConfig) :
    r.batchEnd cfg ≤ r.batchStart + cfg.maxConcurrentLoaders.toNat := Nat.min_le_left _ _

/-- Every step of the loop keeps the count. -/
theorem HeadInv.step {a : TableAction} (hinv : HeadInv steps cfg r) (hbatch : BatchInv steps cfg r)
    (ha : ∀ peers, a ≠ .calculateRanges peers)
    (h : migrateTableStep cfg m r a = some (m', r')) : HeadInv (steps ++ [a]) cfg r' := by
  unfold HeadInv at hinv
  unfold BatchInv at hbatch
  cases a with
  | resolvePartitionKeys schema =>
    rw [(step_resolvePartitionKeys h).2.2]
    trivial
  | calculateRanges peers => exact absurd rfl (ha peers)
  | leaveLoop =>
    obtain ⟨hstage, _, _, hr⟩ := step_leaveLoop h
    rw [hstage] at hinv hbatch
    rw [hr]
    -- every loop head passed has moved the start of the batch by one batch length
    refine ⟨hbatch.1, ?_⟩
    rw [processed_concat (by simp), batchesBegun_concat_of_ne (by simp), ← hinv]
    exact hbatch.2
  | batchHead running =>
    obtain ⟨hstage, _, _, _, hr⟩ := step_batchHead h
    rw [hstage] at hinv hbatch
    rw [hr]
    cases running with
    | false =>
      refine ⟨hbatch.1, ?_⟩
      rw [processed_concat (by simp), batchesBegun_concat_of_ne (by simp), ← hinv]
      exact hbatch.2
    | true =>
      -- one more loop head, and the next batch starts one batch length further on
      show r.batchStart + cfg.maxConcurrentLoaders.toNat =
        batchesBegun (steps ++ [.batchHead true]) * cfg.maxConcurrentLoaders.toNat
      rw [batchesBegun_concat, if_pos rfl, Nat.add_mul, Nat.one_mul, ← hinv]
  | loadPaused paused =>
    obtain ⟨hstage, _, _, hr⟩ := step_loadPaused h
    rw [hstage, ← @batchesBegun_concat_of_ne steps (.loadPaused paused) (by simp)] at hinv
    rw [hr]
    cases paused <;> exact hinv
  | pauseCheck running =>
    obtain ⟨hstage, _, _, hr⟩ := step_pauseCheck h
    rw [hstage, ← @batchesBegun_concat_of_ne steps (.pauseCheck running) (by simp)] at hinv
    rw [hr]
    cases running <;> exact hinv
  | startWorker =>
    obtain ⟨hstage, _, _, hr⟩ := step_startWorker h
    rw [hstage, ← @batchesBegun_concat_of_ne steps .startWorker (by simp)] at hinv
    rw [hr]
    unfold HeadInv
    simp only [hstage]
    exact hinv
  | startWorkerFails =>
    obtain ⟨hstage, _, hr⟩ := step_startWorkerFails h
    rw [hstage] at hinv hbatch
    have hend := batchEnd_le r cfg
    rw [hr]
    -- the workers started so far are joined while the stack unwinds
    refine ⟨List.mem_append_right _ List.mem_cons_self, r.next, ?_, ?_⟩
    · rw [batchesBegun_concat_of_ne (by simp), ← hinv]
      omega
    · rw [processed_concat (by simp)]
      exact hbatch.2
  | processRange t range o =>
    obtain ⟨hstage, htable, hmem, _, hr⟩ := step_processRange h
    have hbegun : batchesBegun (steps ++ [.processRange t range o]) = batchesBegun steps :=
      batchesBegun_concat_of_ne (by simp)
    rw [hr]
    unfold HeadInv
    rcases hstage with hstage | hstage
    · rw [hstage] at hinv
      simp only [hstage, hbegun]
      exact hinv
    · rw [hstage] at hinv
      -- also during unwinding a worker may still process its range
      obtain ⟨hfails, n, hn, hperm⟩ := hinv
      simp only [hstage, hbegun]
      refine ⟨List.mem_append_left _ hfails, n, hn, ?_⟩
      rw [htable, processed_concat_self, List.append_assoc]
      -- the range moves from the workers to the processed ones
      exact ((List.perm_cons_erase hmem).symm.append_left _).trans hperm
  | join =>
    obtain ⟨hstage, _, _, _, hr⟩ := step_join h
    rw [hstage, ← @batchesBegun_concat_of_ne steps .join (by simp)] at hinv
    rw [hr]
    exact hinv
  | rethrow =>
    obtain ⟨hstage, _, hr⟩ := step_rethrow h
    rw [hstage] at hinv
    obtain ⟨hfails, n, hn, hperm⟩ := hinv
    rw [hr]
    refine ⟨List.mem_append_left _ hfails, n, ?_, ?_⟩
    · rw [batchesBegun_concat_of_ne (by simp)]
      exact hn
    · rw [processed_concat (by simp)]
      exact hperm

/-! ## Whole runs of the loop -/

/-- What holds of the loop over the ranges of a table, wherever it stands. -/
structure LoopInv (cfg : LoaderConfig) (table : String) (ranges : List TokenRange)
    (steps : List TableAction) (r : TableRun) : Prop where
  table : r.table.name = table
  ranges : r.ranges = ranges
  known : r.stage.hasRanges
  accounted : BatchInv steps cfg r
  heads : HeadInv steps cfg r

theorem LoopInv.step {a : TableAction} (hinv : LoopInv cfg table ranges steps r)
    (h : migrateTableStep cfg m r a = some (m', r')) :
    LoopInv cfg table ranges (steps ++ [a]) r' := by
  obtain ⟨ha, hranges, hknown⟩ := hasRanges_step hinv.known h
  obtain ⟨_, _, _, htable⟩ := migrateTableStep_frame h
  refine ⟨?_, ?_, hknown, hinv.accounted.step ha h, hinv.heads.step hinv.accounted ha h⟩
  · rw [htable]; exact hinv.table
  · rw [hranges]; exact hinv.ranges

theorem loopInv_of_run {t : TableConfig} {partitionKeys : List String} {log : List LoopAction}
    {s : Loader × TableRun}
    (hrun : run (loopStep cfg) (m, .atLoop t partitionKeys ranges) log = some s) :
    LoopInv cfg t.name ranges (tableSteps log) s.2 := by
  have hstart : LoopInv cfg t.name ranges [] (.atLoop t partitionKeys ranges) :=
    ⟨rfl, rfl, rfl, batchInv_ranges cfg rfl rfl rfl, (Nat.zero_mul _).symm⟩
  refine @run_invariant _ _ (loopStep cfg) (m, .atLoop t partitionKeys ranges)
    (fun log s => LoopInv cfg t.name ranges (tableSteps log) s.2) hstart ?_ log s hrun
  intro log s b s' hinv hstep
  cases b with
  | table a =>
    rw [tableSteps_concat_table]
    exact hinv.step hstep
  | control e =>
    obtain rfl := Option.some.inj hstep
    rw [tableSteps_concat_control]
    exact hinv

/-- What has been handed to a worker is an initial part of the list, and belongs to the
batches begun. -/
theorem LoopInv.dispatched (hinv : LoopInv cfg table ranges steps r) :
    ∃ n ≤ batchesBegun steps * cfg.maxConcurrentLoaders.toNat,
      (processed table steps ++ r.workers).Perm (ranges.take n) := by
  have hbatch := hinv.accounted
  have hheads := hinv.heads
  have hknown := hinv.known
  rw [← hinv.table, ← hinv.ranges]
  unfold BatchInv at hbatch
  unfold HeadInv at hheads
  cases hstage : r.stage with
  | partitionKeys | ranges | dividedByZero =>
    rw [hstage] at hknown
    exact absurd hknown (by decide)
  | loopHead =>
    rw [hstage] at hbatch hheads
    refine ⟨r.batchStart, Nat.le_of_eq hheads, ?_⟩
    rw [hbatch.1, List.append_nil]
    exact hbatch.2
  | pauseGate | pauseCheck =>
    -- the batch is begun, and nothing of it is dispatched yet
    rw [hstage] at hbatch hheads
    refine ⟨r.batchStart, by rw [← hheads]; exact Nat.le_add_right _ _, ?_⟩
    rw [hbatch.1, List.append_nil]
    exact hbatch.2.2
  | batch =>
    rw [hstage] at hbatch hheads
    refine ⟨r.next, ?_, hbatch.2⟩
    rw [← hheads]
    exact Nat.le_trans hbatch.1 (batchEnd_le r cfg)
  | unwind | threw => rw [hstage] at hheads; exact hheads.2
  | returned =>
    rw [hstage] at hheads
    refine ⟨_, Nat.le_refl _, ?_⟩
    rw [hheads.1, List.append_nil]
    exact hheads.2

/-! ## One batch -/

theorem processed_append (table : String) (steps steps' : List TableAction) :
    processed table (steps ++ steps') = processed table steps ++ processed table steps' :=
  List.filterMap_append

theorem batchesBegun_append (steps steps' : List TableAction) :
    batchesBegun (steps ++ steps') = batchesBegun steps + batchesBegun steps' :=
  List.count_append

/-- What completes an initial part of a list to a longer one is what follows it there. -/
theorem perm_take_of_perm_append {α : Type} {l as bs : List α} {i n : ℕ} (hi : i ≤ l.length)
    (has : as.Perm (l.take i)) (hall : (as ++ bs).Perm (l.take n)) :
    bs.Perm ((l.drop i).take (n - i)) := by
  -- `as` alone is `i` long, so the longer part is at least that
  have hlen := hall.length_eq
  have hlen' := has.length_eq
  rw [List.length_append, List.length_take] at hlen
  rw [List.length_take, Nat.min_eq_left hi] at hlen'
  have hle : i ≤ n := by omega
  have hsplit : l.take n = l.take i ++ (l.drop i).take (n - i) := by
    rw [← List.take_add, Nat.add_sub_cancel' hle]
  rw [hsplit] at hall
  exact (List.perm_append_left_iff _).mp ((has.symm.append_right bs).trans hall)

/-- What is processed since a stage at which `start` ranges were, and nothing was in process,
while the batches begun reach no further than one batch length. -/
theorem LoopInv.processed_since {since : List TableAction} {start : ℕ}
    (hinv : LoopInv cfg table ranges (steps ++ since) r) (hstart : start ≤ ranges.length)
    (hbefore : (processed table steps).Perm (ranges.take start))
    (hbegun : batchesBegun (steps ++ since) * cfg.maxConcurrentLoaders.toNat ≤
      start + cfg.maxConcurrentLoaders.toNat) :
    (processed table since).Subperm
      ((ranges.drop start).take cfg.maxConcurrentLoaders.toNat) := by
  obtain ⟨n, hn, hperm⟩ := hinv.dispatched
  rw [processed_append, List.append_assoc] at hperm
  -- what was processed then, and what is now, are both initial parts of the list: the
  -- difference lies between the two
  have hsince := perm_take_of_perm_append hstart hbefore hperm
  have hsub : ((ranges.drop start).take (n - start)).Sublist
      ((ranges.drop start).take cfg.maxConcurrentLoaders.toNat) := by
    have hle : n - start ≤ cfg.maxConcurrentLoaders.toNat := by omega
    rw [← Nat.min_eq_left hle, ← List.take_take]
    exact List.take_sublist _ _
  exact (List.sublist_append_left _ _).subperm.trans (hsince.subperm.trans hsub.subperm)

/-- Between a loop head and the next one the loop processes ranges of that batch only. -/
theorem LoopInv.processed_since_head (hinv : LoopInv cfg table ranges steps r)
    (hstep : migrateTableStep cfg m r (.batchHead true) = some (m', r'))
    {since : List TableAction} {r'' : TableRun} (hhead : .batchHead true ∉ since)
    (hinv' : LoopInv cfg table ranges (steps ++ .batchHead true :: since) r'') :
    (processed table since).Subperm (batch cfg ranges (batchesBegun steps)) := by
  obtain ⟨hstage, hlt, _, _, _⟩ := step_batchHead hstep
  have hbatch := hinv.accounted
  have hheads := hinv.heads
  rw [BatchInv, hstage, hinv.table, hinv.ranges] at hbatch
  rw [HeadInv, hstage] at hheads
  rw [hinv.ranges] at hlt
  have hbegun : batchesBegun (steps ++ .batchHead true :: since) = batchesBegun steps + 1 := by
    have hnone : batchesBegun since = 0 := List.count_eq_zero.mpr hhead
    rw [batchesBegun_append]
    show batchesBegun steps + batchesBegun ([.batchHead true] ++ since) = _
    rw [batchesBegun_append, hnone]
    rfl
  have hall := hinv'.processed_since (Nat.le_of_lt hlt) hbatch.2 (by
    rw [hbegun, Nat.add_mul, Nat.one_mul, ← hheads])
  rw [batch, ← hheads]
  exact hall

/-! ## The running flag -/

/-- Only `stop` clears the flag, and nothing here sets it. -/
theorem isRunning_of_loopStep {s s' : Loader × TableRun} {b : LoopAction}
    (hstep : loopStep cfg s b = some s') :
    s'.1.isRunning = if b = .control .stop then false else s.1.isRunning := by
  cases b with
  | table a =>
    rw [if_neg (by simp)]
    exact (migrateTableStep_frame hstep).1
  | control e =>
    obtain rfl := Option.some.inj hstep
    cases e <;> rfl

/-- Without a stop no loop head finds the flag cleared. -/
theorem heads_of_unstopped {s s' : Loader × TableRun} {log : List LoopAction}
    (hrunning : s.1.isRunning = true) (hrun : run (loopStep cfg) s log = some s') :
    .control .stop ∉ log → s'.1.isRunning = true ∧ .batchHead false ∉ tableSteps log := by
  refine @run_invariant _ _ (loopStep cfg) s (fun log s => .control .stop ∉ log →
    s.1.isRunning = true ∧ .batchHead false ∉ tableSteps log) ?_ ?_ log s' hrun
  · intro _
    exact ⟨hrunning, List.not_mem_nil⟩
  · intro log s b s' hinv hstep hstop
    rw [List.mem_append, List.mem_singleton, not_or] at hstop
    obtain ⟨hflag, hheads⟩ := hinv hstop.1
    refine ⟨?_, ?_⟩
    · rw [isRunning_of_loopStep hstep, if_neg (Ne.symm hstop.2)]
      exact hflag
    · rw [mem_tableSteps, List.mem_append, List.mem_singleton, not_or]
      refine ⟨fun hmem => hheads (mem_tableSteps.mpr hmem), ?_⟩
      intro heq
      subst heq
      have hobs := (@step_batchHead cfg _ _ _ _ _ hstep).2.2.1
      rw [hflag] at hobs
      exact Bool.noConfusion hobs

/-- After a stop no batch is begun. -/
theorem batchesBegun_of_stopped {s s' : Loader × TableRun} {log : List LoopAction}
    (hstopped : s.1.isRunning = false) (hrun : run (loopStep cfg) s log = some s') :
    s'.1.isRunning = false ∧ batchesBegun (tableSteps log) = 0 := by
  refine @run_invariant _ _ (loopStep cfg) s (fun log s => s.1.isRunning = false ∧
    batchesBegun (tableSteps log) = 0) ⟨hstopped, rfl⟩ ?_ log s' hrun
  intro log s b s' hinv hstep
  refine ⟨?_, ?_⟩
  · rw [isRunning_of_loopStep hstep, hinv.1]
    split <;> rfl
  · cases b with
    | control e => rw [tableSteps_concat_control]; exact hinv.2
    | table a =>
      rw [tableSteps_concat_table, batchesBegun_concat_of_ne]
      · exact hinv.2
      · intro heq
        subst heq
        have hobs := (@step_batchHead cfg _ _ _ _ _ hstep).2.2.1
        rw [hinv.1] at hobs
        exact Bool.noConfusion hobs

/-! ## The result -/

/-- The steps taken, rounds of the pause gate apart, and the ones left. -/
theorem stepsTaken_le {t : TableConfig} {partitionKeys : List String} {log : List LoopAction}
    {s : Loader × TableRun} (hcfg : 1 ≤ cfg.maxConcurrentLoaders.toNat)
    (hrun : run (loopStep cfg) (m, .atLoop t partitionKeys ranges) log = some s) :
    (tableSteps log).countP (fun a => !a.waits) + s.2.stepsLeft cfg ≤ 5 * ranges.length + 1 := by
  refine @run_invariant_of_run _ _ (loopStep cfg) (m, .atLoop t partitionKeys ranges)
    (fun log s => (tableSteps log).countP (fun a => !a.waits) + s.2.stepsLeft cfg ≤
      5 * ranges.length + 1) ?_ ?_ log s hrun
  · show 0 + (5 * (ranges.length - 0) + 1) ≤ 5 * ranges.length + 1
    omega
  · intro log s b s' hlog hinv hstep
    have hloop := loopInv_of_run hlog
    cases b with
    | control e =>
      obtain rfl := Option.some.inj hstep
      rw [tableSteps_concat_control]
      exact hinv
    | table a =>
      -- every step but a wait is paid for out of `stepsLeft`
      have hpaid := stepsLeft_step hcfg hloop.accounted hloop.known hstep
      rw [tableSteps_concat_table, List.countP_append, List.countP_singleton]
      cases hwaits : a.waits with
      | false =>
        rw [hwaits, if_neg Bool.false_ne_true] at hpaid
        rw [Bool.not_false, if_pos rfl]
        omega
      | true =>
        rw [hwaits, if_pos rfl] at hpaid
        rw [Bool.not_true, if_neg Bool.false_ne_true]
        omega

/-- The batch loop over any list of ranges, interleaved in any way with `stop`, `pause`,
`resume` and `reload_config`, whatever the workers throw: no range is handed to
`process_range_sync` twice; from one loop head to the next only ranges of that batch are,
at most `max_concurrent_loaders`; when the loop returns without having been stopped, every
range was, and when it was stopped, exactly the batches whose loop head came before; and
the loop takes at most `5 * ranges.length + 1` steps that are not rounds of the pause gate,
with a next step until it has returned, or has thrown because a worker could not be
started. -/
theorem ranges_dispatched_once (cfg : LoaderConfig) (table : TableConfig)
    (partitionKeys : List String) (ranges : List TokenRange) (m : Loader) (log : List LoopAction)
    (s : Loader × TableRun) (hcfg : 1 ≤ cfg.maxConcurrentLoaders)
    (hrun : run (loopStep cfg) (m, .atLoop table partitionKeys ranges) log = some s) :
    (processed table.name (tableSteps log) ++ s.2.workers).Subperm ranges ∧
    (∀ pre mid post, log = pre ++ .table (.batchHead true) :: (mid ++ post) →
      .table (.batchHead true) ∉ mid →
      (processed table.name (tableSteps mid)).Subperm
          (batch cfg ranges (batchesBegun (tableSteps pre))) ∧
        (batch cfg ranges (batchesBegun (tableSteps pre))).length ≤
          cfg.maxConcurrentLoaders.toNat) ∧
    (m.isRunning = true → .control .stop ∉ log → s.2.stage = .returned →
      (processed table.name (tableSteps log)).Perm ranges) ∧
    (∀ pre post, log = pre ++ .control .stop :: post → s.2.stage = .returned →
      (processed table.name (tableSteps log)).Perm
        ((List.range (batchesBegun (tableSteps pre))).flatMap (batch cfg ranges))) ∧
    (tableSteps log).countP (fun a => !a.waits) ≤ 5 * ranges.length + 1 ∧
    (s.2.stage = .returned ∨ (s.2.stage = .threw ∧ .startWorkerFails ∈ tableSteps log) ∨
      ∃ a s', loopStep cfg s (.table a) = some s') := by
  have hinv := loopInv_of_run hrun
  have hpos : 1 ≤ cfg.maxConcurrentLoaders.toNat := UInt32.le_iff_toNat_le.mp hcfg
  refine ⟨?_, ?_, ?_, ?_, ?_, ?_⟩
  · -- never twice: what was dispatched is an initial part of the list
    obtain ⟨n, _, hperm⟩ := hinv.dispatched
    exact hperm.subperm.trans (List.take_sublist n ranges).subperm
  · intro pre mid post hlog hhead
    refine ⟨?_, length_batch_le cfg ranges _⟩
    -- cut the run at the loop head, and the invariant holds on both sides of the cut
    rw [hlog, ← List.cons_append, ← List.append_assoc, run_append, Option.bind_eq_some_iff] at hrun
    obtain ⟨u, hmid, _⟩ := hrun
    obtain ⟨t, t', hpre, hstep, _⟩ := run_append_cons_eq_some hmid
    have hafter := loopInv_of_run hmid
    rw [tableSteps_append] at hafter
    exact (loopInv_of_run hpre).processed_since_head hstep
      (fun hmem => hhead (mem_tableSteps.mp hmem)) hafter
  · intro hrunning hstop hreturned
    -- the loop was left at the end of the list, as no loop head found the flag cleared
    have hheads := (heads_of_unstopped hrunning hrun hstop).2
    have hbatch := hinv.accounted
    rw [BatchInv, hreturned, hinv.table, hinv.ranges] at hbatch
    exact hbatch.resolve_left hheads
  · intro pre post hlog hreturned
    have hheads := hinv.heads
    rw [HeadInv, hreturned, hinv.table, hinv.ranges] at hheads
    rw [hlog] at hrun
    obtain ⟨t, t', _, hstep, hpost⟩ := run_append_cons_eq_some hrun
    have hstopped : t'.1.isRunning = false := by
      rw [isRunning_of_loopStep hstep, if_pos rfl]
    -- the flag stays cleared, so the batches begun are those before the stop
    have hnone := (batchesBegun_of_stopped hstopped hpost).2
    have hbegun : batchesBegun (tableSteps log) = batchesBegun (tableSteps pre) := by
      rw [hlog, tableSteps_append, batchesBegun_append]
      show batchesBegun (tableSteps pre) + batchesBegun (tableSteps post) = _
      omega
    rw [flatMap_batch, ← hbegun]
    exact hheads.2
  · have htaken := stepsTaken_le hpos hrun
    omega
  · rcases exists_step hinv.accounted hinv.known s.1 with hreturned | hthrew | hnext
    · exact Or.inl hreturned
    · have hheads := hinv.heads
      -- the only way to throw is that a worker could not be started
      rw [HeadInv, hthrew] at hheads
      exact Or.inr (Or.inl ⟨hthrew, hheads.1⟩)
    · obtain ⟨a, m', r', hstep⟩ := hnext
      exact Or.inr (Or.inr ⟨a, (m', r'), hstep⟩)

/-- Three ranges, two workers at a time. -/
def threeRanges : List TokenRange := [⟨0, 9⟩, ⟨10, 19⟩, ⟨20, 29⟩]

/-- A stop while the first batch is started: the batch is finished, one range of it with an
error, and the next loop head finds `is_running_` cleared. -/
def stoppedInFirstBatch : List LoopAction :=
  [.table (.batchHead true), .table (.loadPaused false), .table .startWorker, .control .stop,
    .table .startWorker, .table (.processRange "app.files" ⟨10, 19⟩ (.syncError "timeout")),
    .table (.processRange "app.files" ⟨0, 9⟩ .ok), .table .join, .table (.batchHead false)]

/-- The loop after `stoppedInFirstBatch`. -/
def stoppedInFirstBatchState : Loader × TableRun :=
  ({ filter := none, counters := { failedRows := 1, skippedRanges := 2 } },
    { table := { name := "app.files" }, stage := .returned, partitionKeys := ["id"],
      ranges := threeRanges, batchStart := 2, next := 2 })

theorem ranges_dispatched_once_stoppedInFirstBatch :
    (1 : UInt32) ≤ 2 ∧
      run (loopStep { maxConcurrentLoaders := 2 })
          ({ isRunning := true, filter := none }, .atLoop { name := "app.files" } ["id"] threeRanges)
          stoppedInFirstBatch = some stoppedInFirstBatchState ∧
      (processed "app.files" (tableSteps stoppedInFirstBatch)).Perm
        ((List.range 1).flatMap (batch { maxConcurrentLoaders := 2 } threeRanges)) := by
  have hcfg : (1 : UInt32) ≤ ({ maxConcurrentLoaders := 2 } : LoaderConfig).maxConcurrentLoaders := by
    decide
  have hrun : run (loopStep { maxConcurrentLoaders := 2 })
      ({ isRunning := true, filter := none }, .atLoop { name := "app.files" } ["id"] threeRanges)
      stoppedInFirstBatch = some stoppedInFirstBatchState := by
    decide +kernel
  have hall := ranges_dispatched_once _ _ _ _ _ _ _ hcfg hrun
  exact ⟨hcfg, hrun, hall.2.2.2.1 (stoppedInFirstBatch.take 3) (stoppedInFirstBatch.drop 4) rfl rfl⟩

end SSTableLoader
end ScyllaClusterSync
