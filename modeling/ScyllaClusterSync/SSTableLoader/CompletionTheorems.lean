import ScyllaClusterSync.SSTableLoader.LoaderTheorems
import ScyllaClusterSync.SSTableLoader.TokenRangeTheorems

/-!
# What `tables_completed_` counts

A call counts a table as completed when `migrate_table` returns. By then every range
computed for the table has been handed to `process_range_sync` exactly once, unless a
batch head found `is_running_` cleared. A range that failed is not retried and does not
keep the table from being completed: the error is counted in `skipped_ranges_`.
-/

namespace ScyllaClusterSync
namespace SSTableLoader

open Svckit Lib

variable {cfg : LoaderConfig} {filter : Option SSTableBlacklistGovernor} {h : List Action}
  {i : ℕ} {r r' : TableRun} {m m' : Loader}

/-! ## The table a call is at -/

/-- The steps call `i` has taken inside `migrate_table`. -/
def tableActions (i : ℕ) (h : List Action) : List TableAction :=
  h.filterMap fun
    | .act j (.table a) => if j = i then some a else none
    | _ => none

theorem mem_tableActions {a : TableAction} : a ∈ tableActions i h ↔ .act i (.table a) ∈ h := by
  unfold tableActions
  rw [List.mem_filterMap]
  constructor
  · rintro ⟨b, hb, heq⟩
    split at heq
    next j a' =>
      simp only [Option.ite_none_right_eq_some, Option.some.injEq] at heq
      rwa [← heq.1, ← heq.2]
    · simp at heq
  · intro ha
    exact ⟨_, ha, if_pos rfl⟩

theorem tableActions_concat_self (a : TableAction) :
    tableActions i (h ++ [(.act i (.table a) : Action)]) = tableActions i h ++ [a] := by
  unfold tableActions
  rw [List.filterMap_append]
  simp

theorem tableActions_concat_other {b : Action} (hb : ∀ a, b ≠ .act i (.table a)) :
    tableActions i (h ++ [b]) = tableActions i h := by
  unfold tableActions
  rw [List.filterMap_append, List.filterMap_cons_none, List.filterMap_nil, List.append_nil]
  split
  next j a =>
    rw [if_neg]
    rintro rfl
    exact hb a rfl
  · rfl

/-- What call `i` has done since it computed the ranges of the table it is at. -/
def SinceRanges (cfg : LoaderConfig) (i : ℕ) (h : List Action) (ranges : List TokenRange)
    (P : List TableAction → Prop) : Prop :=
  ∃ pre peers mid, h = pre ++ .act i (.table (.calculateRanges peers)) :: mid ∧
    calculateRanges peers cfg.numRangesPerCore = some ranges ∧
    (∀ peers', .calculateRanges peers' ∉ tableActions i mid) ∧ P (tableActions i mid)

variable {ranges : List TokenRange} {P Q : List TableAction → Prop}

theorem SinceRanges.imp (hs : SinceRanges cfg i h ranges P) (hPQ : ∀ log, P log → Q log) :
    SinceRanges cfg i h ranges Q := by
  obtain ⟨pre, peers, mid, heq, hranges, hlast, hP⟩ := hs
  exact ⟨pre, peers, mid, heq, hranges, hlast, hPQ _ hP⟩

/-- Nothing has been done right after the ranges were computed. -/
theorem SinceRanges.start {peers : Outcome}
    (hranges : calculateRanges peers cfg.numRangesPerCore = some ranges) (hP : P []) :
    SinceRanges cfg i (h ++ [(.act i (.table (.calculateRanges peers)) : Action)]) ranges P :=
  ⟨h, peers, [], rfl, hranges, fun _ => List.not_mem_nil, hP⟩

theorem SinceRanges.other (hs : SinceRanges cfg i h ranges P) {b : Action}
    (hb : ∀ a, b ≠ .act i (.table a)) : SinceRanges cfg i (h ++ [b]) ranges P := by
  obtain ⟨pre, peers, mid, heq, hranges, hlast, hP⟩ := hs
  have hmid := @tableActions_concat_other mid i b hb
  refine ⟨pre, peers, mid ++ [b], ?_, hranges, ?_, ?_⟩
  · rw [heq, List.append_assoc, List.cons_append]
  · rwa [hmid]
  · rwa [hmid]

theorem SinceRanges.concat (hs : SinceRanges cfg i h ranges P) {a : TableAction}
    (ha : ∀ peers, a ≠ .calculateRanges peers) (hPQ : ∀ log, P log → Q (log ++ [a])) :
    SinceRanges cfg i (h ++ [(.act i (.table a) : Action)]) ranges Q := by
  obtain ⟨pre, peers, mid, heq, hranges, hlast, hP⟩ := hs
  have hmid := @tableActions_concat_self mid i a
  refine ⟨pre, peers, mid ++ [(.act i (.table a) : Action)], ?_, hranges, ?_, ?_⟩
  · rw [heq, List.append_assoc, List.cons_append]
  · intro peers' hmem
    rw [hmid, List.mem_append, List.mem_singleton] at hmem
    rcases hmem with hmem | hmem
    · exact hlast peers' hmem
    · exact ha peers' hmem.symm
  · rw [hmid]
    exact hPQ _ hP

/-! ## The invariant of one call -/

/-- The stages at which the ranges are known. -/
def Stage.hasRanges : Stage → Bool
  | .partitionKeys | .ranges | .dividedByZero => false
  | _ => true

/-- Once the ranges are known they stay, and are computed no second time. -/
theorem hasRanges_step {a : TableAction} (hr : r.stage.hasRanges)
    (hstep : migrateTableStep cfg m r a = some (m', r')) :
    (∀ peers, a ≠ .calculateRanges peers) ∧ r'.ranges = r.ranges ∧ r'.stage.hasRanges := by
  cases a with
  | resolvePartitionKeys schema =>
    rw [(step_resolvePartitionKeys hstep).1] at hr
    exact absurd hr (by decide)
  | calculateRanges peers =>
    rw [(step_calculateRanges hstep).1] at hr
    exact absurd hr (by decide)
  -- from the loop on no step goes back, and none writes the list of ranges
  | leaveLoop =>
    rw [(step_leaveLoop hstep).2.2.2]
    exact ⟨by simp, rfl, rfl⟩
  | batchHead running =>
    rw [(step_batchHead hstep).2.2.2.2]
    cases running <;> exact ⟨by simp, rfl, rfl⟩
  | loadPaused paused =>
    rw [(step_loadPaused hstep).2.2.2]
    cases paused <;> exact ⟨by simp, rfl, rfl⟩
  | pauseCheck running =>
    rw [(step_pauseCheck hstep).2.2.2]
    cases running <;> exact ⟨by simp, rfl, rfl⟩
  | startWorker =>
    rw [(step_startWorker hstep).2.2.2]
    exact ⟨by simp, rfl, hr⟩
  | startWorkerFails =>
    rw [(step_startWorkerFails hstep).2.2]
    exact ⟨by simp, rfl, rfl⟩
  | processRange table range o =>
    rw [(step_processRange hstep).2.2.2.2]
    exact ⟨by simp, rfl, hr⟩
  | join =>
    rw [(step_join hstep).2.2.2.2]
    exact ⟨by simp, rfl, rfl⟩
  | rethrow =>
    rw [(step_rethrow hstep).2.2]
    exact ⟨by simp, rfl, rfl⟩

/-- Before the ranges are known the batch loop has not begun; from then on the ranges are
accounted for. -/
structure TableInv (cfg : LoaderConfig) (i : ℕ) (h : List Action) (r : TableRun) : Prop where
  fresh : ¬ r.stage.hasRanges → r.workers = [] ∧ r.batchStart = 0
  accounted : r.stage.hasRanges →
    SinceRanges cfg i h r.ranges fun log => BatchInv log cfg r

theorem TableInv.entered (t : TableConfig) : TableInv cfg i h { table := t } :=
  ⟨fun _ => ⟨rfl, rfl⟩, fun hr => absurd hr (by simp [Stage.hasRanges])⟩

theorem TableInv.other (hinv : TableInv cfg i h r) {b : Action}
    (hb : ∀ a, b ≠ .act i (.table a)) : TableInv cfg i (h ++ [b]) r :=
  ⟨hinv.fresh, fun hr => (hinv.accounted hr).other hb⟩

theorem TableInv.step {a : TableAction} (hinv : TableInv cfg i h r)
    (hstep : migrateTableStep cfg m r a = some (m', r')) :
    TableInv cfg i (h ++ [(.act i (.table a) : Action)]) r' := by
  by_cases hr : r.stage.hasRanges
  · obtain ⟨ha, hranges, hr'⟩ := hasRanges_step hr hstep
    refine ⟨fun hnot => absurd hr' hnot, fun _ => ?_⟩
    rw [hranges]
    exact (hinv.accounted hr).concat ha fun log hlog => hlog.step ha hstep
  · obtain ⟨hworkers, hstart⟩ := hinv.fresh hr
    -- only the two steps before the loop are possible here
    cases a with
    | resolvePartitionKeys schema =>
      rw [(step_resolvePartitionKeys hstep).2.2]
      exact ⟨fun _ => ⟨hworkers, hstart⟩, fun hnot => absurd hnot (by simp [Stage.hasRanges])⟩
    | calculateRanges peers =>
      rcases (step_calculateRanges hstep).2.2 with ⟨ranges, hranges, heq⟩ | heq
      · rw [heq]
        -- the list is known from now on, and nothing of it has been processed
        refine ⟨fun hnot => absurd rfl hnot, fun _ => SinceRanges.start hranges ?_⟩
        exact batchInv_ranges cfg rfl hworkers hstart
      · rw [heq]
        exact ⟨fun _ => ⟨hworkers, hstart⟩, fun hnot => absurd hnot (by simp [Stage.hasRanges])⟩
    | leaveLoop => exact absurd (by rw [(step_leaveLoop hstep).1]; rfl) hr
    | batchHead running => exact absurd (by rw [(step_batchHead hstep).1]; rfl) hr
    | loadPaused paused => exact absurd (by rw [(step_loadPaused hstep).1]; rfl) hr
    | pauseCheck running => exact absurd (by rw [(step_pauseCheck hstep).1]; rfl) hr
    | startWorker => exact absurd (by rw [(step_startWorker hstep).1]; rfl) hr
    | startWorkerFails => exact absurd (by rw [(step_startWorkerFails hstep).1]; rfl) hr
    | processRange table range o =>
      have hmem := (step_processRange hstep).2.2.1
      rw [hworkers] at hmem
      exact absurd hmem List.not_mem_nil
    | join => exact absurd (by rw [(step_join hstep).1]; rfl) hr
    | rethrow => exact absurd (by rw [(step_rethrow hstep).1]; rfl) hr

/-! ## Whole runs -/

/-- Since it computed the ranges of the table, call `i` has handed every one of them to
`process_range_sync` once, or a batch head has found `is_running_` cleared. -/
def RangesProcessed (cfg : LoaderConfig) (i : ℕ) (table : String) (h : List Action) : Prop :=
  ∃ ranges, SinceRanges cfg i h ranges fun log =>
    .batchHead false ∈ log ∨ (processed table log).Perm ranges

/-- A table that is counted as completed at this step is one whose ranges were processed. -/
def CompletedProcessed (cfg : LoaderConfig) (pre : List Action) (a : Action) : Prop :=
  ∀ i table, a = .act i (.countCompleted table) → RangesProcessed cfg i table pre

theorem rangesProcessed_of_countCompleted {c c' : Call} {table : String}
    (hinv : OnTable (TableInv cfg i h) c)
    (hstep : callStep cfg m c (.countCompleted table) = some (m', c')) :
    RangesProcessed cfg i table h := by
  obtain ⟨r, rest, hpc, hstage, htable, _, _⟩ := callStep_countCompleted hstep
  have hacc := (hinv r rest hpc).accounted (by rw [hstage]; rfl)
  refine ⟨r.ranges, hacc.imp fun log hlog => ?_⟩
  unfold BatchInv at hlog
  rw [hstage] at hlog
  rwa [htable]

theorem onTable_tableInv_step {c c' : Call} {a : CallAction} (hinv : OnTable (TableInv cfg i h) c)
    (hstep : callStep cfg m c a = some (m', c')) :
    OnTable (TableInv cfg i (h ++ [PoolAction.act i a])) c' := by
  refine hinv.step hstep (fun _ _ _ => TableInv.entered _) (fun _ _ => TableInv.entered _) ?_
  intro b r r' ha hr htable
  rw [ha]
  exact hr.step htable

theorem completedProcessed_of_runs {p : State} (hrun : runs cfg filter h = some p) :
    Pool.Holds (fun h _ => EachStep (CompletedProcessed cfg) h)
      (fun h _ i c => OnTable (TableInv cfg i h) c) h p := by
  refine Pool.invariant_of_meets (eachStep_nil _) ?_ ?_ ?_ h p (Pool.meets_true h) hrun
  · intro h p k hp _ _
    exact ⟨hp.1.concat (by simp [CompletedProcessed]), onTable_entry _ k,
      fun j u hu r rest hpc => (hu r rest hpc).other (by simp)⟩
  · intro h p i a c m' c' hp _ hc hstep
    have hinv := hp.2 i c hc
    refine ⟨hp.1.concat ?_, onTable_tableInv_step hinv hstep, ?_⟩
    · intro j table heq
      simp only [PoolAction.act.injEq] at heq
      obtain ⟨rfl, rfl⟩ := heq
      exact rangesProcessed_of_countCompleted hinv hstep
    · intro j u hj hu r rest hpc
      refine (hu r rest hpc).other fun b heq => ?_
      simp only [PoolAction.act.injEq] at heq
      exact hj heq.1.symm
  · intro h p e m' hp _ _
    exact ⟨hp.1.concat (by simp [CompletedProcessed]),
      fun j u hu r rest hpc => (hu r rest hpc).other (by simp)⟩

/-- A worker's error is counted in `skipped_ranges_` by the step in which it ends. -/
theorem skippedRanges_of_step {p p' : State} {table : String} {range : TokenRange} {e : String}
    (hstep : Pool.step (program cfg) p
      (.act i (.table (.processRange table range (.syncError e)))) = some p') :
    p.mem.counters.skippedRanges < p'.mem.counters.skippedRanges := by
  obtain ⟨c, m', c', _, hthread, hp'⟩ := Pool.step_act hstep
  obtain ⟨r, rest, r', _, htable, _⟩ := callStep_table hthread
  rw [hp', (step_processRange htable).2.2.2.1]
  exact skippedRanges_processRange cfg p.mem e

/-- Every failed range of the run was counted in `skipped_ranges_`. -/
def FailuresCounted (cfg : LoaderConfig) (filter : Option SSTableBlacklistGovernor)
    (h : List Action) : Prop :=
  ∀ pre i table range e post,
    h = pre ++ .act i (.table (.processRange table range (.syncError e))) :: post →
    ∃ q q', runs cfg filter pre = some q ∧
      Pool.step (program cfg) q (.act i (.table (.processRange table range (.syncError e)))) =
        some q' ∧
      q.mem.counters.skippedRanges < q'.mem.counters.skippedRanges

/-- In every run, a table is counted as completed only after each range computed for it
was handed to `process_range_sync` exactly once, unless a batch head of that table found
`is_running_` cleared; and each range that failed is counted in `skipped_ranges_`. -/
theorem completed_table_processed (cfg : LoaderConfig)
    (filter : Option SSTableBlacklistGovernor) (h : List Action) (p : State)
    (hrun : runs cfg filter h = some p) :
    EachStep (CompletedProcessed cfg) h ∧ FailuresCounted cfg filter h := by
  refine ⟨(completedProcessed_of_runs hrun).1, ?_⟩
  intro pre i table range e post heq
  rw [heq] at hrun
  obtain ⟨q, q', hq, hstep, _⟩ := run_append_cons_eq_some hrun
  exact ⟨q, q', hq, hstep, skippedRanges_of_step hstep⟩

/-- The steps of `migrate_table` when the eight ranges of `oneTable` make one batch. -/
def oneBatch (outcome : ℕ → Outcome) : List TableAction :=
  .resolvePartitionKeys .ok :: .calculateRanges (.syncError "unreachable") :: .batchHead true ::
    .loadPaused false :: (List.replicate 8 TableAction.startWorker ++
      ((List.range 8).map
          (fun k => TableAction.processRange "app.files" (tokenRange 8 k) (outcome k)) ++
        [TableAction.join, TableAction.leaveLoop]))

/-- A migration of its table during which the query of one range times out. -/
def oneRangeFails : List Action :=
  .spawn (.migrateSingleTable "app" "files") :: (enterTable ++
    (oneBatch fun k => if k = 3 then .syncError "timeout" else .ok).map CallAction.table).map
      (PoolAction.act 0)

/-- The same run up to the end of the table. -/
def oneRangeFailsCompleted : List Action :=
  oneRangeFails ++ [(.act 0 (.countCompleted "app.files") : Action)]

theorem exists_oneRangeFails : ∃ p, runs oneTable none oneRangeFailsCompleted = some p :=
  Option.isSome_iff_exists.mp (by decide +kernel)

/-- The table is counted as completed although one range was never read. -/
theorem failed_range_completed :
    ¬ ∀ (h : List Action) (p : State), runs oneTable none h = some p →
      EachStep (fun pre a => ∀ i table, a = .act i (.countCompleted table) →
        ∃ ranges, SinceRanges oneTable i pre ranges fun log =>
          ∀ range ∈ ranges, .processRange table range .ok ∈ log) h := by
  intro hall
  obtain ⟨p, hrun⟩ := exists_oneRangeFails
  obtain ⟨ranges, pre, peers, mid, heq, hranges, _, hnormal⟩ :=
    hall _ p hrun oneRangeFails _ [] rfl 0 "app.files" rfl
  have hcalc : .act 0 (.table (.calculateRanges peers)) ∈ oneRangeFails := by
    rw [heq]
    simp
  have hpeers : peers = .syncError "unreachable" := by
    simpa [oneRangeFails, oneBatch, enterTable] using hcalc
  have hmem : tokenRange 8 3 ∈ ranges := by
    rw [hpeers, calculateRanges_eq (by decide), Option.some.injEq] at hranges
    rw [← hranges]
    exact List.mem_map_of_mem (List.mem_range.mpr (by decide))
  -- the last range of eight would have been processed without an error
  have hprocessed := mem_tableActions.mp (hnormal _ hmem)
  have hnot : .act 0 (.table (.processRange "app.files" (tokenRange 8 3) .ok)) ∉
      oneRangeFails := by decide +kernel
  apply hnot
  rw [heq]
  exact List.mem_append_right _ (List.mem_cons_of_mem _ hprocessed)

/-- That run is one of those the theorem is about. -/
theorem completed_table_processed_oneRangeFails :
    ∃ p, runs oneTable none oneRangeFailsCompleted = some p ∧
      EachStep (CompletedProcessed oneTable) oneRangeFailsCompleted ∧
      FailuresCounted oneTable none oneRangeFailsCompleted := by
  obtain ⟨p, hrun⟩ := exists_oneRangeFails
  exact ⟨p, hrun, completed_table_processed oneTable none oneRangeFailsCompleted p hrun⟩

end SSTableLoader
end ScyllaClusterSync
