import ScyllaClusterSync.SSTableLoader.Config
import ScyllaClusterSync.SSTableLoader.DispatchTheorems
import ScyllaClusterSync.SSTableLoader.TokenRangeTheorems

/-!
# Which configurations terminate

`num_ranges_per_core` is a factor of the divisor in `calculate_ranges`, and
`max_concurrent_loaders` is the step of the batch loop. Both come from the configuration as
they are. When neither is zero, `stepsLeft` pays for every step; a zero in the first is the
division by zero, and with a zero in the second the loop comes back to where it was.
-/

namespace ScyllaClusterSync
namespace SSTableLoader

open Svckit Lib

variable {cfg : LoaderConfig} {table : TableConfig} {m m' : Loader} {r r' : TableRun}
  {log : List LoopAction} {s s' : Loader × TableRun}

/-- A run of `migrate_table` from its first step, on a loader that is running and not paused,
without a pause. -/
def UnpausedRun (cfg : LoaderConfig) (table : TableConfig) (log : List LoopAction)
    (s : Loader × TableRun) : Prop :=
  ∃ m : Loader, m.isRunning = true ∧ m.isPaused = false ∧ .control .pause ∉ log ∧
    run (loopStep cfg) (m, { table := table }) log = some s

/-- `migrate_table` divides by no zero, takes a bounded number of steps, and where it has no
next step and was not stopped, it has returned with every range processed, or has thrown
because a worker could not be started. -/
structure MigrationTerminates (cfg : LoaderConfig) : Prop where
  defined : ∀ table log s, UnpausedRun cfg table log s → s.2.stage ≠ .dividedByZero
  bounded : ∃ n, ∀ table log s, UnpausedRun cfg table log s → (tableSteps log).length ≤ n
  ends : ∀ table log s, UnpausedRun cfg table log s → .control .stop ∉ log →
    (∀ a, loopStep cfg s (.table a) = none) →
      (s.2.stage = .returned ∧ (∃ peers,
        calculateRanges peers cfg.numRangesPerCore = some s.2.ranges) ∧
        (processed table.name (tableSteps log)).Perm s.2.ranges) ∨
      (s.2.stage = .threw ∧ .startWorkerFails ∈ tableSteps log)

/-! ## Where no number is zero -/

/-- Where a run of `migrate_table` stands, and how many steps it has taken. -/
inductive Progress (cfg : LoaderConfig) (table : TableConfig) :
    List TableAction → TableRun → Prop
  | entered : Progress cfg table [] { table := table }
  | resolved (schema : Outcome) : Progress cfg table [.resolvePartitionKeys schema]
      { table := table, stage := .ranges, partitionKeys := resolvePartitionKeys table schema }
  | looping (schema peers : Outcome) (steps : List TableAction) (r : TableRun)
      (ranges : calculateRanges peers cfg.numRangesPerCore = some r.ranges)
      (loop : LoopInv cfg table.name r.ranges steps r) (gate : r.stage ≠ .pauseCheck)
      (paid : steps.length + r.stepsLeft cfg ≤ 5 * r.ranges.length + 1) :
      Progress cfg table (.resolvePartitionKeys schema :: .calculateRanges peers :: steps) r

/-- Without a pause there is no wait. -/
theorem not_waits_of_unpaused {a : TableAction} (hpaused : m.isPaused = false)
    (hgate : r.stage ≠ .pauseCheck) (hstep : migrateTableStep cfg m r a = some (m', r')) :
    a.waits = false ∧ r'.stage ≠ .pauseCheck := by
  cases a with
  | resolvePartitionKeys schema => rw [(step_resolvePartitionKeys hstep).2.2]; exact ⟨rfl, by simp⟩
  | calculateRanges peers =>
    obtain ⟨_, _, hr⟩ := step_calculateRanges hstep
    rcases hr with ⟨ranges, _, hr⟩ | hr <;> rw [hr] <;> exact ⟨rfl, by simp⟩
  | leaveLoop => rw [(step_leaveLoop hstep).2.2.2]; exact ⟨rfl, by simp⟩
  | batchHead running =>
    rw [(step_batchHead hstep).2.2.2.2]
    cases running <;> exact ⟨rfl, by simp⟩
  | loadPaused paused =>
    obtain ⟨_, hobs, _, hr⟩ := step_loadPaused hstep
    rw [hpaused] at hobs
    subst hobs
    rw [hr]
    exact ⟨rfl, by simp [TableRun.enterBatch]⟩
  | pauseCheck running => exact absurd (step_pauseCheck hstep).1 hgate
  | startWorker => rw [(step_startWorker hstep).2.2.2]; exact ⟨rfl, hgate⟩
  | startWorkerFails => rw [(step_startWorkerFails hstep).2.2]; exact ⟨rfl, by simp⟩
  | processRange t range o => rw [(step_processRange hstep).2.2.2.2]; exact ⟨rfl, hgate⟩
  | join => rw [(step_join hstep).2.2.2.2]; exact ⟨rfl, by simp⟩
  | rethrow => rw [(step_rethrow hstep).2.2]; exact ⟨rfl, by simp⟩

/-- Every step is progress. -/
theorem Progress.step {steps : List TableAction} {a : TableAction}
    (hranges : 1 ≤ cfg.numRangesPerCore) (hconcurrent : 1 ≤ cfg.maxConcurrentLoaders.toNat)
    (hinv : Progress cfg table steps r) (hpaused : m.isPaused = false)
    (hstep : migrateTableStep cfg m r a = some (m', r')) :
    Progress cfg table (steps ++ [a]) r' := by
  cases hinv with
  | entered =>
    obtain ⟨schema, rfl⟩ := action_of_partitionKeys rfl hstep
    rw [(step_resolvePartitionKeys hstep).2.2]
    exact .resolved schema
  | resolved schema =>
    obtain ⟨peers, rfl⟩ := action_of_ranges rfl hstep
    obtain ⟨_, _, ⟨ranges, hcalc, hr⟩ | hr⟩ := step_calculateRanges hstep
    · rw [hr]
      refine .looping schema peers [] _ hcalc ⟨rfl, rfl, rfl, batchInv_ranges cfg rfl rfl rfl,
        (Nat.zero_mul _).symm⟩ (by simp) ?_
      rw [stepsLeft_loopHead rfl]
      exact Nat.le_of_eq (Nat.zero_add _)
    · -- the divisor is not zero
      simp [migrateTableStep, calculateRanges_eq hranges, hr] at hstep
  | looping schema peers steps r hcalc hloop hgate hpaid =>
    obtain ⟨hwaits, hgate'⟩ := not_waits_of_unpaused hpaused hgate hstep
    have hleft := stepsLeft_step hconcurrent hloop.accounted hloop.known hstep
    obtain ⟨_, hsame, _⟩ := hasRanges_step hloop.known hstep
    rw [hwaits, if_neg Bool.false_ne_true] at hleft
    rw [List.cons_append, List.cons_append]
    refine .looping schema peers (steps ++ [a]) r' (hsame ▸ hcalc) ?_ hgate' ?_
    · rw [hsame]
      exact hloop.step hstep
    · rw [hsame, List.length_append, List.length_singleton]
      omega

/-- Without a pause the loader stays unpaused. -/
theorem isPaused_of_loopStep {b : LoopAction} (hb : b ≠ .control .pause)
    (hpaused : s.1.isPaused = false) (hstep : loopStep cfg s b = some s') :
    s'.1.isPaused = false := by
  cases b with
  | table a => exact (migrateTableStep_frame hstep).2.1.trans hpaused
  | control e =>
    obtain rfl := Option.some.inj hstep
    cases e with
    | pause => exact absurd rfl hb
    | resume => rfl
    | _ => exact hpaused

theorem progress_of_unpausedRun (hranges : 1 ≤ cfg.numRangesPerCore)
    (hconcurrent : 1 ≤ cfg.maxConcurrentLoaders.toNat) (hrun : UnpausedRun cfg table log s) :
    Progress cfg table (tableSteps log) s.2 := by
  obtain ⟨m, _, hpaused, hpause, hrun⟩ := hrun
  have hinv := @run_invariant _ _ (loopStep cfg) (m, { table := table })
    (fun log s => .control .pause ∉ log →
      s.1.isPaused = false ∧ Progress cfg table (tableSteps log) s.2)
    (fun _ => ⟨hpaused, .entered⟩) ?_ log s hrun
  · exact (hinv hpause).2
  · intro log s b s' hinv hstep hpause
    rw [List.mem_append, List.mem_singleton, not_or] at hpause
    obtain ⟨hunpaused, hprogress⟩ := hinv hpause.1
    refine ⟨isPaused_of_loopStep (Ne.symm hpause.2) hunpaused hstep, ?_⟩
    cases b with
    | table a =>
      rw [tableSteps_concat_table]
      exact hprogress.step hranges hconcurrent hunpaused hstep
    | control e =>
      obtain rfl := Option.some.inj hstep
      rw [tableSteps_concat_control]
      exact hprogress

theorem length_ranges_lt {peers : Outcome} {ranges : List TokenRange}
    (hranges : 1 ≤ cfg.numRangesPerCore)
    (hcalc : calculateRanges peers cfg.numRangesPerCore = some ranges) : ranges.length < 2 ^ 37 := by
  rw [calculateRanges_eq hranges, Option.some.injEq] at hcalc
  rw [← hcalc, List.length_map, List.length_range]
  exact totalRanges_lt peers cfg.numRangesPerCore

theorem Progress.length_le {steps : List TableAction} (hranges : 1 ≤ cfg.numRangesPerCore)
    (hinv : Progress cfg table steps r) : steps.length ≤ 5 * 2 ^ 37 + 3 := by
  cases hinv with
  | entered => exact Nat.zero_le _
  | resolved schema => exact Nat.le_add_left 1 _
  | looping schema peers steps r hcalc _ _ hpaid =>
    have hlen := length_ranges_lt hranges hcalc
    simp only [List.length_cons]
    omega

theorem Progress.defined {steps : List TableAction} (hinv : Progress cfg table steps r) :
    r.stage ≠ .dividedByZero := by
  cases hinv with
  | entered => simp
  | resolved schema => simp
  | looping schema peers steps r _ hloop _ _ =>
    intro hstage
    have hknown := hloop.known
    rw [hstage] at hknown
    exact absurd hknown (by decide)

/-- Where the loop has no next step it has ended. -/
theorem Progress.ended {steps : List TableAction} (hinv : Progress cfg table steps r)
    (hhead : .batchHead false ∉ steps) (hlast : ∀ a, migrateTableStep cfg m r a = none) :
    (r.stage = .returned ∧ (∃ peers, calculateRanges peers cfg.numRangesPerCore = some r.ranges) ∧
      (processed table.name steps).Perm r.ranges) ∨
    (r.stage = .threw ∧ .startWorkerFails ∈ steps) := by
  cases hinv with
  | entered =>
    have hnone := hlast (.resolvePartitionKeys .ok)
    simp [migrateTableStep] at hnone
  | resolved schema =>
    have hnone := hlast (.calculateRanges .ok)
    rw [migrateTableStep, if_pos rfl] at hnone
    split at hnone <;> simp at hnone
  | looping schema peers steps r hcalc hloop _ _ =>
    rcases exists_step hloop.accounted hloop.known m with hreturned | hthrew | ⟨a, m', r', hstep⟩
    · have hbatch := hloop.accounted
      rw [BatchInv, hreturned, hloop.table] at hbatch
      refine Or.inl ⟨hreturned, ⟨peers, hcalc⟩, hbatch.resolve_left fun hmem => hhead ?_⟩
      exact List.mem_cons_of_mem _ (List.mem_cons_of_mem _ hmem)
    · -- a worker could not be started
      have hheads := hloop.heads
      rw [HeadInv, hthrew] at hheads
      exact Or.inr ⟨hthrew, List.mem_cons_of_mem _ (List.mem_cons_of_mem _ hheads.1)⟩
    · rw [hlast a] at hstep
      simp at hstep

theorem migrationTerminates_of_pos (hranges : 1 ≤ cfg.numRangesPerCore)
    (hconcurrent : 1 ≤ cfg.maxConcurrentLoaders) : MigrationTerminates cfg := by
  have hpos : 1 ≤ cfg.maxConcurrentLoaders.toNat := UInt32.le_iff_toNat_le.mp hconcurrent
  refine ⟨?_, ⟨5 * 2 ^ 37 + 3, ?_⟩, ?_⟩
  · intro table log s hrun
    exact (progress_of_unpausedRun hranges hpos hrun).defined
  · intro table log s hrun
    exact (progress_of_unpausedRun hranges hpos hrun).length_le hranges
  · intro table log s hrun hstop hlast
    have hprogress := progress_of_unpausedRun hranges hpos hrun
    obtain ⟨m, hrunning, _, _, hrun⟩ := hrun
    refine @Progress.ended _ _ s.1 _ _ hprogress (heads_of_unstopped hrunning hrun hstop).2
      fun a => ?_
    have hnone : migrateTableStep cfg s.1 s.2 a = none := by
      simpa [loopStep] using hlast a
    exact hnone

/-! ## Where one of them is zero -/

/-- The two steps before the loop. -/
def beforeLoop : List LoopAction :=
  [.table (.resolvePartitionKeys .ok), .table (.calculateRanges .ok)]

/-- One round of the loop over an empty batch. -/
def emptyRound : List LoopAction :=
  [.table (.batchHead true), .table (.loadPaused false), .table .join]

/-- A loader that is running. -/
def runningLoader : Loader := { isRunning := true, filter := none }

/-- With no ranges for a core the total is zero, and it is divided by. -/
theorem run_beforeLoop_zero (hzero : cfg.numRangesPerCore = 0) (table : TableConfig) :
    UnpausedRun cfg table beforeLoop (runningLoader,
      { table, stage := .dividedByZero, partitionKeys := resolvePartitionKeys table .ok }) := by
  refine ⟨runningLoader, rfl, rfl, by decide, ?_⟩
  simp [beforeLoop, run, loopStep, migrateTableStep, hzero, calculateRanges_zero]

/-- With no worker at a time a round of the loop leads back to its start. -/
theorem run_emptyRound (hzero : cfg.maxConcurrentLoaders = 0) (table : TableConfig)
    (partitionKeys : List String) (range : TokenRange) (rest : List TokenRange) :
    run (loopStep cfg) (runningLoader, .atLoop table partitionKeys (range :: rest)) emptyRound =
      some (runningLoader, .atLoop table partitionKeys (range :: rest)) := by
  simp [emptyRound, run, loopStep, migrateTableStep, TableRun.atLoop, TableRun.enterBatch,
    TableRun.batchEnd, runningLoader, hzero]

theorem run_emptyRounds (hzero : cfg.maxConcurrentLoaders = 0) (table : TableConfig)
    (partitionKeys : List String) (range : TokenRange) (rest : List TokenRange) (n : ℕ) :
    run (loopStep cfg) (runningLoader, .atLoop table partitionKeys (range :: rest))
        (List.replicate n emptyRound).flatten =
      some (runningLoader, .atLoop table partitionKeys (range :: rest)) := by
  induction n with
  | zero => rfl
  | succ n ih =>
    rw [List.replicate_succ, List.flatten_cons, run_append, run_emptyRound hzero,
      Option.bind_some, ih]

/-- As many rounds as one likes. -/
theorem unpausedRun_emptyRounds (hranges : 1 ≤ cfg.numRangesPerCore)
    (hzero : cfg.maxConcurrentLoaders = 0) (table : TableConfig) (n : ℕ) :
    ∃ s, UnpausedRun cfg table (beforeLoop ++ (List.replicate n emptyRound).flatten) s := by
  obtain ⟨range, rest, hcalc⟩ := exists_cons_ranges .ok hranges
  have hbefore : run (loopStep cfg) (runningLoader, { table := table }) beforeLoop =
      some (runningLoader,
        .atLoop table (resolvePartitionKeys table .ok) (range :: rest)) := by
    simp [beforeLoop, run, loopStep, migrateTableStep, TableRun.atLoop, hcalc]
  refine ⟨(runningLoader, .atLoop table (resolvePartitionKeys table .ok) (range :: rest)),
    runningLoader, rfl, rfl, ?_, ?_⟩
  · simp [beforeLoop, emptyRound, List.mem_replicate]
  · rw [run_append, hbefore, Option.bind_some, run_emptyRounds hzero]

theorem length_tableSteps_emptyRounds (n : ℕ) :
    (tableSteps (beforeLoop ++ (List.replicate n emptyRound).flatten)).length = 2 + 3 * n := by
  induction n with
  | zero => rfl
  | succ n ih =>
    rw [List.replicate_succ', List.flatten_append, ← List.append_assoc, tableSteps_append,
      List.length_append, ih]
    rfl

/-! ## The result -/

/-- The migration of every table is defined and terminates exactly when neither number of
the configuration is zero. -/
theorem migration_terminates_iff (cfg : LoaderConfig) :
    MigrationTerminates cfg ↔ 1 ≤ cfg.numRangesPerCore ∧ 1 ≤ cfg.maxConcurrentLoaders := by
  constructor
  · intro hterminates
    have hranges : 1 ≤ cfg.numRangesPerCore := by
      refine one_le_of_ne_zero fun hzero => ?_
      exact hterminates.defined { name := "app.files" } _ _ (run_beforeLoop_zero hzero _) rfl
    refine ⟨hranges, one_le_of_ne_zero fun hzero => ?_⟩
    -- one round more than there are steps
    obtain ⟨n, hn⟩ := hterminates.bounded
    obtain ⟨s, hrun⟩ := unpausedRun_emptyRounds hranges hzero { name := "app.files" } n
    have hle := hn _ _ _ hrun
    rw [length_tableSteps_emptyRounds] at hle
    omega
  · intro hboth
    exact migrationTerminates_of_pos hboth.1 hboth.2

/-- Decimal numbers, and no text for `as<bool>`. -/
def decimal : Conversions where
  asString node := match node with
    | .scalar text => some text
    | _ => none
  asUInt32 node := match node with
    | .scalar text => (readDigits text.toList).bind fun (n, rest) =>
      if n < 2 ^ 32 ∧ rest = [] then some (.ofNat n) else none
    | _ => none
  asBool _ := none

/-- `max_concurrent_loaders: 0` is accepted, and the loop over the ranges never ends. -/
theorem zero_accepted :
    ¬ ∀ (conv : Conversions) (node : Option Node) (cfg : LoaderConfig),
      parseLoaderConfig conv node = some cfg → MigrationTerminates cfg := by
  intro hall
  have hzero : decimal.asUInt32 (.scalar "0") = some 0 := by decide +kernel
  have hfour : decimal.asUInt32 (.scalar "4") = some 4 := by decide +kernel
  have hterminates := hall decimal _ _ (parseLoaderConfig_twoNumbers decimal hfour hzero)
  obtain ⟨n, hn⟩ := hterminates.bounded
  obtain ⟨s, hrun⟩ := @unpausedRun_emptyRounds
    { numRangesPerCore := 4, maxConcurrentLoaders := 0 } (by decide) rfl { name := "app.files" } n
  have hle := hn _ _ _ hrun
  rw [length_tableSteps_emptyRounds] at hle
  omega

end SSTableLoader
end ScyllaClusterSync
