import ScyllaClusterSync.SSTableLoader.LoaderTheorems
import ScyllaClusterSync.SSTableLoader.TokenRangeTheorems

/-!
# Which tables are migrated, whatever the blacklist says

`start_migration` asks the governor before each table, `migrate_single_table` does not.
So the tables whose ranges are processed are tables the governor allows or arguments of
`migrate_single_table`, and every such argument is processed in some run as long as there
is a range to process.
-/

namespace ScyllaClusterSync
namespace SSTableLoader

open Svckit Lib

variable {cfg : LoaderConfig} {config : FilterConfig} {K : Set Request} {h : List Action}
  {m m' : Loader} {r r' : TableRun}

/-! ## What reaches `process_range_sync` -/

/-- Allowed by the governor, or requested by name. -/
def TableAdmitted (config : FilterConfig) (K : Set Request) (table : String) : Prop :=
  ¬ (Blacklists.load config).skipsTable table ∨
    ∃ ks t, .migrateSingleTable ks t ∈ K ∧ table = fullName ks t

structure GateInv (config : FilterConfig) (K : Set Request) (h : List Action) (m : Loader) :
    Prop where
  configured : Configured config m
  processed : ∀ i table range o, .act i (.table (.processRange table range o)) ∈ h →
    TableAdmitted config K table

structure GateCallInv (config : FilterConfig) (K : Set Request) (c : Call) : Prop where
  request : c.request ∈ K
  table : OnTable (fun r => TableAdmitted config K r.table.name) c

theorem GateCallInv.step {c c' : Call} {a : CallAction} (hinv : GateCallInv config K c)
    (hm : Configured config m) (hstep : callStep cfg m c a = some (m', c')) :
    GateCallInv config K c' := by
  refine ⟨?_, hinv.table.step hstep ?_ ?_ ?_⟩
  · rw [(callStep_frame hstep).1]
    exact hinv.request
  · intro ks t hrequest
    exact Or.inr ⟨ks, t, hrequest ▸ hinv.request, rfl⟩
  · intro table hallow
    exact Or.inl fun hskip => hallow ((shouldSkipTable_eq_skipTable hm table.name).mpr hskip)
  · intro b r r' _ hr htable
    rw [(migrateTableStep_frame htable).2.2.2]
    exact hr

theorem GateInv.concat {b : Action} (hinv : GateInv config K h m) (hm' : Configured config m')
    (hb : ∀ i table range o, b = .act i (.table (.processRange table range o)) →
      TableAdmitted config K table) : GateInv config K (h ++ [b]) m' := by
  refine ⟨hm', fun i table range o hmem => ?_⟩
  rcases List.mem_append.mp hmem with hmem | hmem
  · exact hinv.processed i table range o hmem
  · exact hb i table range o (List.mem_singleton.mp hmem).symm

theorem GateInv.call {c c' : Call} {i : ℕ} {a : CallAction} (hinv : GateInv config K h m)
    (hc : GateCallInv config K c) (hstep : callStep cfg m c a = some (m', c')) :
    GateInv config K (h ++ [PoolAction.act i a]) m' := by
  refine hinv.concat (configured_callStep hstep hinv.configured) ?_
  intro j table range o heq
  simp only [PoolAction.act.injEq] at heq
  obtain ⟨-, rfl⟩ := heq
  obtain ⟨r, rest, r', hpc, htable, _⟩ := callStep_table hstep
  rw [(step_processRange htable).2.1]
  exact hc.table r rest hpc

theorem gateInv_of_runs {p : State}
    (hrun : runs cfg (some (.ofConfig config)) h = some p) (hK : ∀ k, .spawn k ∈ h → k ∈ K) :
    Pool.Holds (GateInv config K) (fun _ _ _ c => GateCallInv config K c) h p := by
  have hmem : ∀ a ∈ h, ∀ k, a = .spawn k → k ∈ K := fun a ha k heq => hK k (heq ▸ ha)
  refine Pool.invariant_of_meets ?_ ?_ ?_ ?_ h p ((Pool.meets_true h).and_of_mem hmem) hrun
  · exact ⟨⟨_, rfl, rfl⟩, by simp⟩
  · intro h p k hp hC _
    exact ⟨hp.1.concat hp.1.configured (by simp), ⟨hC.2 k rfl, onTable_entry _ k⟩,
      fun j u hu => hu⟩
  · intro h p i a c m' c' hp _ hc hstep
    have hlocal := hp.2 i c hc
    exact ⟨hp.1.call hlocal hstep, hlocal.step hp.1.configured hstep, fun j u _ hu => hu⟩
  · intro h p e m' hp _ hstep
    obtain rfl := Option.some.inj hstep
    exact ⟨hp.1.concat (configured_envStep e hp.1.configured) (by simp), fun j u hu => hu⟩

/-! ## Configurations that process nothing -/

/-- No range is computed, or every batch is empty. -/
def ProcessesNothing (cfg : LoaderConfig) : Prop :=
  cfg.numRangesPerCore = 0 ∨ cfg.maxConcurrentLoaders = 0

/-- No worker has been started. -/
structure Idle (cfg : LoaderConfig) (r : TableRun) : Prop where
  workers : r.workers = []
  ranges : cfg.numRangesPerCore = 0 → r.ranges = []
  next : r.stage = .batch → r.batchStart ≤ r.next

theorem Idle.entered (t : TableConfig) : Idle cfg { table := t } :=
  ⟨rfl, fun _ => rfl, by simp⟩

theorem Idle.batchEnd_le (hr : Idle cfg r) (hcfg : ProcessesNothing cfg)
    (hstage : r.stage = .batch) : r.batchEnd cfg ≤ r.next := by
  have hstart := hr.next hstage
  unfold TableRun.batchEnd
  rcases hcfg with hcfg | hcfg
  · rw [hr.ranges hcfg]
    simp
  · rw [hcfg]
    show min (r.batchStart + 0) r.ranges.length ≤ r.next
    omega

theorem Idle.step {a : TableAction} (hr : Idle cfg r) (hcfg : ProcessesNothing cfg)
    (hstep : migrateTableStep cfg m r a = some (m', r')) : Idle cfg r' := by
  cases a with
  | resolvePartitionKeys schema =>
    rw [(step_resolvePartitionKeys hstep).2.2]
    exact ⟨hr.workers, hr.ranges, by simp⟩
  | calculateRanges peers =>
    rcases (step_calculateRanges hstep).2.2 with ⟨ranges, hranges, heq⟩ | heq
    · rw [heq]
      refine ⟨hr.workers, fun hzero => ?_, by simp⟩
      rw [hzero, calculateRanges_zero] at hranges
      exact absurd hranges (by simp)
    · rw [heq]
      exact ⟨hr.workers, hr.ranges, by simp⟩
  | leaveLoop =>
    rw [(step_leaveLoop hstep).2.2.2]
    exact ⟨hr.workers, hr.ranges, by simp⟩
  | batchHead running =>
    rw [(step_batchHead hstep).2.2.2.2]
    exact ⟨hr.workers, hr.ranges, by cases running <;> simp⟩
  | loadPaused paused =>
    rw [(step_loadPaused hstep).2.2.2]
    cases paused with
    | false => exact ⟨hr.workers, hr.ranges, fun _ => le_refl _⟩
    | true => exact ⟨hr.workers, hr.ranges, by simp⟩
  | pauseCheck running =>
    rw [(step_pauseCheck hstep).2.2.2]
    cases running with
    | false => exact ⟨hr.workers, hr.ranges, fun _ => le_refl _⟩
    | true => exact ⟨hr.workers, hr.ranges, by simp⟩
  -- no worker is ever started, as the batch is at its end from the beginning
  | startWorker =>
    obtain ⟨hstage, hlt, _⟩ := step_startWorker hstep
    have hle := hr.batchEnd_le hcfg hstage
    omega
  | startWorkerFails =>
    rw [(step_startWorkerFails hstep).2.2]
    exact ⟨hr.workers, hr.ranges, by simp⟩
  | processRange table range o =>
    have hmem := (step_processRange hstep).2.2.1
    rw [hr.workers] at hmem
    exact absurd hmem List.not_mem_nil
  | join =>
    rw [(step_join hstep).2.2.2.2]
    exact ⟨hr.workers, hr.ranges, by simp⟩
  | rethrow =>
    rw [(step_rethrow hstep).2.2]
    exact ⟨hr.workers, hr.ranges, by simp⟩

/-- Without a range or without a worker, no run processes anything. -/
theorem not_processRange_of_processesNothing (hcfg : ProcessesNothing cfg)
    {filter : Option SSTableBlacklistGovernor} {p : State} (hrun : runs cfg filter h = some p)
    {i : ℕ} {table : String} {range : TokenRange} {o : Outcome} :
    .act i (.table (.processRange table range o)) ∉ h := by
  have hinv : Pool.Holds
      (fun (h : List Action) (_ : Loader) => ∀ i table range o,
        .act i (.table (.processRange table range o)) ∉ h)
      (fun _ _ _ c => OnTable (Idle cfg) c) h p := by
    refine Pool.invariant_of_meets (by simp) ?_ ?_ ?_ h p (Pool.meets_true h) hrun
    · intro h p k hp _ _
      refine ⟨fun i table range o hmem => ?_, onTable_entry _ k, fun j u hu => hu⟩
      simp only [List.mem_append, List.mem_singleton, reduceCtorEq, or_false] at hmem
      exact hp.1 i table range o hmem
    · intro h p i a c m' c' hp _ hc hstep
      have hidle := hp.2 i c hc
      refine ⟨fun j table range o hmem => ?_, hidle.step hstep (fun _ _ _ => Idle.entered _)
        (fun _ _ => Idle.entered _) (fun _ _ _ _ hr htable => hr.step hcfg htable),
        fun j u _ hu => hu⟩
      rcases List.mem_append.mp hmem with hmem | hmem
      · exact hp.1 j table range o hmem
      · obtain ⟨-, rfl⟩ := PoolAction.act.inj (List.mem_singleton.mp hmem)
        -- only a started worker processes a range
        obtain ⟨r, rest, r', hpc, htable, _⟩ := callStep_table hstep
        have hworker := (step_processRange htable).2.2.1
        rw [(hidle r rest hpc).workers] at hworker
        exact List.not_mem_nil hworker
    · intro h p e m' hp _ _
      refine ⟨fun i table range o hmem => ?_, fun j u hu => hu⟩
      simp only [List.mem_append, List.mem_singleton, reduceCtorEq, or_false] at hmem
      exact hp.1 i table range o hmem
  exact hinv.1 i table range o

/-! ## A request by name is carried out -/

theorem exists_ranges (hcfg : ¬ ProcessesNothing cfg) :
    ∃ range rest, calculateRanges .ok cfg.numRangesPerCore = some (range :: rest) :=
  exists_cons_ranges .ok (one_le_of_ne_zero fun hzero => hcfg (Or.inl hzero))

/-- The migration of one table, up to its first range. -/
def firstRange (table : String) (range : TokenRange) : List TableAction :=
  [.resolvePartitionKeys .ok, .calculateRanges .ok, .batchHead true, .loadPaused false,
    .startWorker, .processRange table range .ok]

theorem isSome_run_firstRange (hcfg : ¬ ProcessesNothing cfg) (hrunning : m.isRunning = true)
    (hpaused : m.isPaused = false) (t : TableConfig) :
    ∃ range, (run (migrateTableSolo cfg) (m, { table := t }) (firstRange t.name range)).isSome := by
  obtain ⟨range, rest, hranges⟩ := exists_ranges hcfg
  have hconcurrent : 0 < cfg.maxConcurrentLoaders.toNat :=
    UInt32.le_iff_toNat_le.mp (one_le_of_ne_zero fun hzero => hcfg (Or.inr hzero))
  refine ⟨range, ?_⟩
  simp [firstRange, run, migrateTableSolo, migrateTableStep, hranges, hrunning, hpaused,
    TableRun.enterBatch, TableRun.batchEnd, hconcurrent]

/-- A table requested by name is migrated, whatever the governor says. -/
theorem exists_run_processRange (hcfg : ¬ ProcessesNothing cfg)
    (filter : Option SSTableBlacklistGovernor) (ks t : String) :
    ∃ range h p, runs cfg filter h = some p ∧
      (∀ k, .spawn k ∈ h → k = .migrateSingleTable ks t) ∧
      .act 0 (.table (.processRange (fullName ks t) range .ok)) ∈ h := by
  let m : Loader :=
    { counters := { tablesTotal := 1 }, isRunning := true, isPaused := false, filter := filter }
  obtain ⟨range, hsome⟩ := isSome_run_firstRange hcfg (show m.isRunning = true from rfl) rfl
    { name := fullName ks t }
  obtain ⟨s, hs⟩ := Option.isSome_iff_exists.mp hsome
  let c : Call := { request := .migrateSingleTable ks t, pc := .guard }
  -- `migrate_single_table` gets into `migrate_table` without a look at the governor
  have henter : run (Pool.solo (program cfg) 0) ({ filter := filter }, c) enterTable =
      some (m, { c with pc := .migrating { table := { name := fullName ks t } } [] }) := rfl
  have hsolo : run (Pool.solo (program cfg) 0) ({ filter := filter }, c)
      (enterTable ++ (firstRange (fullName ks t) range).map .table) =
        some (s.1, { c with pc := .migrating s.2 [] }) := by
    rw [run_append, henter, Option.bind_some]
    exact run_table hs
  refine ⟨range, _, _, Pool.run_spawn_solo hsolo, ?_, ?_⟩
  · intro k hk
    simpa using hk
  · simp [firstRange]

/-! ## The blacklist and the requests -/

/-- Whatever requests `K` are issued: no run processes a range of a table that the governor
skips exactly when no request by name in `K` is for such a table, or the configuration has
nothing to process. -/
theorem blacklisted_table_iff (cfg : LoaderConfig) (config : FilterConfig) (K : Set Request) :
    (∀ h p, runs cfg (some (.ofConfig config)) h = some p → (∀ k, .spawn k ∈ h → k ∈ K) →
      ∀ i table range o, .act i (.table (.processRange table range o)) ∈ h →
        ((SSTableBlacklistGovernor.ofConfig config).shouldSkipTable table).1 ≠ .skipTable) ↔
    (∀ ks t, .migrateSingleTable ks t ∈ K →
      ((SSTableBlacklistGovernor.ofConfig config).shouldSkipTable (fullName ks t)).1 ≠
        .skipTable) ∨ ProcessesNothing cfg := by
  constructor
  · intro hsafe
    by_cases hcfg : ProcessesNothing cfg
    · exact Or.inr hcfg
    · refine Or.inl fun ks t hk => ?_
      obtain ⟨range, h, p, hrun, hspawn, hmem⟩ :=
        exists_run_processRange hcfg (some (.ofConfig config)) ks t
      exact hsafe h p hrun (fun k hk' => hspawn k hk' ▸ hk) 0 _ range .ok hmem
  · intro hcond h p hrun hK i table range o hmem
    rcases hcond with hallowed | hcfg
    · rcases (gateInv_of_runs hrun hK).1.processed i table range o hmem with hskip | hname
      · exact fun heq => hskip (SSTableBlacklistGovernor.shouldSkipTable_eq_skipTable.mp heq)
      · obtain ⟨ks, t, hk, rfl⟩ := hname
        exact hallowed ks t hk
    · exact absurd hmem (not_processRange_of_processesNothing hcfg hrun)

/-- The rules file's wildcard entry. -/
def migrationsBlacklist : FilterConfig where
  tableBlacklist := ["*.migrations"]
  tenantIdColumns := ["system_domain_id"]

/-- `migrate_single_table("app", "migrations")` copies a table the wildcard excludes. -/
theorem blacklisted_table_migrated :
    ¬ ∀ (cfg : LoaderConfig) (h : List Action) (p : State),
      runs cfg (some (.ofConfig migrationsBlacklist)) h = some p →
      ∀ i table range o, .act i (.table (.processRange table range o)) ∈ h →
        ((SSTableBlacklistGovernor.ofConfig migrationsBlacklist).shouldSkipTable table).1 ≠
          .skipTable := by
  intro hall
  obtain ⟨range, h, p, hrun, _, hmem⟩ := exists_run_processRange
    (show ¬ ProcessesNothing {} by unfold ProcessesNothing; decide)
    (some (.ofConfig migrationsBlacklist)) "app" "migrations"
  exact hall {} h p hrun 0 _ range .ok hmem (by decide)

end SSTableLoader
end ScyllaClusterSync
