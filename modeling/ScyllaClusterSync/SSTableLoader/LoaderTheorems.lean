import ScyllaClusterSync.SSTableLoader.Loader
import ScyllaClusterSync.SSTableLoader.MigrateTableTheorems

/-!
# What one step of a call on the loader can do

One inversion lemma for each step of a call, and what most steps leave alone: the
request, `is_running_`, and the configuration of the governor.
-/

namespace ScyllaClusterSync
namespace SSTableLoader

open Svckit Lib

variable {cfg : LoaderConfig} {m m' : Loader} {c c' : Call}

/-! ## Inversion of the steps -/

theorem callStep_guard {running : Bool}
    (h : callStep cfg m c (.guard running) = some (m', c')) :
    c.pc = .guard ∧ m.isRunning = running ∧ m' = m ∧
      c' = { c with pc := if running then .rejected else .setup (setupStores c.request) } := by
  simp only [callStep, Option.ite_none_right_eq_some, Option.some.injEq, Prod.mk.injEq] at h
  exact ⟨h.1.1, h.1.2, h.2.1.symm, h.2.2.symm⟩

theorem callStep_setup (h : callStep cfg m c .setup = some (m', c')) :
    ∃ counter v todo, c.pc = .setup ((counter, v) :: todo) ∧ m' = m.store counter v ∧
      c' = { c with pc := .setup todo } := by
  simp only [callStep] at h
  split at h
  next counter v todo hpc =>
    simp only [Option.some.injEq, Prod.mk.injEq] at h
    exact ⟨counter, v, todo, hpc, h.1.symm, h.2.symm⟩
  · simp at h

theorem callStep_setRunning (h : callStep cfg m c .setRunning = some (m', c')) :
    c.pc = .setup [] ∧ m' = { m with isRunning := true } ∧
      c' = { c with pc := afterSetRunning c.request } := by
  simp only [callStep, Option.ite_none_right_eq_some, Option.some.injEq, Prod.mk.injEq] at h
  exact ⟨h.1, h.2.1.symm, h.2.2.symm⟩

theorem callStep_selectTables (h : callStep cfg m c .selectTables = some (m', c')) :
    ∃ keyspaceFilter, c.pc = .selectTables ∧ c.request = .startMigration keyspaceFilter ∧
      m' = m.store .tablesTotal (tablesToMigrate cfg keyspaceFilter).length ∧
      c' = { c with pc := .tableHead (tablesToMigrate cfg keyspaceFilter) } := by
  simp only [callStep] at h
  split at h
  next keyspaceFilter hpc hrequest =>
    simp only [Option.some.injEq, Prod.mk.injEq] at h
    exact ⟨keyspaceFilter, hpc, hrequest, h.1.symm, h.2.symm⟩
  · simp at h

theorem callStep_leaveTables (h : callStep cfg m c .leaveTables = some (m', c')) :
    c.pc = .tableHead [] ∧ m' = m ∧ c' = { c with pc := .clearRunning } := by
  simp only [callStep, Option.ite_none_right_eq_some, Option.some.injEq, Prod.mk.injEq] at h
  exact ⟨h.1, h.2.1.symm, h.2.2.symm⟩

theorem callStep_tableHead {running : Bool}
    (h : callStep cfg m c (.tableHead running) = some (m', c')) :
    ∃ table rest, c.pc = .tableHead (table :: rest) ∧ m.isRunning = running ∧ m' = m ∧
      c' = { c with pc := if running then .filterGate table rest else .clearRunning } := by
  simp only [callStep] at h
  split at h
  next table rest hpc =>
    simp only [Option.ite_none_right_eq_some, Option.some.injEq, Prod.mk.injEq] at h
    exact ⟨table, rest, hpc, h.1, h.2.1.symm, h.2.2.symm⟩
  · simp at h

theorem callStep_shouldSkipTable (h : callStep cfg m c .shouldSkipTable = some (m', c')) :
    ∃ table rest, c.pc = .filterGate table rest ∧ m' = (m.shouldSkipTable table.name).2 ∧
      c' = { c with pc := if (m.shouldSkipTable table.name).1 = .skipTable then .countSkipped rest
        else .migrating { table := table } rest } := by
  simp only [callStep] at h
  split at h
  next table rest hpc =>
    simp only [Option.some.injEq, Prod.mk.injEq] at h
    exact ⟨table, rest, hpc, h.1.symm, h.2.symm⟩
  · simp at h

theorem callStep_countSkipped (h : callStep cfg m c .countSkipped = some (m', c')) :
    ∃ rest, c.pc = .countSkipped rest ∧ m' = m.fetchAdd .tablesSkipped ∧
      c' = { c with pc := .tableHead rest } := by
  simp only [callStep] at h
  split at h
  next rest hpc =>
    simp only [Option.some.injEq, Prod.mk.injEq] at h
    exact ⟨rest, hpc, h.1.symm, h.2.symm⟩
  · simp at h

theorem callStep_table {a : TableAction} (h : callStep cfg m c (.table a) = some (m', c')) :
    ∃ r rest r', c.pc = .migrating r rest ∧ migrateTableStep cfg m r a = some (m', r') ∧
      c' = { c with pc := .migrating r' rest } := by
  simp only [callStep] at h
  split at h
  next r rest hpc =>
    simp only [Option.map_eq_some_iff, Prod.mk.injEq, Prod.exists] at h
    obtain ⟨m₁, r', hstep, hm, hc⟩ := h
    exact ⟨r, rest, r', hpc, hm ▸ hstep, hc.symm⟩
  · simp at h

theorem callStep_countCompleted {table : String}
    (h : callStep cfg m c (.countCompleted table) = some (m', c')) :
    ∃ r rest, c.pc = .migrating r rest ∧ r.stage = .returned ∧ table = r.table.name ∧
      m' = m.fetchAdd .tablesCompleted ∧ c' = { c with pc := afterTable rest c.request } := by
  simp only [callStep] at h
  split at h
  next r rest hpc =>
    simp only [Option.ite_none_right_eq_some, Option.some.injEq, Prod.mk.injEq] at h
    exact ⟨r, rest, hpc, h.1.1, h.1.2, h.2.1.symm, h.2.2.symm⟩
  · simp at h

theorem callStep_rethrow (h : callStep cfg m c .rethrow = some (m', c')) :
    ∃ r rest, c.pc = .migrating r rest ∧ r.stage = .threw ∧ m' = m ∧
      c' = { c with pc := .threw } := by
  simp only [callStep] at h
  split at h
  next r rest hpc =>
    simp only [Option.ite_none_right_eq_some, Option.some.injEq, Prod.mk.injEq] at h
    exact ⟨r, rest, hpc, h.1, h.2.1.symm, h.2.2.symm⟩
  · simp at h

theorem callStep_clearRunning (h : callStep cfg m c .clearRunning = some (m', c')) :
    c.pc = .clearRunning ∧ m' = { m with isRunning := false } ∧
      c' = { c with pc := .finishing } := by
  simp only [callStep, Option.ite_none_right_eq_some, Option.some.injEq, Prod.mk.injEq] at h
  exact ⟨h.1, h.2.1.symm, h.2.2.symm⟩

theorem callStep_finish (h : callStep cfg m c .finish = some (m', c')) :
    c.pc = .finishing ∧ m' = m ∧ c' = { c with pc := .returned m.getStats } := by
  simp only [callStep, Option.ite_none_right_eq_some, Option.some.injEq, Prod.mk.injEq] at h
  exact ⟨h.1, h.2.1.symm, h.2.2.symm⟩

theorem callStep_stopGuard {running : Bool}
    (h : callStep cfg m c (.stopGuard running) = some (m', c')) :
    c.pc = .stopGuard ∧ m.isRunning = running ∧ m' = m ∧
      c' = { c with pc := if running then .stopRunning else .rejected } := by
  simp only [callStep, Option.ite_none_right_eq_some, Option.some.injEq, Prod.mk.injEq] at h
  exact ⟨h.1.1, h.1.2, h.2.1.symm, h.2.2.symm⟩

theorem callStep_stopRunning (h : callStep cfg m c .stopRunning = some (m', c')) :
    c.pc = .stopRunning ∧ m' = { m with isRunning := false } ∧
      c' = { c with pc := .stopPaused } := by
  simp only [callStep, Option.ite_none_right_eq_some, Option.some.injEq, Prod.mk.injEq] at h
  exact ⟨h.1, h.2.1.symm, h.2.2.symm⟩

theorem callStep_stopPaused (h : callStep cfg m c .stopPaused = some (m', c')) :
    c.pc = .stopPaused ∧ m' = { m with isPaused := false } ∧ c' = { c with pc := .stopped } := by
  simp only [callStep, Option.ite_none_right_eq_some, Option.some.injEq, Prod.mk.injEq] at h
  exact ⟨h.1, h.2.1.symm, h.2.2.symm⟩

/-! ## What a step leaves alone -/

@[simp] theorem isRunning_shouldSkipTable (m : Loader) (table : String) :
    (m.shouldSkipTable table).2.isRunning = m.isRunning := by
  unfold Loader.shouldSkipTable
  split <;> rfl

@[simp] theorem isPaused_shouldSkipTable (m : Loader) (table : String) :
    (m.shouldSkipTable table).2.isPaused = m.isPaused := by
  unfold Loader.shouldSkipTable
  split <;> rfl

/-- The request never changes, only three kinds of steps write `is_running_`, and only one
writes `is_paused_`. -/
theorem callStep_frame {a : CallAction} (h : callStep cfg m c a = some (m', c')) :
    c'.request = c.request ∧
      (a ≠ .setRunning → a ≠ .clearRunning → a ≠ .stopRunning →
        m'.isRunning = m.isRunning) ∧
      (a ≠ .stopPaused → m'.isPaused = m.isPaused) := by
  cases a with
  | guard running =>
    obtain ⟨_, _, hm, hc⟩ := callStep_guard h
    rw [hm, hc]; exact ⟨rfl, fun _ _ _ => rfl, fun _ => rfl⟩
  | setup =>
    obtain ⟨_, _, _, _, hm, hc⟩ := callStep_setup h
    rw [hm, hc]; exact ⟨rfl, fun _ _ _ => rfl, fun _ => rfl⟩
  | setRunning =>
    obtain ⟨_, hm, hc⟩ := callStep_setRunning h
    rw [hm, hc]; exact ⟨rfl, fun hne => absurd rfl hne, fun _ => rfl⟩
  | selectTables =>
    obtain ⟨_, _, _, hm, hc⟩ := callStep_selectTables h
    rw [hm, hc]; exact ⟨rfl, fun _ _ _ => rfl, fun _ => rfl⟩
  | leaveTables =>
    obtain ⟨_, hm, hc⟩ := callStep_leaveTables h
    rw [hm, hc]; exact ⟨rfl, fun _ _ _ => rfl, fun _ => rfl⟩
  | tableHead running =>
    obtain ⟨_, _, _, _, hm, hc⟩ := callStep_tableHead h
    rw [hm, hc]; exact ⟨rfl, fun _ _ _ => rfl, fun _ => rfl⟩
  | shouldSkipTable =>
    obtain ⟨_, _, _, hm, hc⟩ := callStep_shouldSkipTable h
    rw [hm, hc]
    exact ⟨rfl, fun _ _ _ => isRunning_shouldSkipTable _ _, fun _ => isPaused_shouldSkipTable _ _⟩
  | countSkipped =>
    obtain ⟨_, _, hm, hc⟩ := callStep_countSkipped h
    rw [hm, hc]; exact ⟨rfl, fun _ _ _ => rfl, fun _ => rfl⟩
  | table a =>
    obtain ⟨_, _, _, _, hstep, hc⟩ := callStep_table h
    obtain ⟨hrunning, hpaused, _⟩ := migrateTableStep_frame hstep
    rw [hc]; exact ⟨rfl, fun _ _ _ => hrunning, fun _ => hpaused⟩
  | countCompleted table =>
    obtain ⟨_, _, _, _, _, hm, hc⟩ := callStep_countCompleted h
    rw [hm, hc]; exact ⟨rfl, fun _ _ _ => rfl, fun _ => rfl⟩
  | rethrow =>
    obtain ⟨_, _, _, _, hm, hc⟩ := callStep_rethrow h
    rw [hm, hc]; exact ⟨rfl, fun _ _ _ => rfl, fun _ => rfl⟩
  | clearRunning =>
    obtain ⟨_, hm, hc⟩ := callStep_clearRunning h
    rw [hm, hc]; exact ⟨rfl, fun _ hne => absurd rfl hne, fun _ => rfl⟩
  | finish =>
    obtain ⟨_, hm, hc⟩ := callStep_finish h
    rw [hm, hc]; exact ⟨rfl, fun _ _ _ => rfl, fun _ => rfl⟩
  | stopGuard running =>
    obtain ⟨_, _, hm, hc⟩ := callStep_stopGuard h
    rw [hm, hc]; exact ⟨rfl, fun _ _ _ => rfl, fun _ => rfl⟩
  | stopRunning =>
    obtain ⟨_, hm, hc⟩ := callStep_stopRunning h
    rw [hm, hc]; exact ⟨rfl, fun _ _ hne => absurd rfl hne, fun _ => rfl⟩
  | stopPaused =>
    obtain ⟨_, hm, hc⟩ := callStep_stopPaused h
    rw [hm, hc]; exact ⟨rfl, fun _ _ _ => rfl, fun hne => absurd rfl hne⟩

/-! ## The table a call is at -/

/-- When the call is inside `migrate_table`, its local variables satisfy `T`. -/
def OnTable (T : TableRun → Prop) (c : Call) : Prop :=
  ∀ r rest, c.pc = .migrating r rest → T r

variable {T T' : TableRun → Prop}

theorem onTable_of_pc (hpc : ∀ r rest, c.pc ≠ .migrating r rest) : OnTable T c :=
  fun r rest heq => absurd heq (hpc r rest)

/-- `migrate_table` is entered for the argument of `migrate_single_table` or for a table
that has passed the filter gate; after that only its own steps matter. -/
theorem OnTable.step {a : CallAction} (hT : OnTable T c)
    (h : callStep cfg m c a = some (m', c'))
    (hsingle : ∀ ks t, c.request = .migrateSingleTable ks t →
      T' { table := { name := fullName ks t } })
    (hgate : ∀ table, (m.shouldSkipTable table.name).1 ≠ .skipTable → T' { table := table })
    (htable : ∀ b r r', a = .table b → T r → migrateTableStep cfg m r b = some (m', r') → T' r') :
    OnTable T' c' := by
  cases a with
  | guard running =>
    rw [(callStep_guard h).2.2.2]
    cases running <;> exact onTable_of_pc (by simp)
  | setup =>
    obtain ⟨_, _, _, _, _, hc⟩ := callStep_setup h
    rw [hc]; exact onTable_of_pc (by simp)
  -- `migrate_single_table` goes straight to the table it was called with
  | setRunning =>
    rw [(callStep_setRunning h).2.2]
    intro r rest hpc
    cases hrequest : c.request with
    | migrateSingleTable ks t =>
      simp only [hrequest, afterSetRunning, Pc.migrating.injEq] at hpc
      rw [← hpc.1]
      exact hsingle ks t hrequest
    | _ => simp [hrequest, afterSetRunning] at hpc
  | selectTables =>
    obtain ⟨_, _, _, _, hc⟩ := callStep_selectTables h
    rw [hc]; exact onTable_of_pc (by simp)
  | leaveTables => rw [(callStep_leaveTables h).2.2]; exact onTable_of_pc (by simp)
  | tableHead running =>
    obtain ⟨_, _, _, _, _, hc⟩ := callStep_tableHead h
    rw [hc]
    cases running <;> exact onTable_of_pc (by simp)
  | shouldSkipTable =>
    obtain ⟨table, _, _, _, hc⟩ := callStep_shouldSkipTable h
    rw [hc]
    intro r rest hpc
    simp only at hpc
    -- `start_migration` gets there for a table that is not skipped
    split at hpc
    · simp at hpc
    next hallow =>
      simp only [Pc.migrating.injEq] at hpc
      rw [← hpc.1]
      exact hgate table hallow
  | countSkipped =>
    obtain ⟨_, _, _, hc⟩ := callStep_countSkipped h
    rw [hc]; exact onTable_of_pc (by simp)
  | table b =>
    obtain ⟨r₀, rest₀, r', hpc, hstep, hc⟩ := callStep_table h
    rw [hc]
    intro r rest heq
    simp only [Pc.migrating.injEq] at heq
    rw [← heq.1]
    exact htable b r₀ r' rfl (hT r₀ rest₀ hpc) hstep
  | countCompleted table =>
    obtain ⟨_, _, _, _, _, _, hc⟩ := callStep_countCompleted h
    rw [hc]
    apply onTable_of_pc
    cases c.request <;> simp [afterTable]
  | rethrow =>
    obtain ⟨_, _, _, _, _, hc⟩ := callStep_rethrow h
    rw [hc]; exact onTable_of_pc (by simp)
  | clearRunning => rw [(callStep_clearRunning h).2.2]; exact onTable_of_pc (by simp)
  | finish => rw [(callStep_finish h).2.2]; exact onTable_of_pc (by simp)
  | stopGuard running =>
    rw [(callStep_stopGuard h).2.2.2]
    cases running <;> exact onTable_of_pc (by simp)
  | stopRunning => rw [(callStep_stopRunning h).2.2]; exact onTable_of_pc (by simp)
  | stopPaused => rw [(callStep_stopPaused h).2.2]; exact onTable_of_pc (by simp)

theorem onTable_entry (T : TableRun → Prop) (k : Request) :
    OnTable T { request := k, pc := entry k } := by
  apply onTable_of_pc
  cases k <;> simp [entry]

/-- `migrate_table` as a machine of its own. -/
def migrateTableSolo (cfg : LoaderConfig) (s : Loader × TableRun) (a : TableAction) :
    Option (Loader × TableRun) :=
  migrateTableStep cfg s.1 s.2 a

/-- What `migrate_table` does alone is what a call inside it does alone. -/
theorem run_table {i : ℕ} {request : Request} {rest : List TableConfig}
    {as : List TableAction} {s : Loader × TableRun} :
    ∀ {m : Loader} {r : TableRun}, run (migrateTableSolo cfg) (m, r) as = some s →
      run (Pool.solo (program cfg) i) (m, { request := request, pc := .migrating r rest })
        (as.map .table) = some (s.1, { request := request, pc := .migrating s.2 rest }) := by
  induction as with
  | nil =>
    intro m r hrun
    simp only [run_nil, Option.some.injEq] at hrun
    rw [← hrun]
    rfl
  | cons a as ih =>
    intro m r hrun
    simp only [run, Option.bind_eq_some_iff] at hrun
    obtain ⟨⟨m', r'⟩, hstep, hrest⟩ := hrun
    have hsolo : Pool.solo (program cfg) i
        (m, { request := request, pc := .migrating r rest }) (.table a) =
        some (m', { request := request, pc := .migrating r' rest }) := by
      have htable : migrateTableStep cfg m r a = some (m', r') := hstep
      show (migrateTableStep cfg m r a).map _ = _
      rw [htable]
      rfl
    rw [List.map_cons, run, hsolo, Option.bind_some]
    exact ih hrest

/-- The steps of `migrate_single_table` up to `migrate_table`. -/
def enterTable : List CallAction :=
  .guard false :: (List.replicate 5 CallAction.setup ++ [CallAction.setRunning])

/-! ## The governor's configuration -/

/-- The configuration of the governor in place, `none` without one. -/
def Loader.config (m : Loader) : Option FilterConfig := m.filter.map (·.config)

theorem config_shouldSkipTable (m : Loader) (table : String) :
    (m.shouldSkipTable table).2.config = m.config := by
  unfold Loader.shouldSkipTable Loader.config
  split
  next => rfl
  next g hg =>
    rw [hg]
    exact congrArg some (SSTableBlacklistGovernor.config_shouldSkipTable g table)

/-- Checks replace the governor, but not what it is configured with. -/
theorem config_callStep {a : CallAction} (h : callStep cfg m c a = some (m', c')) :
    m'.config = m.config := by
  cases a with
  | guard running => rw [(callStep_guard h).2.2.1]
  | setup =>
    obtain ⟨_, _, _, _, heq, _⟩ := callStep_setup h
    rw [heq]; rfl
  | setRunning => rw [(callStep_setRunning h).2.1]; rfl
  | selectTables =>
    obtain ⟨_, _, _, heq, _⟩ := callStep_selectTables h
    rw [heq]; rfl
  | leaveTables => rw [(callStep_leaveTables h).2.1]
  | tableHead running =>
    obtain ⟨_, _, _, _, heq, _⟩ := callStep_tableHead h
    rw [heq]
  | shouldSkipTable =>
    obtain ⟨table, _, _, heq, _⟩ := callStep_shouldSkipTable h
    rw [heq]; exact config_shouldSkipTable m table.name
  | countSkipped =>
    obtain ⟨_, _, heq, _⟩ := callStep_countSkipped h
    rw [heq]; rfl
  | table a =>
    obtain ⟨_, _, _, _, hstep, _⟩ := callStep_table h
    unfold Loader.config
    rw [(migrateTableStep_frame hstep).2.2.1]
  | countCompleted table =>
    obtain ⟨_, _, _, _, _, heq, _⟩ := callStep_countCompleted h
    rw [heq]; rfl
  | rethrow =>
    obtain ⟨_, _, _, _, heq, _⟩ := callStep_rethrow h
    rw [heq]
  | clearRunning => rw [(callStep_clearRunning h).2.1]; rfl
  | finish => rw [(callStep_finish h).2.1]
  | stopGuard running => rw [(callStep_stopGuard h).2.2.1]
  | stopRunning => rw [(callStep_stopRunning h).2.1]; rfl
  | stopPaused => rw [(callStep_stopPaused h).2.1]; rfl

theorem config_envStep (m : Loader) (e : EnvAction) : (envStep m e).config = m.config := by
  cases e with
  | reload =>
    show (m.filter.map SSTableBlacklistGovernor.reloadConfig).map (·.config) = _
    rw [Option.map_map]
    rfl
  | _ => rfl

/-- The decision on a table, by the configuration alone. -/
def skips (config : Option FilterConfig) (table : String) : Bool :=
  config.any fun config => (Blacklists.load config).skipsTable table

theorem shouldSkipTable_fst (m : Loader) (table : String) :
    (m.shouldSkipTable table).1 = if skips m.config table then .skipTable else .allow := by
  unfold Loader.shouldSkipTable Loader.config
  split
  next hg => rw [hg]; rfl
  next g hg =>
    rw [hg]
    exact SSTableBlacklistGovernor.shouldSkipTable_fst g table

/-- The governor in place was built from this configuration. -/
def Configured (config : FilterConfig) (m : Loader) : Prop :=
  ∃ g, m.filter = some g ∧ g.config = config

variable {config : FilterConfig}

theorem configured_iff : Configured config m ↔ m.config = some config := by
  unfold Configured Loader.config
  rw [Option.map_eq_some_iff]

theorem shouldSkipTable_eq_skipTable (hm : Configured config m) (table : String) :
    (m.shouldSkipTable table).1 = .skipTable ↔ (Blacklists.load config).skipsTable table := by
  rw [shouldSkipTable_fst, configured_iff.mp hm]
  show (if (Blacklists.load config).skipsTable table = true then _ else _) = _ ↔ _
  split <;> simp_all

theorem configured_callStep {a : CallAction} (h : callStep cfg m c a = some (m', c'))
    (hm : Configured config m) : Configured config m' := by
  rw [configured_iff] at hm ⊢
  rw [config_callStep h, hm]

theorem configured_envStep (e : EnvAction) (hm : Configured config m) :
    Configured config (envStep m e) := by
  rw [configured_iff] at hm ⊢
  rw [config_envStep, hm]

end SSTableLoader
end ScyllaClusterSync
