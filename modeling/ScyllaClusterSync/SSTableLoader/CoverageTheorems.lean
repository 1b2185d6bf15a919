import ScyllaClusterSync.SSTableLoader.DispatchTheorems
import ScyllaClusterSync.SSTableLoader.TableSelectionTheorems

/-!
# What a whole migration has asked the source for

The ranges of a table cover every token once, the batch loop hands out every range once, and
`start_migration` visits every selected table once. Together: a migration that has not been
stopped has sent exactly one query for every token of every selected table the blacklist
allows, and none for any other table.
-/

namespace ScyllaClusterSync
namespace SSTableLoader

open Svckit Lib

variable {cfg : LoaderConfig} {filter : Option SSTableBlacklistGovernor} {h : List Action}
  {i : ℕ} {r r' : TableRun} {m m' : Loader} {p : State} {c c' : Call}
  {selected : List TableConfig} {config : Option FilterConfig}

/-! ## Queries for a token -/

/-- The step runs a query for this token of this table. -/
def TableAction.asksFor (table : String) (partitionKeys : List String) (t : Int64) :
    TableAction → Bool
  | .processRange table' range _ => table' == table &&
    selectsToken table partitionKeys (buildRangeQuery table partitionKeys range) t
  | _ => false

/-- How many of the queries select the token. -/
def tokenQueries (table : String) (partitionKeys : List String) (t : Int64)
    (steps : List TableAction) : ℕ :=
  steps.countP (TableAction.asksFor table partitionKeys t)

/-- How many of the entries are allowed ones of this name. -/
def allowedEntries (config : Option FilterConfig) (tables : List TableConfig) (table : String) :
    ℕ :=
  tables.countP fun entry => entry.name == table && !skips config entry.name

variable {table : String} {partitionKeys : List String} {t : Int64} {steps : List TableAction}

theorem tokenQueries_append (steps steps' : List TableAction) :
    tokenQueries table partitionKeys t (steps ++ steps') =
      tokenQueries table partitionKeys t steps + tokenQueries table partitionKeys t steps' :=
  List.countP_append

theorem allowedEntries_append (tables tables' : List TableConfig) :
    allowedEntries config (tables ++ tables') table =
      allowedEntries config tables table + allowedEntries config tables' table :=
  List.countP_append

/-- The queries of a table are those of its ranges. -/
theorem tokenQueries_eq (steps : List TableAction) :
    tokenQueries table partitionKeys t steps = (processed table steps).countP fun range =>
      selectsToken table partitionKeys (buildRangeQuery table partitionKeys range) t := by
  induction steps with
  | nil => rfl
  | cons a steps ih =>
    have hcons : a :: steps = [a] ++ steps := rfl
    rw [hcons, tokenQueries_append, ih, processed_append, List.countP_append]
    congr 1
    cases a with
    | processRange table' range o =>
      by_cases htable : table' = table
      · simp [tokenQueries, processed, TableAction.asksFor, htable, List.countP_singleton]
      · simp [tokenQueries, processed, TableAction.asksFor, htable]
    | _ => rfl

/-! ## The ranges of one table -/

/-- One entry of a list that has the property, and no other. -/
theorem countP_eq_one_of_existsUnique {α : Type} {l : List α} {f : α → Bool}
    (hunique : ∃! i : ℕ, ∃ a, l[i]? = some a ∧ f a = true) : l.countP f = 1 := by
  induction l with
  | nil =>
    obtain ⟨i, ⟨a, ha, _⟩, _⟩ := hunique
    simp at ha
  | cons b l ih =>
    rw [List.countP_cons]
    obtain ⟨i, ⟨a, ha, hfa⟩, hall⟩ := hunique
    by_cases hb : f b = true
    · -- the head has it, so nothing after it does
      have hzero : 0 = i := hall 0 ⟨b, rfl, hb⟩
      have hnone : l.countP f = 0 := by
        rw [List.countP_eq_zero]
        intro x hx hfx
        obtain ⟨j, hj⟩ := List.getElem?_of_mem hx
        have hj' : j + 1 = i := hall (j + 1) ⟨x, by rw [List.getElem?_cons_succ, hj], hfx⟩
        omega
      rw [hnone, if_pos hb]
    · rw [if_neg hb, Nat.add_zero]
      cases i with
      | zero =>
        rw [List.getElem?_cons_zero, Option.some.injEq] at ha
        exact absurd (ha ▸ hfa) hb
      | succ i =>
        refine ih ⟨i, ⟨a, ha, hfa⟩, ?_⟩
        intro j hj
        exact Nat.succ_inj.mp (hall (j + 1) hj)

/-- Of the ranges of a table one selects the token. -/
theorem countP_ranges {peers : Outcome} {ranges : List TokenRange}
    (hranges : calculateRanges peers cfg.numRangesPerCore = some ranges) :
    ranges.countP (fun range =>
      selectsToken table partitionKeys (buildRangeQuery table partitionKeys range) t) = 1 := by
  have hpos : 1 ≤ cfg.numRangesPerCore := by
    refine one_le_of_ne_zero fun hzero => ?_
    rw [hzero, calculateRanges_zero] at hranges
    cases hranges
  rw [calculateRanges_eq hpos, Option.some.injEq] at hranges
  subst hranges
  have htotal := totalRanges_lt peers cfg.numRangesPerCore
  refine countP_eq_one_of_existsUnique ?_
  refine (existsUnique_congr fun i => ?_).mp
    (existsUnique_range (totalRanges_pos peers hpos) t)
  simp only [getElem?_ranges, selectsToken_buildRangeQuery]
  constructor
  · intro hi
    refine ⟨_, ⟨hi.1, rfl⟩, ?_⟩
    rw [toInt_start htotal hi.1, toInt_end htotal hi.1]
    exact hi.2
  · intro hex
    obtain ⟨range, ⟨hi, rfl⟩, ht⟩ := hex
    rw [toInt_start htotal hi, toInt_end htotal hi] at ht
    exact ⟨hi, ht⟩

/-! ## The table a migration is at -/

/-- What a call of `migrate_table` has done so far, `steps`, against its local variables. -/
structure TableCovered (cfg : LoaderConfig) (steps : List TableAction) (r : TableRun) : Prop where
  own : ∀ table range o, .processRange table range o ∈ steps → table = r.table.name
  fresh : ¬ r.stage.hasRanges →
    r.workers = [] ∧ r.batchStart = 0 ∧ processed r.table.name steps = []
  known : r.stage.hasRanges → ∃ peers, calculateRanges peers cfg.numRangesPerCore = some r.ranges
  accounted : r.stage.hasRanges → BatchInv steps cfg r

theorem TableCovered.entered (entry : TableConfig) : TableCovered cfg [] { table := entry } where
  own := by simp
  fresh _ := ⟨rfl, rfl, rfl⟩
  known hr := absurd hr (by simp [Stage.hasRanges])
  accounted hr := absurd hr (by simp [Stage.hasRanges])

theorem TableCovered.step {a : TableAction} (hinv : TableCovered cfg steps r)
    (hstep : migrateTableStep cfg m r a = some (m', r')) :
    TableCovered cfg (steps ++ [a]) r' := by
  have htable := (migrateTableStep_frame hstep).2.2.2
  have hown : ∀ table range o, .processRange table range o ∈ steps ++ [a] →
      table = r'.table.name := by
    intro table range o hmem
    rw [List.mem_append, List.mem_singleton] at hmem
    rw [htable]
    rcases hmem with hmem | rfl
    · exact hinv.own table range o hmem
    · exact (step_processRange hstep).2.1
  by_cases hr : r.stage.hasRanges
  · obtain ⟨ha, hranges, hr'⟩ := hasRanges_step hr hstep
    refine ⟨hown, fun hnot => absurd hr' hnot, fun _ => ?_, fun _ => ?_⟩
    · rw [hranges]
      exact hinv.known hr
    · exact (hinv.accounted hr).step ha hstep
  · obtain ⟨hworkers, hstart, hnone⟩ := hinv.fresh hr
    -- before the loop there are two steps, and none of them runs a query
    have hquiet : (∀ table range o, a ≠ .processRange table range o) →
        processed r.table.name (steps ++ [a]) = [] := by
      intro ha
      rw [processed_concat ha, hnone]
    cases a with
    | resolvePartitionKeys schema =>
      obtain ⟨_, _, hr'⟩ := step_resolvePartitionKeys hstep
      subst hr'
      exact ⟨hown, fun _ => ⟨hworkers, hstart, hquiet (by simp)⟩,
        fun hnot => absurd hnot (by simp [Stage.hasRanges]),
        fun hnot => absurd hnot (by simp [Stage.hasRanges])⟩
    | calculateRanges peers =>
      rcases (step_calculateRanges hstep).2.2 with ⟨ranges, hranges, hr'⟩ | hr'
      · subst hr'
        refine ⟨hown, fun hnot => absurd rfl hnot, fun _ => ⟨peers, hranges⟩, fun _ => ?_⟩
        refine ⟨hworkers, ?_⟩
        show (processed r.table.name _).Perm (ranges.take r.batchStart)
        rw [hquiet (by simp), hstart, List.take_zero]
      · subst hr'
        exact ⟨hown, fun _ => ⟨hworkers, hstart, hquiet (by simp)⟩,
          fun hnot => absurd hnot (by simp [Stage.hasRanges]),
          fun hnot => absurd hnot (by simp [Stage.hasRanges])⟩
    | leaveLoop => exact absurd (by rw [(step_leaveLoop hstep).1]; rfl) hr
    | batchHead running => exact absurd (by rw [(step_batchHead hstep).1]; rfl) hr
    | loadPaused paused => exact absurd (by rw [(step_loadPaused hstep).1]; rfl) hr
    | pauseCheck running => exact absurd (by rw [(step_pauseCheck hstep).1]; rfl) hr
    | startWorker => exact absurd (by rw [(step_startWorker hstep).1]; rfl) hr
    | startWorkerFails => exact absurd (by rw [(step_startWorkerFails hstep).1]; rfl) hr
    | processRange table range o =>
      have hmem := (step_processRange hstep).2.2.1
      rw [hworkers] at hmem
      exact absurd hmem List.not_mem_nil
    | join => exact absurd (by rw [(step_join hstep).1]; rfl) hr
    | rethrow => exact absurd (by rw [(step_rethrow hstep).1]; rfl) hr

/-- A table that is left has been asked for every token once. -/
theorem TableCovered.tokenQueries_eq (hinv : TableCovered cfg steps r)
    (hreturned : r.stage = .returned) (hheads : .batchHead false ∉ steps) :
    tokenQueries table partitionKeys t steps = if r.table.name = table then 1 else 0 := by
  have hr : r.stage.hasRanges := by
    rw [hreturned]
    rfl
  rw [SSTableLoader.tokenQueries_eq]
  split
  next htable =>
    obtain ⟨peers, hranges⟩ := hinv.known hr
    have hbatch := hinv.accounted hr
    rw [BatchInv, hreturned] at hbatch
    rw [← htable, (hbatch.resolve_left hheads).countP_eq, countP_ranges hranges]
  next htable =>
    -- no query of this call was for another table
    have hnone : processed table steps = [] := by
      rw [processed, List.filterMap_eq_nil_iff]
      intro a ha
      cases a with
      | processRange table' range o =>
        have hown := hinv.own table' range o ha
        exact if_neg fun heq => htable (hown ▸ heq)
      | _ => rfl
    rw [hnone, List.countP_nil]

/-! ## A whole migration -/

/-- What a call of `start_migration` owes for the tables it has passed, by where it stands. -/
def Pc.Covered (cfg : LoaderConfig) (config : Option FilterConfig) (selected : List TableConfig)
    (steps : List TableAction) : Pc → Prop
  | .guard | .setup _ | .selectTables =>
    ∀ table partitionKeys t, tokenQueries table partitionKeys t steps = 0
  | .tableHead rest | .countSkipped rest => ∃ done, selected = done ++ rest ∧
    ∀ table partitionKeys t, tokenQueries table partitionKeys t steps =
      allowedEntries config done table
  | .filterGate entry rest => ∃ done, selected = done ++ entry :: rest ∧
    ∀ table partitionKeys t, tokenQueries table partitionKeys t steps =
      allowedEntries config done table
  | .migrating r rest => ∃ done before since, selected = done ++ r.table :: rest ∧
    skips config r.table.name = false ∧ steps = before ++ since ∧
    (∀ table partitionKeys t, tokenQueries table partitionKeys t before =
      allowedEntries config done table) ∧ TableCovered cfg since r
  | .clearRunning | .finishing | .returned _ =>
    ∀ table partitionKeys t, tokenQueries table partitionKeys t steps =
      allowedEntries config selected table
  | _ => True

theorem tableActions_concat_of_ne {a : CallAction} (ha : ∀ b, a ≠ .table b) :
    tableActions i (h ++ [PoolAction.act i a]) = tableActions i h :=
  tableActions_concat_other fun b heq => by
    simp only [PoolAction.act.injEq] at heq
    exact ha b heq.2

/-- Every step of the call, as long as no loop head finds `is_running_` cleared. -/
theorem Pc.Covered.step {a : CallAction} {keyspaceFilter : List String}
    (hinv : c.pc.Covered cfg m.config (tablesToMigrate cfg keyspaceFilter) (tableActions i h))
    (hrequest : c.request = .startMigration keyspaceFilter)
    (hstep : callStep cfg m c a = some (m', c')) (htables : a ≠ .tableHead false)
    (hbatches : .batchHead false ∉ tableActions i h) :
    c'.pc.Covered cfg m.config (tablesToMigrate cfg keyspaceFilter)
      (tableActions i (h ++ [PoolAction.act i a])) := by
  cases a with
  | guard running =>
    obtain ⟨hpc, _, _, hc'⟩ := callStep_guard hstep
    rw [hpc] at hinv
    rw [hc', tableActions_concat_of_ne (by simp)]
    cases running with
    | true => trivial
    | false => exact hinv
  | setup =>
    obtain ⟨_, _, _, hpc, _, hc'⟩ := callStep_setup hstep
    rw [hpc] at hinv
    rw [hc', tableActions_concat_of_ne (by simp)]
    exact hinv
  | setRunning =>
    obtain ⟨hpc, _, hc'⟩ := callStep_setRunning hstep
    rw [hpc] at hinv
    rw [hc', hrequest, tableActions_concat_of_ne (by simp)]
    exact hinv
  | selectTables =>
    obtain ⟨keyspaceFilter', hpc, hrequest', _, hc'⟩ := callStep_selectTables hstep
    obtain rfl := Request.startMigration.inj (hrequest.symm.trans hrequest')
    rw [hpc] at hinv
    rw [hc', tableActions_concat_of_ne (by simp)]
    exact ⟨[], rfl, hinv⟩
  | leaveTables =>
    obtain ⟨hpc, _, hc'⟩ := callStep_leaveTables hstep
    rw [hpc] at hinv
    rw [hc', tableActions_concat_of_ne (by simp)]
    obtain ⟨done, hdone, hqueries⟩ := hinv
    rw [List.append_nil] at hdone
    rw [hdone]
    exact hqueries
  | tableHead running =>
    obtain ⟨entry, rest, hpc, _, _, hc'⟩ := callStep_tableHead hstep
    rw [hpc] at hinv
    rw [hc', tableActions_concat_of_ne (by simp)]
    cases running with
    | true => exact hinv
    | false => exact absurd rfl htables
  | shouldSkipTable =>
    obtain ⟨entry, rest, hpc, _, hc'⟩ := callStep_shouldSkipTable hstep
    rw [hpc] at hinv
    rw [hc', tableActions_concat_of_ne (by simp), shouldSkipTable_fst]
    obtain ⟨done, hdone, hqueries⟩ := hinv
    cases hskip : skips m.config entry.name with
    | true =>
      -- a skipped entry owes nothing
      refine ⟨done ++ [entry], by simp [hdone], ?_⟩
      intro table partitionKeys t
      rw [hqueries, allowedEntries_append]
      simp [allowedEntries, hskip]
    | false =>
      exact ⟨done, tableActions i h, [], hdone, hskip, (List.append_nil _).symm, hqueries,
        TableCovered.entered entry⟩
  | countSkipped =>
    obtain ⟨rest, hpc, _, hc'⟩ := callStep_countSkipped hstep
    rw [hpc] at hinv
    rw [hc', tableActions_concat_of_ne (by simp)]
    exact hinv
  | table b =>
    obtain ⟨r, rest, r', hpc, htable, hc'⟩ := callStep_table hstep
    rw [hpc] at hinv
    rw [hc', tableActions_concat_self]
    obtain ⟨done, before, since, hdone, hskip, hsteps, hqueries, hcovered⟩ := hinv
    have hsame := (migrateTableStep_frame htable).2.2.2
    refine ⟨done, before, since ++ [b], ?_, ?_, ?_, hqueries, hcovered.step htable⟩
    · rw [hsame]
      exact hdone
    · rw [hsame]
      exact hskip
    · rw [hsteps, List.append_assoc]
  | countCompleted name =>
    obtain ⟨r, rest, hpc, hreturned, _, _, hc'⟩ := callStep_countCompleted hstep
    rw [hpc] at hinv
    rw [hc', hrequest, tableActions_concat_of_ne (by simp)]
    obtain ⟨done, before, since, hdone, hskip, hsteps, hqueries, hcovered⟩ := hinv
    rw [hsteps, List.mem_append, not_or] at hbatches
    refine ⟨done ++ [r.table], by simp [hdone], ?_⟩
    intro table partitionKeys t
    rw [hsteps, tokenQueries_append, hqueries, hcovered.tokenQueries_eq hreturned hbatches.2,
      allowedEntries_append]
    simp [allowedEntries, List.countP_singleton, hskip]
  | rethrow =>
    obtain ⟨_, _, _, _, _, hc'⟩ := callStep_rethrow hstep
    rw [hc']
    trivial
  | clearRunning =>
    obtain ⟨hpc, _, hc'⟩ := callStep_clearRunning hstep
    rw [hpc] at hinv
    rw [hc', tableActions_concat_of_ne (by simp)]
    exact hinv
  | finish =>
    obtain ⟨hpc, _, hc'⟩ := callStep_finish hstep
    rw [hpc] at hinv
    rw [hc', tableActions_concat_of_ne (by simp)]
    exact hinv
  | stopGuard running =>
    obtain ⟨_, _, _, hc'⟩ := callStep_stopGuard hstep
    rw [hc']
    cases running <;> trivial
  | stopRunning =>
    obtain ⟨_, _, hc'⟩ := callStep_stopRunning hstep
    rw [hc']
    trivial
  | stopPaused =>
    obtain ⟨_, _, hc'⟩ := callStep_stopPaused hstep
    rw [hc']
    trivial

/-- No loop head of call `i` has found `is_running_` cleared. -/
def NeverFoundStopped (i : ℕ) (h : List Action) : Prop :=
  .act i (.tableHead false) ∉ h ∧ .act i (.table (.batchHead false)) ∉ h

theorem NeverFoundStopped.of_concat {a : Action} (hnever : NeverFoundStopped i (h ++ [a])) :
    NeverFoundStopped i h ∧ a ≠ .act i (.tableHead false) := by
  obtain ⟨htables, hbatches⟩ := hnever
  rw [List.mem_append, List.mem_singleton, not_or] at htables hbatches
  exact ⟨⟨htables.1, hbatches.1⟩, Ne.symm htables.2⟩

theorem covered_of_runs {keyspaceFilter : List String} (hrun : runs cfg filter h = some p)
    (hc : p.threads[i]? = some c) (hrequest : c.request = .startMigration keyspaceFilter)
    (hnever : NeverFoundStopped i h) :
    c.pc.Covered cfg (filter.map (·.config)) (tablesToMigrate cfg keyspaceFilter)
      (tableActions i h) := by
  refine @run_invariant_of_run _ _ (Pool.step (program cfg)) (initial filter)
    (fun h p => ∀ (i : ℕ) (c : Call) (keyspaceFilter : List String), p.threads[i]? = some c →
      c.request = .startMigration keyspaceFilter → NeverFoundStopped i h →
        c.pc.Covered cfg (filter.map (·.config)) (tablesToMigrate cfg keyspaceFilter)
          (tableActions i h))
    (by simp [initial, Pool.init]) ?_ h p hrun i c keyspaceFilter hc hrequest hnever
  intro h p a p' hrun hinv hstep j d keyspaceFilter hd hrequest hnever
  obtain ⟨hbefore, hhead⟩ := hnever.of_concat
  cases a with
  | spawn k =>
    rw [Pool.step_spawn hstep] at hd
    rw [tableActions_concat_other (by simp)]
    rcases Pool.of_getElem?_concat hd with hd | ⟨rfl, rfl⟩
    · exact hinv j d keyspaceFilter hd hrequest hbefore
    · -- a call that has just been made has no step
      have hk : k = .startMigration keyspaceFilter := hrequest
      subst hk
      have hnone : tableActions p.threads.length h = [] := by
        rw [List.eq_nil_iff_forall_not_mem]
        intro a ha
        exact Nat.lt_irrefl _ (Pool.lt_length_of_mem hrun (mem_tableActions.mp ha))
      intro table partitionKeys t
      rw [hnone]
      rfl
  | act k a =>
    obtain ⟨c, m', c', hc, hthread, hp'⟩ := Pool.step_act hstep
    have hcall : callStep cfg p.mem c a = some (m', c') := hthread
    rw [hp'] at hd
    rcases Pool.of_getElem?_set hc hd with ⟨rfl, rfl⟩ | ⟨hji, hd⟩
    · rw [(callStep_frame hcall).1] at hrequest
      have hcovered := hinv j c keyspaceFilter hc hrequest hbefore
      rw [← config_of_runs hrun] at hcovered ⊢
      refine hcovered.step hrequest hcall (fun heq => hhead (by rw [heq])) ?_
      exact fun hmem => hbefore.2 (mem_tableActions.mp hmem)
    · rw [tableActions_concat_other (by simp [Ne.symm hji])]
      exact hinv j d keyspaceFilter hd hrequest hbefore
  | env e =>
    obtain ⟨m', _, hp'⟩ := Pool.step_env hstep
    rw [hp'] at hd
    rw [tableActions_concat_other (by simp)]
    exact hinv j d keyspaceFilter hd hrequest hbefore

/-- A call of `start_migration` that has returned, among any other calls and with pauses and
reloads at any time, and none of whose loop heads found `is_running_` cleared: for every table
and every token it has run as many queries that select the token as the selection has allowed
entries of that name. -/
theorem migration_covers_every_token (cfg : LoaderConfig)
    (filter : Option SSTableBlacklistGovernor) (h : List Action) (p : State) (i : ℕ) (c : Call)
    (keyspaceFilter : List String) (stats : MigrationStats) (hrun : runs cfg filter h = some p)
    (hc : p.threads[i]? = some c) (hrequest : c.request = .startMigration keyspaceFilter)
    (hreturned : c.pc = .returned stats) (hnever : NeverFoundStopped i h) (table : String)
    (partitionKeys : List String) (t : Int64) :
    tokenQueries table partitionKeys t (tableActions i h) =
      allowedEntries (filter.map (·.config)) (tablesToMigrate cfg keyspaceFilter) table := by
  have hcovered := covered_of_runs hrun hc hrequest hnever
  rw [hreturned] at hcovered
  exact hcovered table partitionKeys t

theorem migration_covers_every_token_keyspaceMigration :
    tokenQueries "app.files" ["id"] 7 (tableActions 0 keyspaceMigration) =
      allowedEntries (some migrationsBlacklist) (tablesToMigrate threeTables ["app"])
        "app.files" := by
  obtain ⟨p, hrun, hthreads⟩ := exists_keyspaceMigration
  have hnever : NeverFoundStopped 0 keyspaceMigration := ⟨by decide +kernel, by decide +kernel⟩
  exact migration_covers_every_token threeTables (some (.ofConfig migrationsBlacklist))
    keyspaceMigration p 0 _ ["app"] keyspaceMigrationStats hrun (by rw [hthreads]; rfl) rfl rfl
    hnever "app.files" ["id"] 7

end SSTableLoader
end ScyllaClusterSync
