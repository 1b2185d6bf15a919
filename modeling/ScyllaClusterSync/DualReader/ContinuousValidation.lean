import ScyllaClusterSync.DualReader.FilterStatsTheorems

/-!
# `services/dual-reader/src/reader.cpp`: `continuous_validation_loop`

Cycle after cycle the configured tables are validated in order; a validation that throws is
logged and leaves no result. Over any number of cycles and for any failures of the clusters,
each cycle validates each table once, and what the cycles report adds up to the statistics of
the governor: `validation_loop_accounts`.
-/

namespace ScyllaClusterSync
namespace DualReader

open Svckit

/-- What the two clusters make of the statements of one validation. -/
structure Clusters where
  source : String → Outcome
  target : String → Outcome

/-- What a validation has returned, `none` when it has thrown. -/
abbrev ValidationAttempt := String × Option ValidationResult

/-- `validate_all_tables`: the validations, and the governor after them. `clusters i` answers
while the table in place `i` of the configuration is validated. -/
def validateAllTables (g : DualReaderFilterGovernor) :
    List String → (ℕ → Clusters) → List ValidationAttempt × DualReaderFilterGovernor
  | [], _ => ([], g)
  | table :: tables, clusters =>
    let (result, g) := validateTable g table (clusters 0).source (clusters 0).target
    let (validations, g) := validateAllTables g tables fun i => clusters (i + 1)
    ((table, result.toOption) :: validations, g)

/-- The vector that it fills. -/
def resultsOf (validations : List ValidationAttempt) : List ValidationResult :=
  validations.filterMap Prod.snd

/-- The numbers of the line that ends a cycle. -/
structure CycleReport where
  tables : ℕ
  compared : ℕ
  sourceOnly : ℕ
  discrepancies : ℕ
deriving DecidableEq, Repr

/-- The body of the loop after `validate_all_tables`. -/
def cycleReport (results : List ValidationResult) : CycleReport where
  tables := results.length
  compared := results.length - results.countP (·.sourceOnly)
  sourceOnly := results.countP (·.sourceOnly)
  discrepancies := (results.map fun r => r.discrepancies.length).sum

/-- A cycle of the loop, with the line that ends it. -/
structure ValidationCycle where
  validations : List ValidationAttempt
  report : CycleReport

/-- `continuous_validation_loop` for as many cycles as there are answers of the clusters. -/
def continuousValidationLoop (g : DualReaderFilterGovernor) (tables : List String) :
    List (ℕ → Clusters) → List ValidationCycle × DualReaderFilterGovernor
  | [] => ([], g)
  | clusters :: cycles =>
    let (validations, g) := validateAllTables g tables clusters
    let (done, g) := continuousValidationLoop g tables cycles
    (⟨validations, cycleReport (resultsOf validations)⟩ :: done, g)

/-! ## One validation -/

/-- One of the two reads of the table fails. -/
def Clusters.failsOn (c : Clusters) (table : String) : Bool :=
  c.source ("SELECT * FROM " ++ table) != .ok || c.target ("SELECT * FROM " ++ table) != .ok

/-- The validations of a cycle that throw. -/
def thrown (config : DualReaderFilterConfig) : List String → (ℕ → Clusters) → ℕ
  | [], _ => 0
  | table :: tables, clusters =>
    (if readsBoth config table "" && (clusters 0).failsOn table then 1 else 0) +
      thrown config tables fun i => clusters (i + 1)

/-- The tables the whitelist leaves to the source. -/
def sourceOnlyTables (config : DualReaderFilterConfig) (tables : List String) : ℕ :=
  tables.countP fun table => !readsBoth config table ""

/-- What the validation of a table returns: nothing when it is read from both clusters and one
of the reads fails, and otherwise a result without discrepancies, from the source alone when the
whitelist leaves the table to it. -/
def returns (config : DualReaderFilterConfig) (table : String) (c : Clusters) :
    Option ValidationResult :=
  if readsBoth config table "" && c.failsOn table then none
  else some { table, sourceOnly := !readsBoth config table "" }

section Validation

variable (g : DualReaderFilterGovernor) (table : String) (c : Clusters)

/-- A validation of a table counts one dual read or one read from the source alone. -/
theorem stats_validateTable :
    (validateTable g table c.source c.target).2.stats.dualReads +
        (if readsBoth g.config table "" then 0 else 1) = g.stats.dualReads + 1 ∧
      (validateTable g table c.source c.target).2.stats.sourceOnlyReads =
        g.stats.sourceOnlyReads + (if readsBoth g.config table "" then 0 else 1) ∧
      (validateTable g table c.source c.target).2.stats.tablesFiltered =
        g.stats.tablesFiltered + (if readsBoth g.config table "" then 0 else 1) ∧
      (validateTable g table c.source c.target).2.stats.domainsFiltered =
        g.stats.domainsFiltered := by
  -- without a domain only the list of tables can reject
  have hdomain : g.lists.rejectsReadOf "" = false := rfl
  rw [filter_validateTable]
  unfold DualReaderFilterGovernor.decide readsBoth
  rw [← g.loaded, hdomain]
  cases g.config.enabled with
  | false => exact ⟨rfl, rfl, rfl, rfl⟩
  | true => cases g.lists.rejectsTable table <;> exact ⟨rfl, rfl, rfl, rfl⟩

theorem result_validateTable :
    (validateTable g table c.source c.target).1.toOption = returns g.config table c := by
  have hdecide := g.decide_fst table ""
  unfold validateTable returns
  cases hboth : readsBoth g.config table "" with
  | false =>
    rw [hboth, if_neg Bool.false_ne_true] at hdecide
    split
    · rfl
    · simp_all
  | true =>
    rw [hboth, if_pos rfl] at hdecide
    split
    · simp_all
    · unfold compareTable Clusters.failsOn
      cases hs : c.source ("SELECT * FROM " ++ table) with
      | syncError e => simp [Except.toOption]
      | ok => cases ht : c.target ("SELECT * FROM " ++ table) <;> simp [Except.toOption]

end Validation

/-! ## One cycle -/

variable {g : DualReaderFilterGovernor} {table : String} {tables : List String}
  {clusters : ℕ → Clusters}

theorem config_validateTable (c : Clusters) :
    (validateTable g table c.source c.target).2.config = g.config := by
  rw [filter_validateTable, DualReaderFilterGovernor.config_decide]

/-- What a cycle reports, and what it adds to the statistics. -/
structure CycleAccount (g : DualReaderFilterGovernor) (tables : List String)
    (clusters : ℕ → Clusters) (results : List ValidationResult) (g' : DualReaderFilterGovernor) :
    Prop where
  config : g'.config = g.config
  sourceOnly : results.countP (·.sourceOnly) = sourceOnlyTables g.config tables
  length : results.length + thrown g.config tables clusters = tables.length
  clean : ∀ r ∈ results, r.discrepancies = []
  dualReads : g'.stats.dualReads + sourceOnlyTables g.config tables =
    g.stats.dualReads + tables.length
  sourceOnlyReads : g'.stats.sourceOnlyReads =
    g.stats.sourceOnlyReads + sourceOnlyTables g.config tables
  tablesFiltered : g'.stats.tablesFiltered =
    g.stats.tablesFiltered + sourceOnlyTables g.config tables
  domainsFiltered : g'.stats.domainsFiltered = g.stats.domainsFiltered

/-- The first table of a cycle and the others. -/
theorem validateAllTables_cons (g : DualReaderFilterGovernor) (table : String)
    (tables : List String) (clusters : ℕ → Clusters) :
    validateAllTables g (table :: tables) clusters =
      ((table, returns g.config table (clusters 0)) ::
          (validateAllTables (validateTable g table (clusters 0).source (clusters 0).target).2
            tables fun i => clusters (i + 1)).1,
        (validateAllTables (validateTable g table (clusters 0).source (clusters 0).target).2
          tables fun i => clusters (i + 1)).2) := by
  rw [validateAllTables, ← result_validateTable]

/-- A cycle validates each table once, in the order of the configuration. -/
theorem validations_validateAllTables (g : DualReaderFilterGovernor) (tables : List String)
    (clusters : ℕ → Clusters) : (validateAllTables g tables clusters).1 =
      tables.mapIdx fun i table => (table, returns g.config table (clusters i)) := by
  induction tables generalizing g clusters with
  | nil => rfl
  | cons table tables ih =>
    rw [validateAllTables_cons, ih, config_validateTable, List.mapIdx_cons]

/-- The result of one validation, at most one. -/
theorem toList_returns (config : DualReaderFilterConfig) (table : String) (c : Clusters) :
    (returns config table c).toList.length +
        (if readsBoth config table "" && c.failsOn table then 1 else 0) = 1 ∧
      (returns config table c).toList.countP (·.sourceOnly) =
        (if readsBoth config table "" then 0 else 1) ∧
      ∀ r ∈ (returns config table c).toList, r.discrepancies = [] := by
  unfold returns
  cases readsBoth config table "" <;> cases c.failsOn table <;> simp

theorem resultsOf_cons (table : String) (result : Option ValidationResult)
    (validations : List ValidationAttempt) :
    resultsOf ((table, result) :: validations) = result.toList ++ resultsOf validations := by
  cases result <;> rfl

theorem cycleAccount (g : DualReaderFilterGovernor) (tables : List String)
    (clusters : ℕ → Clusters) : CycleAccount g tables clusters
      (resultsOf (validateAllTables g tables clusters).1) (validateAllTables g tables clusters).2 := by
  induction tables generalizing g clusters with
  | nil =>
    refine ⟨rfl, rfl, rfl, ?_, rfl, rfl, rfl, rfl⟩
    intro r hr
    cases hr
  | cons table tables ih =>
    have hrest := ih (validateTable g table (clusters 0).source (clusters 0).target).2
      fun i => clusters (i + 1)
    have hconfig := @config_validateTable g table (clusters 0)
    obtain ⟨hdual, hsource, htables, hdomains⟩ := stats_validateTable g table (clusters 0)
    obtain ⟨hone, hheadOnly, hclean⟩ := toList_returns g.config table (clusters 0)
    have hcount : sourceOnlyTables g.config (table :: tables) =
        sourceOnlyTables g.config tables + if readsBoth g.config table "" then 0 else 1 := by
      rw [sourceOnlyTables, List.countP_cons, ← sourceOnlyTables]
      cases readsBoth g.config table "" <;> rfl
    have hthrown : thrown g.config (table :: tables) clusters =
        (if readsBoth g.config table "" && (clusters 0).failsOn table then 1 else 0) +
          thrown g.config tables fun i => clusters (i + 1) := rfl
    have honly := hrest.sourceOnly
    have hlength := hrest.length
    have hdualRest := hrest.dualReads
    have hsourceRest := hrest.sourceOnlyReads
    have htablesRest := hrest.tablesFiltered
    rw [hconfig] at honly hlength hdualRest hsourceRest htablesRest
    rw [validateAllTables_cons]
    dsimp only
    rw [resultsOf_cons]
    refine ⟨hrest.config.trans hconfig, ?_, ?_, ?_, ?_, ?_, ?_,
      hrest.domainsFiltered.trans hdomains⟩
    · rw [List.countP_append, hheadOnly, honly, hcount, Nat.add_comm]
    · rw [List.length_append, hthrown, List.length_cons]
      omega
    · intro r hr
      exact (List.mem_append.mp hr).elim (hclean r) (hrest.clean r)
    · rw [hcount, List.length_cons]
      omega
    · rw [hcount]
      omega
    · rw [hcount]
      omega

/-! ## The loop -/

/-- The validations of all cycles that throw. -/
def thrownIn (config : DualReaderFilterConfig) (tables : List String)
    (cycles : List (ℕ → Clusters)) : ℕ :=
  (cycles.map (thrown config tables)).sum

/-- What the cycles report against the statistics before and after. -/
structure LoopAccount (g : DualReaderFilterGovernor) (tables : List String)
    (cycles : List (ℕ → Clusters)) (done : List ValidationCycle) (g' : DualReaderFilterGovernor) :
    Prop where
  validated : done.map ValidationCycle.validations = cycles.map fun clusters =>
    tables.mapIdx fun i table => (table, returns g.config table (clusters i))
  each : ∀ cycle ∈ done, cycle.report.sourceOnly = sourceOnlyTables g.config tables ∧
    cycle.report.tables = cycle.report.compared + cycle.report.sourceOnly ∧
    cycle.report.discrepancies = 0
  compared : g.stats.dualReads + (done.map fun cycle => cycle.report.compared).sum +
    thrownIn g.config tables cycles = g'.stats.dualReads
  sourceOnly : g.stats.sourceOnlyReads + (done.map fun cycle => cycle.report.sourceOnly).sum =
    g'.stats.sourceOnlyReads
  tablesFiltered : g.stats.tablesFiltered + (done.map fun cycle => cycle.report.sourceOnly).sum =
    g'.stats.tablesFiltered
  domainsFiltered : g'.stats.domainsFiltered = g.stats.domainsFiltered
  decisions : g'.stats.reads = g.stats.reads + cycles.length * tables.length

theorem sourceOnlyTables_le (config : DualReaderFilterConfig) (tables : List String) :
    sourceOnlyTables config tables ≤ tables.length :=
  List.countP_le_length

theorem loopAccount (g : DualReaderFilterGovernor) (tables : List String)
    (cycles : List (ℕ → Clusters)) :
    LoopAccount g tables cycles (continuousValidationLoop g tables cycles).1
      (continuousValidationLoop g tables cycles).2 := by
  induction cycles generalizing g with
  | nil =>
    refine ⟨rfl, ?_, rfl, rfl, rfl, rfl, ?_⟩
    · intro cycle hcycle
      cases hcycle
    · simp [continuousValidationLoop]
  | cons clusters cycles ih =>
    have hcycle := cycleAccount g tables clusters
    have hrest := ih (validateAllTables g tables clusters).2
    have hdone : (continuousValidationLoop g tables (clusters :: cycles)).1 =
        ⟨(validateAllTables g tables clusters).1,
            cycleReport (resultsOf (validateAllTables g tables clusters).1)⟩ ::
          (continuousValidationLoop (validateAllTables g tables clusters).2 tables cycles).1 := rfl
    have hgovernor : (continuousValidationLoop g tables (clusters :: cycles)).2 =
        (continuousValidationLoop (validateAllTables g tables clusters).2 tables cycles).2 := rfl
    have hthrown : thrownIn g.config tables (clusters :: cycles) =
        thrown g.config tables clusters + thrownIn g.config tables cycles := List.sum_cons
    have hle := sourceOnlyTables_le g.config tables
    have honly := hcycle.sourceOnly
    have hlength := hcycle.length
    have hdual := hcycle.dualReads
    have hsource := hcycle.sourceOnlyReads
    have htables := hcycle.tablesFiltered
    have hvalidated := hrest.validated
    have hcompared := hrest.compared
    have hsourceRest := hrest.sourceOnly
    have htablesRest := hrest.tablesFiltered
    have hdecisions := hrest.decisions
    rw [hcycle.config] at hvalidated hcompared
    rw [FilterStats.reads, FilterStats.reads] at hdecisions
    rw [hdone, hgovernor]
    have hresults : sourceOnlyTables g.config tables ≤
        (resultsOf (validateAllTables g tables clusters).1).length := honly ▸ List.countP_le_length
    generalize resultsOf (validateAllTables g tables clusters).1 = results at hcycle honly hlength hresults ⊢
    have hcomparedHead : (cycleReport results).compared =
        results.length - sourceOnlyTables g.config tables := by
      rw [← honly]
      rfl
    have hsourceHead : (cycleReport results).sourceOnly = sourceOnlyTables g.config tables := honly
    refine ⟨?_, ?_, ?_, ?_, ?_, hrest.domainsFiltered.trans hcycle.domainsFiltered, ?_⟩
    · rw [List.map_cons, List.map_cons, hvalidated, validations_validateAllTables]
    · intro cycle hmem
      rcases List.mem_cons.mp hmem with rfl | hmem
      · refine ⟨honly, ?_, ?_⟩
        · rw [hcomparedHead, hsourceHead, Nat.sub_add_cancel hresults]
          rfl
        · exact List.sum_eq_zero fun n hn => by
            obtain ⟨r, hr, rfl⟩ := List.mem_map.mp hn
            rw [hcycle.clean r hr]
            rfl
      · exact hcycle.config ▸ hrest.each cycle hmem
    · rw [List.map_cons, List.sum_cons, hthrown, hcomparedHead]
      omega
    · rw [List.map_cons, List.sum_cons, hsourceHead]
      omega
    · rw [List.map_cons, List.sum_cons, hsourceHead]
      omega
    · rw [FilterStats.reads, FilterStats.reads, List.length_cons, Nat.succ_mul]
      omega

/-- The validation service from its start, after any number of cycles and for any answers of the
clusters: every cycle validates each table once, in order, and reports the same source-only
tables and no discrepancy; the comparisons reported and the validations that threw make up the
dual reads, and there have been as many decisions as validations. -/
theorem validation_loop_accounts (config : DualReaderFilterConfig) (tables : List String)
    (cycles : List (ℕ → Clusters)) :
    LoopAccount (.ofConfig config) tables cycles
        (continuousValidationLoop (.ofConfig config) tables cycles).1
        (continuousValidationLoop (.ofConfig config) tables cycles).2 ∧
      (continuousValidationLoop (.ofConfig config) tables cycles).2.stats.sourceOnlyReads =
        cycles.length * sourceOnlyTables config tables ∧
      (continuousValidationLoop (.ofConfig config) tables cycles).2.stats.tablesFiltered =
        cycles.length * sourceOnlyTables config tables := by
  have haccount := loopAccount (.ofConfig config) tables cycles
  have hlength : (continuousValidationLoop (.ofConfig config) tables cycles).1.length =
      cycles.length := by
    have hmap := congrArg List.length haccount.validated
    rwa [List.length_map, List.length_map] at hmap
  have hsum : ((continuousValidationLoop (.ofConfig config) tables cycles).1.map
      fun cycle => cycle.report.sourceOnly).sum = cycles.length * sourceOnlyTables config tables := by
    rw [← hlength, ← smul_eq_mul, ← List.length_map fun cycle : ValidationCycle =>
      cycle.report.sourceOnly]
    refine List.sum_eq_card_nsmul _ _ fun n hn => ?_
    obtain ⟨cycle, hcycle, rfl⟩ := List.mem_map.mp hn
    exact (haccount.each cycle hcycle).1
  refine ⟨haccount, ?_, ?_⟩
  · rw [← haccount.sourceOnly, hsum]
    exact Nat.zero_add _
  · rw [← haccount.tablesFiltered, hsum]
    exact Nat.zero_add _

end DualReader
end ScyllaClusterSync
