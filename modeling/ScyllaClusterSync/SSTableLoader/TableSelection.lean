import ScyllaClusterSync.Lib.Trace
import ScyllaClusterSync.SSTableLoader.SingleMigrationTheorems

/-!
# The tables a `start_migration` is for, and the ones it visits

`Selected` says which tables a keyspace filter means, in terms of the names alone, and
`tablesToMigrate_eq` that the search in `start_migration` finds these. `visited` lists the
tables with which a call enters `migrate_table` in a run.
-/

namespace ScyllaClusterSync
namespace SSTableLoader

open Svckit Lib

variable {cfg : LoaderConfig} {filter : Option SSTableBlacklistGovernor} {h : List Action}
  {i : ℕ} {p : State} {name ks table : String}

/-! ## The first dot -/

theorem takeWhile_ne_of_not_mem {sep : Char} {l : List Char} (hsep : sep ∉ l) (rest : List Char) :
    (l ++ sep :: rest).takeWhile (· != sep) = l ∧
      (l ++ sep :: rest).dropWhile (· != sep) = sep :: rest := by
  have hall : ∀ c ∈ l, (c != sep) = true := by
    intro c hc
    rw [bne_iff_ne]
    intro heq
    exact hsep (heq ▸ hc)
  rw [List.takeWhile_append_of_pos hall, List.dropWhile_append_of_pos hall]
  simp

theorem splitAtDot_eq_some_iff :
    splitAtDot name = some (ks, table) ↔ name = ks ++ "." ++ table ∧ '.' ∉ ks.toList := by
  constructor
  · intro hsplit
    unfold splitAtDot at hsplit
    have hparts := List.takeWhile_append_dropWhile (p := (· != '.')) (l := name.toList)
    split at hsplit
    · simp at hsplit
    next c rest hdrop =>
      simp only [Option.some.injEq, Prod.mk.injEq] at hsplit
      obtain ⟨rfl, rfl⟩ := hsplit
      -- what follows the part without a dot begins with one
      have hdot : c = '.' := by
        have hhead := List.head?_dropWhile_not (· != '.') name.toList
        rw [hdrop] at hhead
        simpa using hhead
      rw [hdrop, hdot] at hparts
      refine ⟨?_, ?_⟩
      · rw [← String.toList_inj]
        simp only [String.toList_append, String.toList_ofList]
        rw [List.append_assoc]
        exact hparts.symm
      · rw [String.toList_ofList]
        intro hmem
        have hne := List.mem_takeWhile_imp hmem
        simp at hne
  · intro hsplit
    obtain ⟨rfl, hdot⟩ := hsplit
    have hlist : (ks ++ "." ++ table).toList = ks.toList ++ '.' :: table.toList := by
      simp [String.toList_append]
    obtain ⟨htake, hdrop⟩ := takeWhile_ne_of_not_mem hdot table.toList
    unfold splitAtDot
    rw [hlist, hdrop, htake]
    simp

theorem splitAtDot_eq_none_iff : splitAtDot name = none ↔ '.' ∉ name.toList := by
  unfold splitAtDot
  constructor
  · intro hnone hdot
    split at hnone
    next hdrop =>
      rw [List.dropWhile_eq_nil_iff] at hdrop
      exact absurd (hdrop _ hdot) (by simp)
    · simp at hnone
  · intro hdot
    have hdrop : name.toList.dropWhile (· != '.') = [] := by
      rw [List.dropWhile_eq_nil_iff]
      intro c hc
      rw [bne_iff_ne]
      intro heq
      exact hdot (heq ▸ hc)
    rw [hdrop]

/-! ## The selection -/

/-- `ks` is the part of the name before its first dot, the empty string when there is none. -/
def BeforeDot (name ks : String) : Prop :=
  (∃ table, name = ks ++ "." ++ table ∧ '.' ∉ ks.toList) ∨ ('.' ∉ name.toList ∧ ks = "")

theorem beforeDot_iff : BeforeDot name ks ↔ keyspaceOf name = ks := by
  have hdot : (∃ table, name = ks ++ "." ++ table ∧ '.' ∉ ks.toList) ↔
      ∃ table, splitAtDot name = some (ks, table) :=
    exists_congr fun _ => splitAtDot_eq_some_iff.symm
  rw [BeforeDot, hdot, ← splitAtDot_eq_none_iff, keyspaceOf]
  cases splitAtDot name with
  | none => simp [eq_comm]
  | some parts => simp [Prod.ext_iff]

/-- The filter is empty, or has the full name or the part of it before the first dot. -/
def Selected (keyspaceFilter : List String) (name : String) : Prop :=
  keyspaceFilter = [] ∨ name ∈ keyspaceFilter ∨ ∃ ks ∈ keyspaceFilter, BeforeDot name ks

theorem selected_iff {keyspaceFilter : List String} : Selected keyspaceFilter name ↔
    keyspaceFilter = [] ∨ name ∈ keyspaceFilter ∨ keyspaceOf name ∈ keyspaceFilter := by
  unfold Selected
  simp only [beforeDot_iff, exists_eq_right']

instance (keyspaceFilter : List String) (name : String) : Decidable (Selected keyspaceFilter name) :=
  decidable_of_iff _ selected_iff.symm

/-- The configured tables that the filter selects. -/
def selectedTables (cfg : LoaderConfig) (keyspaceFilter : List String) : List TableConfig :=
  cfg.tables.filter fun t => Selected keyspaceFilter t.name

theorem tablesToMigrate_eq (cfg : LoaderConfig) (keyspaceFilter : List String) :
    tablesToMigrate cfg keyspaceFilter = selectedTables cfg keyspaceFilter := by
  unfold tablesToMigrate selectedTables
  split
  next hempty =>
    rw [eq_comm, List.filter_eq_self]
    intro t _
    exact decide_eq_true (Or.inl hempty)
  next hne =>
    refine List.filter_congr fun t _ => ?_
    rw [Bool.eq_iff_iff, decide_eq_true_iff, selected_iff]
    simp only [hne, false_or, List.any_eq_true, Bool.or_eq_true, beq_iff_eq]
    constructor
    · intro hex
      obtain ⟨f, hf, rfl | rfl⟩ := hex
      · exact Or.inr hf
      · exact Or.inl hf
    · intro hor
      rcases hor with hname | hks
      · exact ⟨_, hname, Or.inr rfl⟩
      · exact ⟨_, hks, Or.inl rfl⟩

/-! ## The visits -/

/-- The table with which a step of call `i` enters `migrate_table`. -/
def tableEntered (cfg : LoaderConfig) (i : ℕ) (p : State) : Action → Option TableConfig
  | .act j .shouldSkipTable =>
    if j = i then
      (p.threads[i]?.bind fun c => callStep cfg p.mem c .shouldSkipTable).bind fun s =>
        match s.2.pc with
        | .migrating r _ => some r.table
        | _ => none
    else none
  | _ => none

/-- The tables that call `i` of a `start_migration` passes to `migrate_table` in a run. -/
def visited (cfg : LoaderConfig) (filter : Option SSTableBlacklistGovernor) (i : ℕ)
    (h : List Action) : List TableConfig :=
  observed (Pool.step (program cfg)) (tableEntered cfg i) (initial filter) h

/-- The list entries that call `i` has put to the governor. -/
def checks (i : ℕ) (h : List Action) : ℕ := (Pool.stepsOf i h).count .shouldSkipTable

theorem visited_concat (hrun : runs cfg filter h = some p) (a : Action) :
    visited cfg filter i (h ++ [a]) = visited cfg filter i h ++ (tableEntered cfg i p a).toList :=
  observed_concat _ hrun a

theorem checks_concat_self (a : CallAction) :
    checks i (h ++ [PoolAction.act i a]) = checks i h + if a = .shouldSkipTable then 1 else 0 := by
  rw [checks, Pool.stepsOf_concat_self, List.count_append, List.count_singleton]
  simp only [beq_iff_eq]
  rfl

theorem checks_concat_other {a : Action} (ha : ∀ b, a ≠ .act i b) :
    checks i (h ++ [a]) = checks i h := by
  rw [checks, Pool.stepsOf_concat_other h ha]
  rfl

/-- Only that step enters a table. -/
theorem tableEntered_of_ne {a : Action} (ha : a ≠ .act i .shouldSkipTable) :
    tableEntered cfg i p a = none := by
  unfold tableEntered
  split
  next j =>
    refine if_neg fun hji => ha ?_
    rw [hji]
  · rfl

theorem visited_eq_nil (hnew : ∀ a, .act i a ∉ h) : visited cfg filter i h = [] := by
  refine observed_eq_nil (fun p a ha => ?_) _
  refine tableEntered_of_ne fun heq => ?_
  exact hnew _ (heq ▸ ha)

theorem tableEntered_shouldSkipTable {c : Call} {t : TableConfig} {rest : List TableConfig}
    (hc : p.threads[i]? = some c) (hpc : c.pc = .filterGate t rest) :
    tableEntered cfg i p (.act i .shouldSkipTable) =
      if skips p.mem.config t.name then none else some t := by
  simp only [tableEntered, hc, if_true, Option.bind_some, callStep, hpc, shouldSkipTable_fst]
  cases skips p.mem.config t.name <;> rfl

/-! ## The governor decides the same all the time -/

theorem config_of_runs (hrun : runs cfg filter h = some p) :
    p.mem.config = filter.map (·.config) := by
  refine @run_invariant _ _ (Pool.step (program cfg)) (initial filter)
    (fun _ p => p.mem.config = filter.map (·.config)) rfl ?_ h p hrun
  intro h p a p' hconfig hstep
  cases a with
  | spawn k => rw [Pool.step_spawn hstep]; exact hconfig
  | act i a =>
    obtain ⟨c, m', c', _, hthread, rfl⟩ := Pool.step_act hstep
    exact (config_callStep hthread).trans hconfig
  | env e =>
    obtain ⟨m', henv, rfl⟩ := Pool.step_env hstep
    obtain rfl := Option.some.inj henv
    exact (config_envStep p.mem e).trans hconfig

end SSTableLoader
end ScyllaClusterSync
