import ScyllaClusterSync.SSTableLoader.BlacklistGateTheorems
import ScyllaClusterSync.SSTableLoader.TableCountersTheorems
import ScyllaClusterSync.SSTableLoader.TableSelection

/-!
# `start_migration` visits the selected tables, in order

`Visits` says, wherever a call stands, which entries of its list it has met: the ones it has
put to the governor are the first of the selected tables, the allowed ones among them were
passed to `migrate_table`, and the others were counted. What ends the list early is a loop
head that finds `is_running_` cleared, which with one migration at a time is a loop head
after a stop.
-/

namespace ScyllaClusterSync
namespace SSTableLoader

open Svckit Lib

variable {cfg : LoaderConfig} {filter : Option SSTableBlacklistGovernor} {h : List Action}
  {m m' : Loader} {c c' : Call} {i : ℕ} {p p' : State} {keyspaceFilter : List String}

/-! ## The entries met -/

/-- A table that is skipped and not yet counted. -/
def Pc.uncounted : Pc → ℕ
  | .countSkipped _ => 1
  | _ => 0

/-- What is left of the list after its first `n` entries; `cut` says that a loop head has
found `is_running_` cleared. -/
def Pc.LeftOf (selected : List TableConfig) (n : ℕ) (cut : Prop) : Pc → Prop
  | .guard | .setup _ | .selectTables => n = 0
  | .tableHead rest | .countSkipped rest | .migrating _ rest => selected.drop n = rest
  | .filterGate table rest => selected.drop n = table :: rest
  | .clearRunning | .finishing | .returned _ => n = selected.length ∨ cut
  | _ => True

/-- The first entries of the selection have been met. -/
structure Visits (cfg : LoaderConfig) (filter : Option SSTableBlacklistGovernor)
    (keyspaceFilter : List String) (h : List Action) (i : ℕ) (pc : Pc) : Prop where
  bound : checks i h ≤ (selectedTables cfg keyspaceFilter).length
  visited : visited cfg filter i h =
    ((selectedTables cfg keyspaceFilter).take (checks i h)).filter
      fun t => !skips (filter.map (·.config)) t.name
  skipped : ownEvents cfg i h .tablesSkipped + pc.uncounted =
    ((selectedTables cfg keyspaceFilter).take (checks i h)).countP
      fun t => skips (filter.map (·.config)) t.name
  left : pc.LeftOf (selectedTables cfg keyspaceFilter) (checks i h)
    (.act i (.tableHead false) ∈ h)

theorem Pc.LeftOf.mono {pc : Pc} {selected : List TableConfig} {n : ℕ} {cut cut' : Prop}
    (hleft : pc.LeftOf selected n cut) (hcut : cut → cut') : pc.LeftOf selected n cut' := by
  cases pc with
  | clearRunning | finishing | returned stats => exact Or.imp_right hcut hleft
  | _ => exact hleft

/-- A step that is not the call's own. -/
theorem Visits.other {pc : Pc} {a : Action} (hinv : Visits cfg filter keyspaceFilter h i pc)
    (hrun : runs cfg filter h = some p) (ha : ∀ b, a ≠ .act i b) :
    Visits cfg filter keyspaceFilter (h ++ [a]) i pc := by
  have hchecks : checks i (h ++ [a]) = checks i h := checks_concat_other ha
  have hvisited : SSTableLoader.visited cfg filter i (h ++ [a]) =
      SSTableLoader.visited cfg filter i h := by
    rw [visited_concat hrun, tableEntered_of_ne (ha _), Option.toList_none, List.append_nil]
  have hevents : ownEvents cfg i (h ++ [a]) .tablesSkipped = ownEvents cfg i h .tablesSkipped :=
    ownEvents_concat_other ha _
  exact ⟨by rw [hchecks]; exact hinv.bound, by rw [hchecks, hvisited]; exact hinv.visited,
    by rw [hchecks, hevents]; exact hinv.skipped,
    by rw [hchecks]; exact hinv.left.mono (List.mem_append_left _)⟩

/-- A step of the call that neither meets an entry nor counts one. -/
theorem Visits.keep {pc pc' : Pc} {a : CallAction} (hinv : Visits cfg filter keyspaceFilter h i pc)
    (hrun : runs cfg filter h = some p) (hcheck : a ≠ .shouldSkipTable)
    (hcount : eventCount cfg a .tablesSkipped + pc'.uncounted = pc.uncounted)
    (hleft : pc.LeftOf (selectedTables cfg keyspaceFilter) (checks i h)
        (.act i (.tableHead false) ∈ h) →
      pc'.LeftOf (selectedTables cfg keyspaceFilter) (checks i h)
        (.act i (.tableHead false) ∈ h ++ [PoolAction.act i a])) :
    Visits cfg filter keyspaceFilter (h ++ [PoolAction.act i a]) i pc' := by
  have hchecks : checks i (h ++ [PoolAction.act i a]) = checks i h := by
    rw [checks_concat_self, if_neg hcheck, Nat.add_zero]
  have hvisited : SSTableLoader.visited cfg filter i (h ++ [PoolAction.act i a]) =
      SSTableLoader.visited cfg filter i h := by
    rw [visited_concat hrun, tableEntered_of_ne (by simp [hcheck]), Option.toList_none,
      List.append_nil]
  refine ⟨by rw [hchecks]; exact hinv.bound, by rw [hchecks, hvisited]; exact hinv.visited, ?_,
    by rw [hchecks]; exact hleft hinv.left⟩
  rw [hchecks, ← hinv.skipped, ownEvents_concat_self]
  omega

/-- The entry that comes next is one more of the first ones. -/
theorem take_of_drop_eq_cons {α : Type} {l rest : List α} {n : ℕ} {a : α}
    (h : l.drop n = a :: rest) :
    n < l.length ∧ l.take (n + 1) = l.take n ++ [a] ∧ l.drop (n + 1) = rest := by
  have hget : l[n]? = some a := by
    rw [← List.head?_drop, h]
    rfl
  refine ⟨(List.getElem?_eq_some_iff.mp hget).1, ?_, ?_⟩
  · rw [List.take_add_one, hget]
    rfl
  · rw [← List.tail_drop, h]
    rfl

/-- The governor is asked about the next entry. -/
theorem Visits.check {table : TableConfig} {rest : List TableConfig}
    (hinv : Visits cfg filter keyspaceFilter h i (.filterGate table rest))
    (hrun : runs cfg filter h = some p) (hc : p.threads[i]? = some c)
    (hpc : c.pc = .filterGate table rest) :
    Visits cfg filter keyspaceFilter (h ++ [PoolAction.act i .shouldSkipTable]) i
      (if (p.mem.shouldSkipTable table.name).1 = .skipTable then .countSkipped rest
        else .migrating { table := table } rest) := by
  have hleft : (selectedTables cfg keyspaceFilter).drop (checks i h) = table :: rest := hinv.left
  -- one entry more is met, and it is this table
  have hchecks : checks i (h ++ [PoolAction.act i .shouldSkipTable]) = checks i h + 1 := by
    rw [checks_concat_self, if_pos rfl]
  obtain ⟨hlt, htake, hdrop⟩ := take_of_drop_eq_cons hleft
  have hconfig := config_of_runs hrun
  have hentered : SSTableLoader.visited cfg filter i (h ++ [PoolAction.act i .shouldSkipTable]) =
      SSTableLoader.visited cfg filter i h ++
        (if skips (filter.map (·.config)) table.name then none else some table).toList := by
    rw [visited_concat hrun, tableEntered_shouldSkipTable hc hpc, hconfig]
  have hevents : ownEvents cfg i (h ++ [PoolAction.act i .shouldSkipTable]) .tablesSkipped =
      ownEvents cfg i h .tablesSkipped := by
    rw [ownEvents_concat_self]
    rfl
  have hskipped := hinv.skipped
  have hvisited := hinv.visited
  rw [shouldSkipTable_fst, hconfig]
  refine ⟨by rw [hchecks]; exact hlt, ?_, ?_, ?_⟩
  · rw [hchecks, htake, List.filter_append, hentered, hvisited]
    cases hskip : skips (filter.map (·.config)) table.name <;> simp [hskip]
  · rw [hchecks, htake, List.countP_append, hevents, ← hskipped]
    cases hskip : skips (filter.map (·.config)) table.name <;> simp [hskip, Pc.uncounted]
  · rw [hchecks]
    cases skips (filter.map (·.config)) table.name <;> exact hdrop

/-! ## The steps of the call -/

/-- Nothing has been met when the call is made. -/
theorem visits_start (hnew : ∀ a, .act i a ∉ h) : Visits cfg filter keyspaceFilter h i .guard := by
  have hsteps : Pool.stepsOf i h = [] := Pool.stepsOf_eq_nil hnew
  have hchecks : checks i h = 0 := by
    rw [checks, hsteps]
    rfl
  have hevents : ownEvents cfg i h .tablesSkipped = 0 := by
    rw [ownEvents, hsteps]
    rfl
  refine ⟨?_, ?_, ?_, ?_⟩
  · rw [hchecks]
    exact Nat.zero_le _
  · rw [visited_eq_nil hnew, hchecks]
    rfl
  · rw [hevents, hchecks]
    rfl
  · exact hchecks

theorem Visits.step {a : CallAction} (hinv : Visits cfg filter keyspaceFilter h i c.pc)
    (hrun : runs cfg filter h = some p) (hc : p.threads[i]? = some c)
    (hrequest : c.request = .startMigration keyspaceFilter)
    (hstep : callStep cfg p.mem c a = some (m', c')) :
    Visits cfg filter keyspaceFilter (h ++ [PoolAction.act i a]) i c'.pc := by
  cases a with
  | guard running =>
    obtain ⟨hpc, _, _, hc'⟩ := callStep_guard hstep
    rw [hpc] at hinv
    rw [hc']
    cases running with
    | true => exact hinv.keep hrun (by simp) rfl fun _ => trivial
    | false => exact hinv.keep hrun (by simp) rfl id
  | setup =>
    obtain ⟨_, _, _, hpc, _, hc'⟩ := callStep_setup hstep
    rw [hpc] at hinv
    rw [hc']
    exact hinv.keep hrun (by simp) rfl id
  | setRunning =>
    obtain ⟨hpc, _, hc'⟩ := callStep_setRunning hstep
    rw [hpc] at hinv
    rw [hc', hrequest]
    exact hinv.keep hrun (by simp) rfl id
  | selectTables =>
    obtain ⟨keyspaceFilter', hpc, hrequest', _, hc'⟩ := callStep_selectTables hstep
    obtain rfl := Request.startMigration.inj (hrequest.symm.trans hrequest')
    rw [hpc] at hinv
    rw [hc', tablesToMigrate_eq]
    -- nothing is met yet, so the whole selection is left
    refine hinv.keep hrun (by simp) rfl fun hzero => ?_
    have hnone : checks i h = 0 := hzero
    rw [hnone]
    rfl
  | leaveTables =>
    obtain ⟨hpc, _, hc'⟩ := callStep_leaveTables hstep
    rw [hpc] at hinv
    rw [hc']
    refine hinv.keep hrun (by simp) rfl fun hleft => Or.inl ?_
    exact Nat.le_antisymm hinv.bound (List.drop_eq_nil_iff.mp hleft)
  | tableHead running =>
    obtain ⟨table, rest, hpc, _, _, hc'⟩ := callStep_tableHead hstep
    rw [hpc] at hinv
    rw [hc']
    cases running with
    | true => exact hinv.keep hrun (by simp) rfl id
    | false =>
      exact hinv.keep hrun (by simp) rfl fun _ =>
        Or.inr (List.mem_append_right _ List.mem_cons_self)
  | shouldSkipTable =>
    obtain ⟨table, rest, hpc, _, hc'⟩ := callStep_shouldSkipTable hstep
    rw [hpc] at hinv
    rw [hc']
    exact hinv.check hrun hc hpc
  | countSkipped =>
    obtain ⟨rest, hpc, _, hc'⟩ := callStep_countSkipped hstep
    rw [hpc] at hinv
    rw [hc']
    exact hinv.keep hrun (by simp) rfl id
  | table a =>
    obtain ⟨r, rest, r', hpc, _, hc'⟩ := callStep_table hstep
    rw [hpc] at hinv
    rw [hc']
    refine hinv.keep hrun (by simp) ?_ id
    cases a with
    | processRange t range o => cases o <;> rfl
    | _ => rfl
  | countCompleted table =>
    obtain ⟨r, rest, hpc, _, _, _, hc'⟩ := callStep_countCompleted hstep
    rw [hpc] at hinv
    rw [hc', hrequest]
    exact hinv.keep hrun (by simp) rfl id
  | rethrow =>
    obtain ⟨r, rest, hpc, _, _, hc'⟩ := callStep_rethrow hstep
    rw [hpc] at hinv
    rw [hc']
    exact hinv.keep hrun (by simp) rfl fun _ => trivial
  | clearRunning =>
    obtain ⟨hpc, _, hc'⟩ := callStep_clearRunning hstep
    rw [hpc] at hinv
    rw [hc']
    exact hinv.keep hrun (by simp) rfl (Or.imp_right (List.mem_append_left _))
  | finish =>
    obtain ⟨hpc, _, hc'⟩ := callStep_finish hstep
    rw [hpc] at hinv
    rw [hc']
    exact hinv.keep hrun (by simp) rfl (Or.imp_right (List.mem_append_left _))
  | stopGuard running =>
    obtain ⟨hpc, _, _, hc'⟩ := callStep_stopGuard hstep
    rw [hpc] at hinv
    rw [hc']
    cases running <;> exact hinv.keep hrun (by simp) rfl fun _ => trivial
  | stopRunning =>
    obtain ⟨hpc, _, hc'⟩ := callStep_stopRunning hstep
    rw [hpc] at hinv
    rw [hc']
    exact hinv.keep hrun (by simp) rfl fun _ => trivial
  | stopPaused =>
    obtain ⟨hpc, _, hc'⟩ := callStep_stopPaused hstep
    rw [hpc] at hinv
    rw [hc']
    exact hinv.keep hrun (by simp) rfl fun _ => trivial

theorem visits_of_runs (hrun : runs cfg filter h = some p) (hc : p.threads[i]? = some c)
    (hrequest : c.request = .startMigration keyspaceFilter) :
    Visits cfg filter keyspaceFilter h i c.pc := by
  refine @run_invariant_of_run _ _ (Pool.step (program cfg)) (initial filter)
    (fun h p => ∀ (i : ℕ) (c : Call) (keyspaceFilter : List String), p.threads[i]? = some c →
      c.request = .startMigration keyspaceFilter → Visits cfg filter keyspaceFilter h i c.pc)
    (by simp [initial, Pool.init]) ?_ h p hrun i c keyspaceFilter hc hrequest
  intro h p a p' hrun hinv hstep j d keyspaceFilter hd hrequest
  cases a with
  | spawn k =>
    rw [Pool.step_spawn hstep] at hd
    rcases Pool.of_getElem?_concat hd with hd | ⟨rfl, rfl⟩
    · exact (hinv j d keyspaceFilter hd hrequest).other hrun (by simp)
    · -- a call that has just been made is at its guard
      have hk : k = .startMigration keyspaceFilter := hrequest
      subst hk
      refine visits_start fun a ha => ?_
      rw [List.mem_append, List.mem_singleton] at ha
      rcases ha with ha | ha
      · exact Nat.lt_irrefl _ (Pool.lt_length_of_mem hrun ha)
      · simp at ha
  | act i a =>
    obtain ⟨c, m', c', hc, hthread, hp'⟩ := Pool.step_act hstep
    have hcall : callStep cfg p.mem c a = some (m', c') := hthread
    rw [hp'] at hd
    rcases Pool.of_getElem?_set hc hd with ⟨rfl, rfl⟩ | ⟨hji, hd⟩
    · rw [(callStep_frame hcall).1] at hrequest
      exact (hinv j c keyspaceFilter hc hrequest).step hrun hc hrequest hcall
    · exact (hinv j d keyspaceFilter hd hrequest).other hrun (by simp [Ne.symm hji])
  | env e =>
    obtain ⟨m', _, hp'⟩ := Pool.step_env hstep
    rw [hp'] at hd
    exact (hinv j d keyspaceFilter hd hrequest).other hrun (by simp)

/-! ## The end of the list -/

/-- A call that has left its list. -/
def Pc.afterTables : Pc → Bool
  | .clearRunning | .finishing | .returned _ => true
  | _ => false

theorem afterTables_step {a : CallAction} (hpc : c.pc.afterTables = true)
    (hstep : callStep cfg m c a = some (m', c')) :
    c'.pc.afterTables = true ∧ a ≠ .shouldSkipTable := by
  cases a with
  | clearRunning => rw [(callStep_clearRunning hstep).2.2]; exact ⟨rfl, by simp⟩
  | finish => rw [(callStep_finish hstep).2.2]; exact ⟨rfl, by simp⟩
  | _ =>
    -- no other step starts from there
    cases hpc' : c.pc <;> simp [hpc', Pc.afterTables] at hpc <;> simp [callStep, hpc'] at hstep

/-- It puts no further entry to the governor. -/
theorem checks_of_afterTables {post : List Action} (hc : p.threads[i]? = some c)
    (hpc : c.pc.afterTables = true) (hpost : run (Pool.step (program cfg)) p post = some p') :
    checks i post = 0 := by
  have hinv := @run_invariant _ _ (Pool.step (program cfg)) p
    (fun post p => (∃ c, p.threads[i]? = some c ∧ c.pc.afterTables = true) ∧ checks i post = 0)
    ⟨⟨c, hc, hpc⟩, rfl⟩ ?_ post p' hpost
  · exact hinv.2
  · intro post p a p' hinv hstep
    obtain ⟨⟨c, hc, hpc⟩, hzero⟩ := hinv
    by_cases hself : ∃ b, a = .act i b
    · obtain ⟨b, rfl⟩ := hself
      obtain ⟨d, m', d', hd, hthread, rfl⟩ := Pool.step_act hstep
      obtain rfl := Option.some.inj (hc.symm.trans hd)
      obtain ⟨hafter, hne⟩ := afterTables_step hpc hthread
      refine ⟨⟨d', List.getElem?_set_self (List.getElem?_eq_some_iff.mp hc).1, hafter⟩, ?_⟩
      rw [checks_concat_self, hzero, if_neg hne]
    · rcases Pool.getElem?_of_step hstep hc with hsame | ⟨b, _, ha, _⟩
      · exact ⟨⟨c, hsame, hpc⟩, by rw [checks_concat_other (not_exists.mp hself), hzero]⟩
      · exact absurd ⟨b, ha⟩ hself

theorem checks_append (i : ℕ) (pre post : List Action) :
    checks i (pre ++ post) = checks i pre + checks i post := by
  unfold checks Pool.stepsOf
  rw [List.filterMap_append, List.count_append]

/-- A loop head finds the flag as the stops have left it; one that finds it cleared is the
last one. -/
theorem tableHead_of_meets {pre post : List Action} {running : Bool}
    (hmeets : Meets (Pool.step (program cfg)) GuardOutsideWindows [] (initial filter)
      (pre ++ .act i (.tableHead running) :: post))
    (hrun : runs cfg filter (pre ++ .act i (.tableHead running) :: post) = some p) :
    running = !stopped i pre ∧
      (running = false → checks i (pre ++ .act i (.tableHead running) :: post) = checks i pre) := by
  obtain ⟨q, q', hq, hstep, hpost⟩ := run_append_cons_eq_some hrun
  obtain ⟨c, m', c', hc, hthread, rfl⟩ := Pool.step_act hstep
  have hcall : callStep cfg q.mem c (.tableHead running) = some (m', c') := hthread
  obtain ⟨table, rest, hpc, hobs, _, hc'⟩ := callStep_tableHead hcall
  have hflag := (exclusiveInv_of_meets hmeets.of_append hq).flag i c hc
    (by rw [Call.live, hpc]; simp [Pc.phase])
  refine ⟨?_, ?_⟩
  · rw [← hobs, hflag, hpc]
    rfl
  · intro hfalse
    subst hfalse
    have hself : (q.threads.set i c')[i]? = some c' :=
      List.getElem?_set_self (List.getElem?_eq_some_iff.mp hc).1
    have hafter := checks_of_afterTables hself (by rw [hc']; rfl) hpost
    have hsplit : pre ++ PoolAction.act i (CallAction.tableHead false) :: post =
        (pre ++ [.act i (.tableHead false)]) ++ post := by simp
    rw [hsplit, checks_append, hafter, checks_concat_self]
    rfl

/-! ## The total -/

/-- `tables_total_` is the number of the selected tables, from its store on. -/
def Pc.TotalStored (n : ℕ) (m : Loader) : Pc → Prop
  | .tableHead _ | .filterGate _ _ | .countSkipped _ | .migrating _ _ | .clearRunning
  | .finishing => m.counters.tablesTotal = n
  | .returned stats => stats.counters.tablesTotal = n
  | _ => True

theorem eventCount_tablesTotal (a : CallAction) : eventCount cfg a .tablesTotal = 0 := by
  cases a with
  | table b =>
    cases b with
    | processRange table range o => cases o <;> rfl
    | _ => rfl
  | _ => rfl

/-- Past its store the total stays as it is. -/
theorem tablesTotal_callStep {a : CallAction} (hstep : callStep cfg m c a = some (m', c'))
    (hsetup : a ≠ .setup) (hselect : a ≠ .selectTables) :
    m'.counters.tablesTotal = m.counters.tablesTotal := by
  have hcounter := counters_callStep hstep hsetup hselect .tablesTotal
  rw [eventCount_tablesTotal] at hcounter
  exact hcounter

theorem Pc.TotalStored.step {a : CallAction}
    (hinv : c.pc.TotalStored (selectedTables cfg keyspaceFilter).length m)
    (hrequest : c.request = .startMigration keyspaceFilter)
    (hstep : callStep cfg m c a = some (m', c')) :
    c'.pc.TotalStored (selectedTables cfg keyspaceFilter).length m' := by
  -- nothing is claimed before the tables are selected, and only two steps write the total
  cases a with
  | guard running =>
    rw [(callStep_guard hstep).2.2.2]
    cases running <;> trivial
  | setup =>
    obtain ⟨_, _, _, _, _, hc'⟩ := callStep_setup hstep
    rw [hc']
    trivial
  | setRunning =>
    rw [(callStep_setRunning hstep).2.2, hrequest]
    trivial
  | selectTables =>
    obtain ⟨keyspaceFilter', _, hrequest', hm, hc'⟩ := callStep_selectTables hstep
    obtain rfl := Request.startMigration.inj (hrequest.symm.trans hrequest')
    rw [hc', hm, tablesToMigrate_eq]
    rfl
  | leaveTables =>
    obtain ⟨hpc, _, hc'⟩ := callStep_leaveTables hstep
    rw [hpc] at hinv
    rw [hc']
    exact (tablesTotal_callStep hstep (by simp) (by simp)).trans hinv
  | tableHead running =>
    obtain ⟨_, _, hpc, _, _, hc'⟩ := callStep_tableHead hstep
    rw [hpc] at hinv
    rw [hc']
    cases running <;> exact (tablesTotal_callStep hstep (by simp) (by simp)).trans hinv
  | shouldSkipTable =>
    obtain ⟨_, _, hpc, _, hc'⟩ := callStep_shouldSkipTable hstep
    rw [hpc] at hinv
    rw [hc']
    dsimp only
    split <;> exact (tablesTotal_callStep hstep (by simp) (by simp)).trans hinv
  | countSkipped =>
    obtain ⟨_, hpc, _, hc'⟩ := callStep_countSkipped hstep
    rw [hpc] at hinv
    rw [hc']
    exact (tablesTotal_callStep hstep (by simp) (by simp)).trans hinv
  | table a =>
    obtain ⟨_, _, _, hpc, _, hc'⟩ := callStep_table hstep
    rw [hpc] at hinv
    rw [hc']
    exact (tablesTotal_callStep hstep (by simp) (by simp)).trans hinv
  | countCompleted table =>
    obtain ⟨_, _, hpc, _, _, _, hc'⟩ := callStep_countCompleted hstep
    rw [hpc] at hinv
    rw [hc', hrequest]
    exact (tablesTotal_callStep hstep (by simp) (by simp)).trans hinv
  | rethrow =>
    obtain ⟨_, _, _, _, _, hc'⟩ := callStep_rethrow hstep
    rw [hc']
    trivial
  | clearRunning =>
    obtain ⟨hpc, _, hc'⟩ := callStep_clearRunning hstep
    rw [hpc] at hinv
    rw [hc']
    exact (tablesTotal_callStep hstep (by simp) (by simp)).trans hinv
  | finish =>
    obtain ⟨hpc, _, hc'⟩ := callStep_finish hstep
    rw [hpc] at hinv
    rw [hc']
    exact hinv
  | stopGuard running =>
    rw [(callStep_stopGuard hstep).2.2.2]
    cases running <;> trivial
  | stopRunning =>
    rw [(callStep_stopRunning hstep).2.2]
    trivial
  | stopPaused =>
    rw [(callStep_stopPaused hstep).2.2]
    trivial

/-- What leaves the counters of a call under way alone. -/
theorem Pc.TotalStored.frame {pc : Pc} {n : ℕ} (hinv : pc.TotalStored n m)
    (hm : pc.phase ≠ .outside → m'.counters = m.counters) : pc.TotalStored n m' := by
  unfold Pc.TotalStored at hinv ⊢
  cases pc with
  | tableHead _ | filterGate _ _ | countSkipped _ | migrating _ _ | clearRunning | finishing =>
    rw [hm (by simp [Pc.phase])]
    exact hinv
  | _ => exact hinv

theorem totalStored_of_meets
    (hmeets : Meets (Pool.step (program cfg)) GuardOutsideWindows [] (initial filter) h)
    (hrun : runs cfg filter h = some p) (hc : p.threads[i]? = some c)
    (hrequest : c.request = .startMigration keyspaceFilter) :
    c.pc.TotalStored (selectedTables cfg keyspaceFilter).length p.mem := by
  refine @run_invariant_of_meets_run _ _ (Pool.step (program cfg)) (initial filter)
    (fun _ p => ∀ (i : ℕ) (c : Call) (keyspaceFilter : List String), p.threads[i]? = some c →
      c.request = .startMigration keyspaceFilter →
        c.pc.TotalStored (selectedTables cfg keyspaceFilter).length p.mem)
    GuardOutsideWindows (by simp [initial, Pool.init]) ?_ h p hmeets hrun i c keyspaceFilter hc
    hrequest
  intro h p a p' hmeets hrun hinv _ hstep j d keyspaceFilter hd hrequest
  cases a with
  | spawn k =>
    rw [Pool.step_spawn hstep] at hd ⊢
    rcases Pool.of_getElem?_concat hd with hd | ⟨_, rfl⟩
    · exact hinv j d keyspaceFilter hd hrequest
    · cases k <;> trivial
  | act i a =>
    obtain ⟨c, m', c', hc, hthread, hp'⟩ := Pool.step_act hstep
    have hcall : callStep cfg p.mem c a = some (m', c') := hthread
    rw [hp'] at hd ⊢
    rcases Pool.of_getElem?_set hc hd with ⟨rfl, rfl⟩ | ⟨hji, hd⟩
    · rw [(callStep_frame hcall).1] at hrequest
      exact (hinv j c keyspaceFilter hc hrequest).step hrequest hcall
    · -- another call that is under way would be a second one
      refine (hinv j d keyspaceFilter hd hrequest).frame fun hlive => ?_
      refine counters_of_not_live hcall fun hlc => ?_
      exact hji ((exclusiveInv_of_meets hmeets hrun).unique j i d c hd hc hlive hlc)
  | env e =>
    obtain ⟨m', hm', hp'⟩ := Pool.step_env hstep
    obtain rfl := Option.some.inj hm'
    rw [hp'] at hd ⊢
    refine (hinv j d keyspaceFilter hd hrequest).frame fun _ => ?_
    cases e <;> rfl

/-! ## The result -/

/-- In every run, for every `start_migration`, wherever it stands: the tables it has passed to
`migrate_table` are the allowed ones of the entries it has met, and these are the first of
the selected tables, in order. When it has returned it has met all of them, or a loop head
has found `is_running_` cleared. With one migration at a time every loop head finds the flag
cleared exactly when the call has been stopped, and is then the last one; and what the call
returns has the number of the selected tables and the number of the blacklisted ones among
the entries met. -/
theorem start_migration_visits_selected (cfg : LoaderConfig)
    (filter : Option SSTableBlacklistGovernor) (h : List Action) (p : State) (i : ℕ) (c : Call)
    (keyspaceFilter : List String) (hrun : runs cfg filter h = some p)
    (hc : p.threads[i]? = some c) (hrequest : c.request = .startMigration keyspaceFilter) :
    visited cfg filter i h =
      ((selectedTables cfg keyspaceFilter).take (checks i h)).filter
        (fun t => !skips (filter.map (·.config)) t.name) ∧
    (∀ stats, c.pc = .returned stats →
      checks i h = (selectedTables cfg keyspaceFilter).length ∨ .act i (.tableHead false) ∈ h) ∧
    (Meets (Pool.step (program cfg)) GuardOutsideWindows [] (initial filter) h →
      (∀ pre running post, h = pre ++ .act i (.tableHead running) :: post →
        running = !stopped i pre ∧ (running = false → checks i h = checks i pre)) ∧
      ∀ stats, c.pc = .returned stats →
        stats.counters.tablesTotal = (selectedTables cfg keyspaceFilter).length ∧
        stats.counters.tablesSkipped =
          ((selectedTables cfg keyspaceFilter).take (checks i h)).countP
            (fun t => skips (filter.map (·.config)) t.name)) := by
  have hvisits := visits_of_runs hrun hc hrequest
  refine ⟨hvisits.visited, ?_, fun hmeets => ⟨?_, ?_⟩⟩
  · intro stats hpc
    have hleft := hvisits.left
    rw [hpc] at hleft
    exact hleft
  · intro pre running post hh
    subst hh
    exact tableHead_of_meets hmeets hrun
  · intro stats hpc
    have htotal := totalStored_of_meets hmeets hrun hc hrequest
    rw [hpc] at htotal
    refine ⟨htotal, ?_⟩
    -- the counter holds the call's own events, as the setup stored a zero
    obtain ⟨found, _, ht⟩ := tally_of_returned hmeets hrun hc hpc
    have hskipped := ht.counted .tablesSkipped (by decide)
    have hzero : (storeAll found (setupStores c.request)).get .tablesSkipped = 0 := by
      rw [hrequest]
      rfl
    have hevents := hvisits.skipped
    rw [hpc] at hevents
    rw [hzero, Nat.zero_add] at hskipped
    exact hskipped.trans hevents

/-- Two tables of a keyspace, the first one blacklisted, and a table of no keyspace. -/
def threeTables : LoaderConfig where
  tables := [{ name := "app.migrations" }, { name := "users" }, { name := "app.files" }]
  numRangesPerCore := 1

/-- The migration of that keyspace. -/
def keyspaceMigration : List Action :=
  .spawn (.startMigration ["app"]) ::
    (startUp ++ [CallAction.selectTables, CallAction.tableHead true, CallAction.shouldSkipTable,
        CallAction.countSkipped, CallAction.tableHead true, CallAction.shouldSkipTable] ++
      (oneBatch fun _ => .ok).map CallAction.table ++
      [CallAction.countCompleted "app.files", CallAction.leaveTables, CallAction.clearRunning,
        CallAction.finish]).map (PoolAction.act 0)

/-- What it returns. -/
def keyspaceMigrationStats : MigrationStats where
  counters := { tablesCompleted := 1, tablesTotal := 2, tablesSkipped := 1 }
  isRunning := false
  isPaused := false

theorem exists_keyspaceMigration :
    ∃ p, runs threeTables (some (.ofConfig migrationsBlacklist)) keyspaceMigration = some p ∧
      p.threads =
        [{ request := .startMigration ["app"], pc := .returned keyspaceMigrationStats }] := by
  have hthreads : (runs threeTables (some (.ofConfig migrationsBlacklist)) keyspaceMigration).map
      (·.threads) =
        some [{ request := .startMigration ["app"], pc := .returned keyspaceMigrationStats }] := by
    decide +kernel
  exact Option.map_eq_some_iff.mp hthreads

theorem start_migration_visits_selected_keyspaceMigration :
    visited threeTables (some (.ofConfig migrationsBlacklist)) 0 keyspaceMigration =
        ((selectedTables threeTables ["app"]).take 2).filter
          (fun t => !skips (some migrationsBlacklist) t.name) ∧
      keyspaceMigrationStats.counters.tablesTotal = (selectedTables threeTables ["app"]).length ∧
      keyspaceMigrationStats.counters.tablesSkipped =
        ((selectedTables threeTables ["app"]).take 2).countP
          (fun t => skips (some migrationsBlacklist) t.name) := by
  obtain ⟨p, hrun, hthreads⟩ := exists_keyspaceMigration
  have hmeets := meets_of_one_migration hrun (by decide)
  have hall := start_migration_visits_selected threeTables (some (.ofConfig migrationsBlacklist))
    keyspaceMigration p 0 _ ["app"] hrun (by rw [hthreads]; rfl) rfl
  have hchecks : checks 0 keyspaceMigration = 2 := by decide +kernel
  rw [hchecks] at hall
  exact ⟨hall.1, (hall.2.2 hmeets).2 keyspaceMigrationStats rfl⟩

end SSTableLoader
end ScyllaClusterSync
