import ScyllaClusterSync.SSTableLoader.CompletionTheorems
import ScyllaClusterSync.SSTableLoader.SingleMigrationTheorems

/-!
# Whose events the table counters count

`start_migration` resets `tables_completed_`, `tables_skipped_` and `skipped_ranges_`,
`migrate_single_table` does not. When calls are made one after another, what a call leaves
in these counters is what its setup left there plus its own events (`Tally`), so that the
counters are a `migrate_single_table` call's own exactly when it found them at zero.
-/

namespace ScyllaClusterSync
namespace SSTableLoader

open Svckit Lib

variable {cfg : LoaderConfig} {filter : Option SSTableBlacklistGovernor} {h : List Action}
  {m m' : Loader} {c c' : Call} {i : ℕ} {p p' : State}

/-! ## The events of a call -/

/-- What a step of a call adds to a counter. -/
def eventCount (cfg : LoaderConfig) : CallAction → Counter → ℕ
  | .countSkipped, .tablesSkipped => 1
  | .countCompleted _, .tablesCompleted => 1
  | .table (.processRange _ _ (.syncError _)), .skippedRanges => if cfg.enablePagination then 1 else 2
  | .table (.processRange _ _ (.syncError _)), .failedRows => if cfg.enablePagination then 0 else 1
  | _, _ => 0

/-- The events of call `i` that a counter counts. -/
def ownEvents (cfg : LoaderConfig) (i : ℕ) (h : List Action) (k : Counter) : ℕ :=
  ((Pool.stepsOf i h).map fun a => eventCount cfg a k).sum

theorem ownEvents_concat_self (a : CallAction) (k : Counter) :
    ownEvents cfg i (h ++ [PoolAction.act i a]) k = ownEvents cfg i h k + eventCount cfg a k := by
  rw [ownEvents, Pool.stepsOf_concat_self, List.map_append, List.sum_append]
  simp [ownEvents]

theorem ownEvents_concat_other {a : Action} (ha : ∀ b, a ≠ .act i b) (k : Counter) :
    ownEvents cfg i (h ++ [a]) k = ownEvents cfg i h k := by
  rw [ownEvents, Pool.stepsOf_concat_other h ha]
  rfl

theorem counters_processRange (o : Outcome) (table : String) (range : TokenRange) (k : Counter) :
    (processRange cfg m o).counters.get k =
      m.counters.get k + eventCount cfg (.table (.processRange table range o)) k := by
  cases o with
  | ok => cases k <;> rfl
  | syncError e =>
    unfold processRange
    by_cases hpaged : cfg.enablePagination
    · cases k <;> simp [Loader.get_fetchAdd, eventCount, hpaged]
    · cases k <;> simp [Loader.get_fetchAdd, eventCount, hpaged]

theorem counters_migrateTableStep {r r' : TableRun} {a : TableAction}
    (hstep : migrateTableStep cfg m r a = some (m', r')) (k : Counter) :
    m'.counters.get k = m.counters.get k + eventCount cfg (.table a) k := by
  cases a with
  | resolvePartitionKeys schema => rw [(step_resolvePartitionKeys hstep).2.1]; cases k <;> rfl
  | calculateRanges peers => rw [(step_calculateRanges hstep).2.1]; cases k <;> rfl
  | leaveLoop => rw [(step_leaveLoop hstep).2.2.1]; cases k <;> rfl
  | batchHead running => rw [(step_batchHead hstep).2.2.2.1]; cases k <;> rfl
  | loadPaused paused => rw [(step_loadPaused hstep).2.2.1]; cases k <;> rfl
  | pauseCheck running => rw [(step_pauseCheck hstep).2.2.1]; cases k <;> rfl
  | startWorker => rw [(step_startWorker hstep).2.2.1]; cases k <;> rfl
  | startWorkerFails => rw [(step_startWorkerFails hstep).2.1]; cases k <;> rfl
  | processRange table range o =>
    rw [(step_processRange hstep).2.2.2.1]
    exact counters_processRange o table range k
  | join => rw [(step_join hstep).2.2.2.1]; cases k <;> rfl
  | rethrow => rw [(step_rethrow hstep).2.1]; cases k <;> rfl

/-- Past its setup a call changes the counters by the events it counts. -/
theorem counters_callStep {a : CallAction} (hstep : callStep cfg m c a = some (m', c'))
    (hsetup : a ≠ .setup) (hselect : a ≠ .selectTables) (k : Counter) :
    m'.counters.get k = m.counters.get k + eventCount cfg a k := by
  cases a with
  | guard running => rw [(callStep_guard hstep).2.2.1]; cases k <;> rfl
  | setup => exact absurd rfl hsetup
  | setRunning => rw [(callStep_setRunning hstep).2.1]; cases k <;> rfl
  | selectTables => exact absurd rfl hselect
  | leaveTables => rw [(callStep_leaveTables hstep).2.1]; cases k <;> rfl
  | tableHead running =>
    obtain ⟨_, _, _, _, hm, _⟩ := callStep_tableHead hstep
    rw [hm]
    cases k <;> rfl
  | shouldSkipTable =>
    obtain ⟨table, _, _, hm, _⟩ := callStep_shouldSkipTable hstep
    have hsame : (m.shouldSkipTable table.name).2.counters = m.counters := by
      unfold Loader.shouldSkipTable
      split <;> rfl
    rw [hm, hsame]
    cases k <;> rfl
  | countSkipped =>
    obtain ⟨_, _, hm, _⟩ := callStep_countSkipped hstep
    rw [hm, Loader.get_fetchAdd]
    cases k <;> rfl
  | table a =>
    obtain ⟨_, _, _, _, htable, _⟩ := callStep_table hstep
    exact counters_migrateTableStep htable k
  | countCompleted table =>
    obtain ⟨_, _, _, _, _, hm, _⟩ := callStep_countCompleted hstep
    rw [hm, Loader.get_fetchAdd]
    cases k <;> rfl
  | rethrow =>
    obtain ⟨_, _, _, _, hm, _⟩ := callStep_rethrow hstep
    rw [hm]
    cases k <;> rfl
  | clearRunning => rw [(callStep_clearRunning hstep).2.1]; cases k <;> rfl
  | finish => rw [(callStep_finish hstep).2.1]; cases k <;> rfl
  | stopGuard running => rw [(callStep_stopGuard hstep).2.2.1]; cases k <;> rfl
  | stopRunning => rw [(callStep_stopRunning hstep).2.1]; cases k <;> rfl
  | stopPaused => rw [(callStep_stopPaused hstep).2.1]; cases k <;> rfl

/-- Only a call under way touches the counters. -/
theorem counters_of_not_live {a : CallAction} (hstep : callStep cfg m c a = some (m', c'))
    (hlive : ¬ c.live) : m'.counters = m.counters := by
  have hout : c.pc.phase = .outside := not_not.mp hlive
  cases a with
  | guard running => rw [(callStep_guard hstep).2.2.1]
  | stopGuard running => rw [(callStep_stopGuard hstep).2.2.1]
  | stopRunning => rw [(callStep_stopRunning hstep).2.1]
  | stopPaused => rw [(callStep_stopPaused hstep).2.1]
  | setRunning => rw [(callStep_setRunning hstep).2.1]
  | leaveTables => rw [(callStep_leaveTables hstep).2.1]
  | clearRunning => rw [(callStep_clearRunning hstep).2.1]
  | finish => rw [(callStep_finish hstep).2.1]
  | tableHead running =>
    obtain ⟨_, _, _, _, hm, _⟩ := callStep_tableHead hstep
    rw [hm]
  | rethrow =>
    obtain ⟨_, _, _, _, hm, _⟩ := callStep_rethrow hstep
    rw [hm]
  | setup =>
    obtain ⟨_, _, _, hpc, _⟩ := callStep_setup hstep
    simp [hpc, Pc.phase] at hout
  | selectTables =>
    obtain ⟨_, hpc, _⟩ := callStep_selectTables hstep
    simp [hpc, Pc.phase] at hout
  | shouldSkipTable =>
    obtain ⟨_, _, hpc, _⟩ := callStep_shouldSkipTable hstep
    simp [hpc, Pc.phase] at hout
  | countSkipped =>
    obtain ⟨_, hpc, _⟩ := callStep_countSkipped hstep
    simp [hpc, Pc.phase] at hout
  | table b =>
    obtain ⟨_, _, _, hpc, _⟩ := callStep_table hstep
    simp [hpc, Pc.phase] at hout
  | countCompleted table =>
    obtain ⟨_, _, hpc, _⟩ := callStep_countCompleted hstep
    simp [hpc, Pc.phase] at hout

/-! ## What a call has found, and what it has left -/

/-- Call `i` passed its guard when the counters were `found`. -/
def GuardFound (cfg : LoaderConfig) (filter : Option SSTableBlacklistGovernor) (h : List Action)
    (i : ℕ) (found : Counters) : Prop :=
  ∃ pre post s, h = pre ++ .act i (.guard false) :: post ∧ runs cfg filter pre = some s ∧
    s.mem.counters = found

theorem guardFound_concat_guard {found : Counters} (hrun : runs cfg filter h = some p)
    (hnew : Pool.stepsOf i h = []) :
    GuardFound cfg filter (h ++ [(.act i (.guard false) : Action)]) i found ↔
      p.mem.counters = found := by
  constructor
  · intro hfound
    obtain ⟨pre, post, s, heq, hs, hcounters⟩ := hfound
    rcases concat_eq_append_cons heq with ⟨rfl, _, _⟩ | ⟨post', _, hh⟩
    · rw [hrun, Option.some.injEq] at hs
      exact hs ▸ hcounters
    · have hmem : CallAction.guard false ∈ Pool.stepsOf i h := by
        rw [Pool.mem_stepsOf, hh]
        simp
      rw [hnew] at hmem
      exact absurd hmem List.not_mem_nil
  · intro hcounters
    exact ⟨h, [], p, rfl, hrun, hcounters⟩

theorem guardFound_concat_other {a : Action} {found : Counters} (ha : a ≠ .act i (.guard false)) :
    GuardFound cfg filter (h ++ [a]) i found ↔ GuardFound cfg filter h i found := by
  constructor
  · intro hfound
    obtain ⟨pre, post, s, heq, hs, hcounters⟩ := hfound
    rcases concat_eq_append_cons heq with ⟨_, ha', _⟩ | ⟨post', _, hh⟩
    · exact absurd ha'.symm ha
    · exact ⟨pre, post', s, hh, hs, hcounters⟩
  · intro hfound
    obtain ⟨pre, post, s, heq, hs, hcounters⟩ := hfound
    refine ⟨pre, post ++ [a], s, ?_, hs, hcounters⟩
    rw [heq, List.append_assoc, List.cons_append]

/-- The counters after some stores. -/
def storeAll (s : Counters) (stores : List (Counter × ℕ)) : Counters :=
  stores.foldl (fun s kv => s.set kv.2 kv.1) s

/-- The three counters of tables and ranges. -/
def tableCounters : List Counter := [.tablesCompleted, .tablesSkipped, .skippedRanges]

/-- A migration call that passed its guard once, and found these counters. -/
structure Started (cfg : LoaderConfig) (filter : Option SSTableBlacklistGovernor)
    (h : List Action) (i : ℕ) (request : Request) (found : Counters) : Prop where
  migration : request ≠ .stopMigration
  found_iff : ∀ counters, GuardFound cfg filter h i counters ↔ counters = found

/-- The counters hold what the setup left in them and the call's own events, and `left`
tables are still to be counted. -/
structure Tally (cfg : LoaderConfig) (h : List Action) (i : ℕ) (request : Request)
    (found s : Counters) (left : ℕ) : Prop where
  counted : ∀ k ∈ tableCounters,
    s.get k = (storeAll found (setupStores request)).get k + ownEvents cfg i h k
  tables : ownEvents cfg i h .tablesCompleted + ownEvents cfg i h .tablesSkipped + left ≤
    s.tablesTotal

theorem Started.concat {request : Request} {found : Counters} {a : Action}
    (hs : Started cfg filter h i request found) (ha : a ≠ .act i (.guard false)) :
    Started cfg filter (h ++ [a]) i request found := by
  refine ⟨hs.migration, ?_⟩
  intro counters
  rw [guardFound_concat_other ha, hs.found_iff]

theorem Tally.concat_other {request : Request} {found s : Counters} {left : ℕ} {a : Action}
    (ht : Tally cfg h i request found s left) (ha : ∀ b, a ≠ .act i b) :
    Tally cfg (h ++ [a]) i request found s left := by
  refine ⟨?_, ?_⟩
  · intro k hk
    rw [ownEvents_concat_other ha]
    exact ht.counted k hk
  · rw [ownEvents_concat_other ha, ownEvents_concat_other ha]
    exact ht.tables

/-- A step of the call that counts no more tables than it leaves behind. -/
theorem Tally.concat_self {request : Request} {found s s' : Counters} {left left' : ℕ}
    {a : CallAction} (ht : Tally cfg h i request found s left)
    (hs : ∀ k, s'.get k = s.get k + eventCount cfg a k)
    (hleft : eventCount cfg a .tablesCompleted + eventCount cfg a .tablesSkipped + left' ≤ left) :
    Tally cfg (h ++ [PoolAction.act i a]) i request found s' left' := by
  refine ⟨?_, ?_⟩
  · intro k hk
    rw [hs, ownEvents_concat_self, ht.counted k hk, Nat.add_assoc]
  · have htotal : s.tablesTotal ≤ s'.tablesTotal := by
      have hget : s'.tablesTotal = s.tablesTotal + _ := hs .tablesTotal
      omega
    have htables := ht.tables
    rw [ownEvents_concat_self, ownEvents_concat_self]
    omega

/-! ## The invariant of one call -/

/-- The tables of the call that have not been counted yet. -/
def Pc.tablesLeft : Pc → ℕ
  | .tableHead rest => rest.length
  | .filterGate _ rest => rest.length + 1
  | .countSkipped rest => rest.length + 1
  | .migrating _ rest => rest.length + 1
  | _ => 0

/-- What the counters hold for call `i`, by where it stands. -/
def CallCounts (cfg : LoaderConfig) (filter : Option SSTableBlacklistGovernor)
    (h : List Action) (m : Loader) (i : ℕ) (c : Call) : Prop :=
  match c.pc with
  | .guard => c.request ≠ .stopMigration ∧ Pool.stepsOf i h = []
  | .setup todo => ∃ found, Started cfg filter h i c.request found ∧
    (∀ k, ownEvents cfg i h k = 0) ∧
    ∃ done, setupStores c.request = done ++ todo ∧ m.counters = storeAll found done
  | .selectTables => ∃ found, Started cfg filter h i c.request found ∧
    (∀ k, ownEvents cfg i h k = 0) ∧ m.counters = storeAll found (setupStores c.request)
  | .tableHead _ | .filterGate _ _ | .countSkipped _ | .migrating _ _ | .clearRunning
  | .finishing => ∃ found, Started cfg filter h i c.request found ∧
    Tally cfg h i c.request found m.counters c.pc.tablesLeft
  | .returned stats => ∃ found, Started cfg filter h i c.request found ∧
    Tally cfg h i c.request found stats.counters 0
  | .rejected | .threw | .stopGuard | .stopRunning | .stopPaused | .stopped => True

/-- Inside the loop over the tables. -/
theorem Started.next {request : Request} {found : Counters} {left : ℕ} {a : CallAction}
    (hs : Started cfg filter h i request found) (ht : Tally cfg h i request found m.counters left)
    (left' : ℕ) (hstep : callStep cfg m c a = some (m', c')) (hguard : a ≠ .guard false)
    (hsetup : a ≠ .setup) (hselect : a ≠ .selectTables)
    (hleft : eventCount cfg a .tablesCompleted + eventCount cfg a .tablesSkipped + left' ≤ left) :
    ∃ found, Started cfg filter (h ++ [PoolAction.act i a]) i request found ∧
      Tally cfg (h ++ [PoolAction.act i a]) i request found m'.counters left' :=
  ⟨found, hs.concat (by simp [hguard]),
    ht.concat_self (counters_callStep hstep hsetup hselect) hleft⟩

/-- Right after the setup nothing is counted. -/
theorem Tally.of_setup {request : Request} {found s : Counters} {left : ℕ}
    (hown : ∀ k, ownEvents cfg i h k = 0)
    (hs : ∀ k ∈ tableCounters, s.get k = (storeAll found (setupStores request)).get k)
    (hleft : left ≤ s.tablesTotal) : Tally cfg h i request found s left := by
  refine ⟨?_, ?_⟩
  · intro k hk
    rw [hs k hk, hown, Nat.add_zero]
  · rw [hown, hown]
    omega

theorem ownEvents_concat_zero {a : CallAction} (hown : ∀ k, ownEvents cfg i h k = 0)
    (ha : ∀ k, eventCount cfg a k = 0) (k : Counter) :
    ownEvents cfg i (h ++ [PoolAction.act i a]) k = 0 := by
  rw [ownEvents_concat_self, hown, ha]

/-- A call that passes its guard finds the counters as they are. -/
theorem CallCounts.guard {running : Bool} (hinv : CallCounts cfg filter h p.mem i c)
    (hrun : runs cfg filter h = some p)
    (hstep : callStep cfg p.mem c (.guard running) = some (m', c')) :
    CallCounts cfg filter (h ++ [PoolAction.act i (.guard running)]) m' i c' := by
  unfold CallCounts at hinv
  obtain ⟨hpc, _, hm, hc⟩ := callStep_guard hstep
  rw [hpc] at hinv
  obtain ⟨hrequest, hnew⟩ := hinv
  rw [hc, hm]
  cases running with
  | true => trivial
  | false =>
    refine ⟨p.mem.counters, ⟨hrequest, ?_⟩, ?_, [], rfl, rfl⟩
    · intro counters
      rw [guardFound_concat_guard hrun hnew]
      exact eq_comm
    · apply ownEvents_concat_zero
      · intro k
        rw [ownEvents, hnew]
        rfl
      · intro k
        cases k <;> rfl

theorem CallCounts.setup (hinv : CallCounts cfg filter h m i c)
    (hstep : callStep cfg m c .setup = some (m', c')) :
    CallCounts cfg filter (h ++ [PoolAction.act i .setup]) m' i c' := by
  unfold CallCounts at hinv
  obtain ⟨counter, v, todo, hpc, hm, hc⟩ := callStep_setup hstep
  rw [hpc] at hinv
  obtain ⟨found, hs, hown, done, hdone, hcounters⟩ := hinv
  rw [hc]
  refine ⟨found, hs.concat (by simp), ?_, done ++ [(counter, v)], ?_, ?_⟩
  · apply ownEvents_concat_zero hown
    intro k
    cases k <;> rfl
  · rw [List.append_assoc]
    exact hdone
  · rw [hm, storeAll, List.foldl_append]
    show m.counters.set v counter = (storeAll found done).set v counter
    rw [hcounters]

theorem CallCounts.setRunning (hinv : CallCounts cfg filter h m i c)
    (hstep : callStep cfg m c .setRunning = some (m', c')) :
    CallCounts cfg filter (h ++ [PoolAction.act i .setRunning]) m' i c' := by
  unfold CallCounts at hinv
  obtain ⟨hpc, hm, hc⟩ := callStep_setRunning hstep
  rw [hpc] at hinv
  obtain ⟨found, hs, hown, done, hdone, hcounters⟩ := hinv
  rw [List.append_nil] at hdone
  rw [← hdone] at hcounters
  have hown' : ∀ k, ownEvents cfg i (h ++ [PoolAction.act i .setRunning]) k = 0 := by
    apply ownEvents_concat_zero hown
    intro k
    cases k <;> rfl
  have hs' := hs.concat (a := .act i .setRunning) (by simp)
  rw [hc, hm]
  -- the request decides what the setup has left to do: a single migration has its total already
  cases hrequest : c.request with
  | startMigration keyspaceFilter =>
    rw [hrequest] at hs' hcounters
    exact ⟨found, hs', hown', hcounters⟩
  | migrateSingleTable ks t =>
    rw [hrequest] at hs' hcounters
    refine ⟨found, hs', Tally.of_setup hown' ?_ ?_⟩
    · intro k _
      exact congrArg (fun s => s.get k) hcounters
    · -- the setup of the one table has stored a total of 1
      show 1 ≤ m.counters.tablesTotal
      rw [hcounters]
      exact Nat.le_refl 1
  | stopMigration => exact absurd hrequest hs.migration

/-- The total is stored, and none of the three counters. -/
theorem CallCounts.selectTables (hinv : CallCounts cfg filter h m i c)
    (hstep : callStep cfg m c .selectTables = some (m', c')) :
    CallCounts cfg filter (h ++ [PoolAction.act i .selectTables]) m' i c' := by
  unfold CallCounts at hinv
  obtain ⟨keyspaceFilter, hpc, hrequest, hm, hc⟩ := callStep_selectTables hstep
  rw [hpc] at hinv
  obtain ⟨found, hs, hown, hcounters⟩ := hinv
  rw [hc, hm]
  refine ⟨found, hs.concat (by simp), Tally.of_setup ?_ ?_ (Nat.le_refl _)⟩
  · apply ownEvents_concat_zero hown
    intro k
    cases k <;> rfl
  · intro k hk
    show (m.counters.set _ .tablesTotal).get k = _
    rw [Counters.get_set, if_neg, hcounters]
    intro hk'
    rw [hk'] at hk
    exact absurd hk (by decide)

theorem CallCounts.countCompleted {table : String} (hinv : CallCounts cfg filter h m i c)
    (hstep : callStep cfg m c (.countCompleted table) = some (m', c')) :
    CallCounts cfg filter (h ++ [PoolAction.act i (.countCompleted table)]) m' i c' := by
  unfold CallCounts at hinv
  obtain ⟨r, rest, hpc, _, _, _, hc⟩ := callStep_countCompleted hstep
  rw [hpc] at hinv
  obtain ⟨found, hs, ht⟩ := hinv
  rw [hc]
  cases hrequest : c.request with
  | startMigration keyspaceFilter =>
    rw [hrequest] at hs ht
    exact hs.next ht _ hstep (by simp) (by simp) (by simp)
      (by simp [eventCount, afterTable, Pc.tablesLeft, Nat.add_comm])
  | migrateSingleTable ks t =>
    rw [hrequest] at hs ht
    exact hs.next ht _ hstep (by simp) (by simp) (by simp)
      (by simp [eventCount, afterTable, Pc.tablesLeft])
  | stopMigration => exact absurd hrequest hs.migration

/-- A step of the call itself. -/
theorem CallCounts.step {a : CallAction} (hinv : CallCounts cfg filter h p.mem i c)
    (hrun : runs cfg filter h = some p) (hstep : callStep cfg p.mem c a = some (m', c')) :
    CallCounts cfg filter (h ++ [PoolAction.act i a]) m' i c' := by
  cases a with
  | guard running => exact hinv.guard hrun hstep
  | setup => exact hinv.setup hstep
  | setRunning => exact hinv.setRunning hstep
  | selectTables => exact hinv.selectTables hstep
  | countCompleted table => exact hinv.countCompleted hstep
  -- the rest leaves the tables left as they are, or turns one of them into an event
  | leaveTables =>
    unfold CallCounts at hinv
    obtain ⟨hpc, _, hc⟩ := callStep_leaveTables hstep
    rw [hpc] at hinv
    obtain ⟨found, hs, ht⟩ := hinv
    rw [hc]
    exact hs.next ht _ hstep (by simp) (by simp) (by simp) (Nat.le_refl _)
  | tableHead running =>
    unfold CallCounts at hinv
    obtain ⟨table, rest, hpc, _, _, hc⟩ := callStep_tableHead hstep
    rw [hpc] at hinv
    obtain ⟨found, hs, ht⟩ := hinv
    rw [hc]
    cases running with
    | true =>
      exact hs.next ht _ hstep (by simp) (by simp) (by simp) (by simp [eventCount, Pc.tablesLeft])
    | false => exact hs.next ht _ hstep (by simp) (by simp) (by simp) (Nat.zero_le _)
  | shouldSkipTable =>
    unfold CallCounts at hinv
    obtain ⟨table, rest, hpc, _, hc⟩ := callStep_shouldSkipTable hstep
    rw [hpc] at hinv
    obtain ⟨found, hs, ht⟩ := hinv
    have hnext := hs.next ht (rest.length + 1) hstep (by simp) (by simp) (by simp)
      (by simp [eventCount, Pc.tablesLeft])
    rw [hc]
    unfold CallCounts
    -- whether the table is skipped is decided here and counted in the next step
    split_ifs <;> exact hnext
  | countSkipped =>
    unfold CallCounts at hinv
    obtain ⟨rest, hpc, _, hc⟩ := callStep_countSkipped hstep
    rw [hpc] at hinv
    obtain ⟨found, hs, ht⟩ := hinv
    rw [hc]
    exact hs.next ht _ hstep (by simp) (by simp) (by simp)
      (by simp [eventCount, Pc.tablesLeft, Nat.add_comm])
  | table a =>
    unfold CallCounts at hinv
    obtain ⟨r, rest, r', hpc, _, hc⟩ := callStep_table hstep
    rw [hpc] at hinv
    obtain ⟨found, hs, ht⟩ := hinv
    rw [hc]
    exact hs.next ht _ hstep (by simp) (by simp) (by simp) (by simp [eventCount, Pc.tablesLeft])
  | clearRunning =>
    unfold CallCounts at hinv
    obtain ⟨hpc, _, hc⟩ := callStep_clearRunning hstep
    rw [hpc] at hinv
    obtain ⟨found, hs, ht⟩ := hinv
    rw [hc]
    exact hs.next ht _ hstep (by simp) (by simp) (by simp) (Nat.le_refl _)
  | finish =>
    unfold CallCounts at hinv
    obtain ⟨hpc, hm, hc⟩ := callStep_finish hstep
    rw [hpc] at hinv
    obtain ⟨found, hs, ht⟩ := hinv
    have hnext := hs.next ht 0 hstep (by simp) (by simp) (by simp) (Nat.zero_le _)
    rw [hm] at hnext
    rw [hc]
    exact hnext
  | rethrow =>
    obtain ⟨_, _, _, _, _, hc⟩ := callStep_rethrow hstep
    rw [hc]
    trivial
  | stopGuard running =>
    obtain ⟨_, _, _, hc⟩ := callStep_stopGuard hstep
    rw [hc]
    cases running <;> trivial
  | stopRunning =>
    rw [(callStep_stopRunning hstep).2.2]
    trivial
  | stopPaused =>
    rw [(callStep_stopPaused hstep).2.2]
    trivial

/-- What another call or the environment does, as long as it leaves the counters of a call
under way alone. -/
theorem CallCounts.frame {a : Action} (hinv : CallCounts cfg filter h m i c)
    (ha : ∀ b, a ≠ .act i b) (hm : c.live → m'.counters = m.counters) :
    CallCounts cfg filter (h ++ [a]) m' i c := by
  have hguard : a ≠ .act i (.guard false) := ha _
  -- where the call counts, its tally is untouched as no event is its own and the counters are the
  -- same
  have htally : ∀ left, c.live → (∃ found, Started cfg filter h i c.request found ∧
      Tally cfg h i c.request found m.counters left) →
      ∃ found, Started cfg filter (h ++ [a]) i c.request found ∧
        Tally cfg (h ++ [a]) i c.request found m'.counters left := by
    intro left hlive hex
    obtain ⟨found, hs, ht⟩ := hex
    rw [hm hlive]
    exact ⟨found, hs.concat hguard, ht.concat_other ha⟩
  unfold CallCounts at hinv ⊢
  unfold Call.live at hm htally
  cases hpc : c.pc with
  | guard =>
    rw [hpc] at hinv
    refine ⟨hinv.1, ?_⟩
    rw [Pool.stepsOf_concat_other h ha]
    exact hinv.2
  | setup todo =>
    rw [hpc] at hinv
    obtain ⟨found, hs, hown, done, hdone, hcounters⟩ := hinv
    refine ⟨found, hs.concat hguard, ?_, done, hdone, ?_⟩
    · intro k
      rw [ownEvents_concat_other ha]
      exact hown k
    · rw [hm (by simp [hpc, Pc.phase])]
      exact hcounters
  | selectTables =>
    rw [hpc] at hinv
    obtain ⟨found, hs, hown, hcounters⟩ := hinv
    refine ⟨found, hs.concat hguard, ?_, ?_⟩
    · intro k
      rw [ownEvents_concat_other ha]
      exact hown k
    · rw [hm (by simp [hpc, Pc.phase])]
      exact hcounters
  | returned stats =>
    rw [hpc] at hinv
    obtain ⟨found, hs, ht⟩ := hinv
    exact ⟨found, hs.concat hguard, ht.concat_other ha⟩
  | rejected => trivial
  | threw => trivial
  | stopGuard => trivial
  | stopRunning => trivial
  | stopPaused => trivial
  | stopped => trivial
  | _ =>
    rw [hpc] at hinv htally
    exact htally _ (by simp [Pc.phase]) hinv

/-! ## Sequences of calls -/

instance (c : Call) : Decidable c.live := inferInstanceAs (Decidable (c.pc.phase ≠ .outside))

/-- A migration call is made when none is under way. -/
def OneAfterAnother (_ : List Action) (p : State) : Action → Prop
  | .act _ (.guard _) => ∀ j < p.threads.length, ∀ c ∈ p.threads[j]?, ¬ c.live
  | _ => True

instance (h : List Action) (p : State) (a : Action) : Decidable (OneAfterAnother h p a) :=
  match a with
  | .act _ (.guard _) =>
    inferInstanceAs (Decidable (∀ j < p.threads.length, ∀ c ∈ p.threads[j]?, ¬ c.live))
  | .act _ .setup | .act _ .setRunning | .act _ .selectTables | .act _ .leaveTables
  | .act _ (.tableHead _) | .act _ .shouldSkipTable | .act _ .countSkipped | .act _ (.table _)
  | .act _ (.countCompleted _) | .act _ .rethrow | .act _ .clearRunning | .act _ .finish
  | .act _ (.stopGuard _) | .act _ .stopRunning | .act _ .stopPaused
  | .spawn _ | .env _ => isTrue trivial

/-- Every migration call of the run is made when none is under way. -/
abbrev Sequential (cfg : LoaderConfig) (filter : Option SSTableBlacklistGovernor)
    (h : List Action) : Prop :=
  Meets (Pool.step (program cfg)) OneAfterAnother [] (initial filter) h

theorem live_of_window {j : ℕ} (hwindow : window h j c) : c.live := by
  unfold window at hwindow
  intro hphase
  simp [hphase] at hwindow

theorem guardOutsideWindows_of_oneAfterAnother {a : Action} (ha : OneAfterAnother h p a) :
    GuardOutsideWindows h p a := by
  unfold GuardOutsideWindows
  split
  · intro j hj d hd hwindow
    exact ha j hj d hd (live_of_window hwindow)
  · trivial

theorem meets_of_sequential (hseq : Sequential cfg filter h) :
    Meets (Pool.step (program cfg)) GuardOutsideWindows [] (initial filter) h :=
  hseq.mono fun _ _ _ => guardOutsideWindows_of_oneAfterAnother

theorem exclusiveInv_of_sequential (hseq : Sequential cfg filter h)
    (hrun : runs cfg filter h = some p) : ExclusiveInv h p :=
  exclusiveInv_of_meets (meets_of_sequential hseq) hrun

theorem callCounts_entry (k : Request) {a : Action} (hnew : Pool.stepsOf i h = [])
    (ha : ∀ b, a ≠ .act i b) :
    CallCounts cfg filter (h ++ [a]) m i { request := k, pc := entry k } := by
  have hnew' : Pool.stepsOf i (h ++ [a]) = [] := by rw [Pool.stepsOf_concat_other h ha, hnew]
  cases k with
  | startMigration keyspaceFilter => exact ⟨by simp, hnew'⟩
  | migrateSingleTable ks t => exact ⟨by simp, hnew'⟩
  | stopMigration => trivial

/-- What one more action leaves for each call. -/
theorem CallCounts.concat {a : Action} (hunique : OneAtATime p) (hrun : runs cfg filter h = some p)
    (hinv : ∀ (i : ℕ) (c : Call), p.threads[i]? = some c → CallCounts cfg filter h p.mem i c)
    (hstep : Pool.step (program cfg) p a = some p') :
    ∀ (i : ℕ) (c : Call), p'.threads[i]? = some c → CallCounts cfg filter (h ++ [a]) p'.mem i c := by
  intro j d hd
  cases a with
  | spawn k =>
    rw [Pool.step_spawn hstep] at hd ⊢
    rcases Pool.of_getElem?_concat hd with hd | ⟨rfl, rfl⟩
    · exact (hinv j d hd).frame (by simp) fun _ => rfl
    · refine callCounts_entry k (Pool.stepsOf_eq_nil ?_) (by simp)
      intro a ha
      exact Nat.lt_irrefl _ (Pool.lt_length_of_mem hrun ha)
  | act i a =>
    obtain ⟨c, m', c', hc, hthread, hp'⟩ := Pool.step_act hstep
    have hcall : callStep cfg p.mem c a = some (m', c') := hthread
    rw [hp'] at hd ⊢
    rcases Pool.of_getElem?_set hc hd with ⟨rfl, rfl⟩ | ⟨hji, hd⟩
    · exact (hinv j c hc).step hrun hcall
    · refine (hinv j d hd).frame (by simp [Ne.symm hji]) ?_
      -- only a call under way touches the counters, and there is no second one
      intro hlive
      refine counters_of_not_live hcall fun hlc => ?_
      exact hji (hunique j i d c hd hc hlive hlc)
  | env e =>
    obtain ⟨m', hm', hp'⟩ := Pool.step_env hstep
    obtain rfl := Option.some.inj hm'
    rw [hp'] at hd ⊢
    refine (hinv j d hd).frame (by simp) ?_
    intro _
    cases e <;> rfl

theorem callCounts_of_meets
    (hmeets : Meets (Pool.step (program cfg)) GuardOutsideWindows [] (initial filter) h)
    (hrun : runs cfg filter h = some p) (hc : p.threads[i]? = some c) :
    CallCounts cfg filter h p.mem i c :=
  @run_invariant_of_meets_run _ _ (Pool.step (program cfg)) (initial filter)
    (fun h p => ∀ (i : ℕ) (c : Call), p.threads[i]? = some c → CallCounts cfg filter h p.mem i c)
    GuardOutsideWindows (by simp [initial, Pool.init])
    (fun _ _ _ _ hmeets hrun hinv _ hstep =>
      CallCounts.concat (exclusiveInv_of_meets hmeets hrun).unique hrun hinv hstep)
    h p hmeets hrun i c hc

/-! ## Calls that are rejected -/

/-- Where a call that is rejected, or about to stop a migration, comes from. -/
theorem rejected_of_step {a : CallAction} (hstep : callStep cfg m c a = some (m', c'))
    (hpc : c'.pc = .rejected ∨ c'.pc = .stopGuard) : a = .guard true ∨ c.pc = .stopGuard := by
  cases a with
  | guard running =>
    cases running with
    | true => exact Or.inl rfl
    | false => simp [(callStep_guard hstep).2.2.2] at hpc
  | setup =>
    obtain ⟨_, _, _, _, _, hc⟩ := callStep_setup hstep
    simp [hc] at hpc
  | setRunning =>
    rw [(callStep_setRunning hstep).2.2] at hpc
    cases hrequest : c.request <;> simp [hrequest, afterSetRunning] at hpc
  | selectTables =>
    obtain ⟨_, _, _, _, hc⟩ := callStep_selectTables hstep
    simp [hc] at hpc
  | leaveTables => simp [(callStep_leaveTables hstep).2.2] at hpc
  | tableHead running =>
    obtain ⟨_, _, _, _, _, hc⟩ := callStep_tableHead hstep
    cases running <;> simp [hc] at hpc
  | shouldSkipTable =>
    obtain ⟨_, _, _, _, hc⟩ := callStep_shouldSkipTable hstep
    rw [hc] at hpc
    simp only at hpc
    split at hpc <;> simp at hpc
  | countSkipped =>
    obtain ⟨_, _, _, hc⟩ := callStep_countSkipped hstep
    simp [hc] at hpc
  | table a =>
    obtain ⟨_, _, _, _, _, hc⟩ := callStep_table hstep
    simp [hc] at hpc
  | countCompleted table =>
    obtain ⟨_, _, _, _, _, _, hc⟩ := callStep_countCompleted hstep
    rw [hc] at hpc
    cases hrequest : c.request <;> simp [hrequest, afterTable] at hpc
  | rethrow =>
    obtain ⟨_, _, _, _, _, hc⟩ := callStep_rethrow hstep
    simp [hc] at hpc
  | clearRunning => simp [(callStep_clearRunning hstep).2.2] at hpc
  | finish => simp [(callStep_finish hstep).2.2] at hpc
  | stopGuard running => exact Or.inr (callStep_stopGuard hstep).1
  | stopRunning => simp [(callStep_stopRunning hstep).2.2] at hpc
  | stopPaused => simp [(callStep_stopPaused hstep).2.2] at hpc

/-- A call under way stays so until it returns. -/
theorem live_step {a : CallAction} (hstep : callStep cfg m c a = some (m', c')) (hlive : c.live)
    (hfinish : a ≠ .finish) (hrethrow : a ≠ .rethrow) : c'.live := by
  rw [Call.live, callStep_phase hstep]
  cases a with
  | guard found =>
    cases found with
    | true => exact hlive
    | false => simp [Phase.after]
  | setRunning => simp [Phase.after]
  | clearRunning => simp [Phase.after]
  | finish => exact absurd rfl hfinish
  | rethrow => exact absurd rfl hrethrow
  | _ => exact hlive

/-- The flag is set by a call under way, and no migration call has been rejected. -/
structure FlagInv (p : State) : Prop where
  live : p.mem.isRunning → ∃ (i : ℕ) (c : Call), p.threads[i]? = some c ∧ c.live
  rejected : ∀ (i : ℕ) (c : Call), p.threads[i]? = some c → c.pc = .rejected ∨ c.pc = .stopGuard →
    c.request = .stopMigration

theorem FlagInv.act {a : CallAction} (hinv : FlagInv p) (hexcl : ExclusiveInv h p)
    (hC : OneAfterAnother h p (.act i a)) (ha : a ≠ .rethrow) (hc : p.threads[i]? = some c)
    (hstep : callStep cfg p.mem c a = some (m', c')) :
    FlagInv { mem := m', threads := p.threads.set i c' } := by
  have hself : (p.threads.set i c')[i]? = some c' :=
    List.getElem?_set_self (List.getElem?_eq_some_iff.mp hc).1
  refine ⟨?_, ?_⟩
  · intro hrunning
    by_cases hset : a = .setRunning
    · subst hset
      exact ⟨i, c', hself, by simp [Call.live, callStep_phase hstep, Phase.after]⟩
    by_cases hclear : a = .clearRunning
    · subst hclear
      simp [(callStep_clearRunning hstep).2.1] at hrunning
    by_cases hstop : a = .stopRunning
    · subst hstop
      simp [(callStep_stopRunning hstep).2.1] at hrunning
    have hbefore : p.mem.isRunning := (callStep_frame hstep).2.1 hset hclear hstop ▸ hrunning
    obtain ⟨j, d, hd, hlive⟩ := hinv.live hbefore
    by_cases hji : j = i
    · subst hji
      obtain rfl := Option.some.inj (hd.symm.trans hc)
      refine ⟨j, c', hself, live_step hstep hlive ?_ ha⟩
      -- a call that finishes has cleared the flag
      intro hfinish
      subst hfinish
      have hflag := hexcl.flag j d hc hlive
      rw [(callStep_finish hstep).1, hbefore] at hflag
      simp [Pc.phase] at hflag
    · exact ⟨j, d, by rw [List.getElem?_set_ne (Ne.symm hji)]; exact hd, hlive⟩
  · intro j d hd hpc
    rcases Pool.of_getElem?_set hc hd with ⟨rfl, rfl⟩ | ⟨_, hd⟩
    · rw [(callStep_frame hstep).1]
      rcases rejected_of_step hstep hpc with hguard | hpc
      · subst hguard
        obtain ⟨k, e, he, hlive⟩ := hinv.live (callStep_guard hstep).2.1
        exact absurd hlive (hC k (List.getElem?_eq_some_iff.mp he).1 e he)
      · exact hinv.rejected j c hc (Or.inr hpc)
    · exact hinv.rejected j d hd hpc

theorem FlagInv.concat {a : Action} (hinv : FlagInv p) (hexcl : ExclusiveInv h p)
    (hC : OneAfterAnother h p a) (ha : ∀ i, a ≠ .act i .rethrow)
    (hstep : Pool.step (program cfg) p a = some p') : FlagInv p' := by
  cases a with
  | spawn k =>
    rw [Pool.step_spawn hstep]
    refine ⟨?_, ?_⟩
    · intro hrunning
      obtain ⟨j, d, hd, hlive⟩ := hinv.live hrunning
      refine ⟨j, d, ?_, hlive⟩
      rw [List.getElem?_append_left (List.getElem?_eq_some_iff.mp hd).1]
      exact hd
    · intro j d hd hpc
      rcases Pool.of_getElem?_concat hd with hd | ⟨_, rfl⟩
      · exact hinv.rejected j d hd hpc
      · cases k <;> simp [program, entry] at hpc ⊢
  | act i a =>
    obtain ⟨c, m', c', hc, hthread, hp'⟩ := Pool.step_act hstep
    rw [hp']
    exact hinv.act hexcl hC (fun heq => ha i (by rw [heq])) hc hthread
  | env e =>
    obtain ⟨m', hm', hp'⟩ := Pool.step_env hstep
    obtain rfl := Option.some.inj hm'
    rw [hp']
    refine ⟨?_, hinv.rejected⟩
    intro hrunning
    cases e with
    | stop => simp [envStep] at hrunning
    | _ => exact hinv.live hrunning

theorem flagInv_of_sequential (hseq : Sequential cfg filter h)
    (hrethrow : ∀ i, .act i .rethrow ∉ h) (hrun : runs cfg filter h = some p) : FlagInv p := by
  have hmeets := Meets.and_of_mem (Q := fun a => ∀ i, a ≠ .act i .rethrow) hseq
    fun a ha i heq => hrethrow i (heq ▸ ha)
  have hinit : FlagInv (initial filter) :=
    ⟨by simp [initial, Pool.init], by simp [initial, Pool.init]⟩
  exact run_invariant_of_meets_run hinit
    (fun h p a p' hmeets hrun hinv hC hstep => FlagInv.concat hinv
      (exclusiveInv_of_sequential (hmeets.mono fun _ _ _ h => h.1) hrun) hC.1 hC.2 hstep)
    h p hmeets hrun

/-! ## The result -/

/-- The counters are those of call `i`: its own events, on no more tables than it has. -/
structure OwnCounts (cfg : LoaderConfig) (h : List Action) (i : ℕ) (s : Counters) : Prop where
  tables : s.tablesCompleted + s.tablesSkipped ≤ s.tablesTotal
  completed : s.tablesCompleted = ownEvents cfg i h .tablesCompleted
  skipped : s.tablesSkipped = ownEvents cfg i h .tablesSkipped
  ranges : s.skippedRanges = ownEvents cfg i h .skippedRanges

/-- After each call `get_stats` has the counters of this call. -/
def CountsOwnCall (cfg : LoaderConfig) (h : List Action) (p : State) : Prop :=
  ∀ (i : ℕ) (c : Call) stats, p.threads[i]? = some c → c.pc = .returned stats →
    OwnCounts cfg h i stats.counters

/-- Nothing is left in the counters of tables and ranges. -/
def Counters.Clean (s : Counters) : Prop :=
  s.tablesCompleted = 0 ∧ s.tablesSkipped = 0 ∧ s.skippedRanges = 0

/-- Every `migrate_single_table` that has returned found the counters at zero. -/
def SingleFoundClean (cfg : LoaderConfig) (filter : Option SSTableBlacklistGovernor)
    (h : List Action) (p : State) : Prop :=
  ∀ (i : ℕ) (c : Call) ks t stats, p.threads[i]? = some c → c.request = .migrateSingleTable ks t →
    c.pc = .returned stats → ∀ found, GuardFound cfg filter h i found → found.Clean

/-- A call that resets the counters leaves its own ones, and so does one that has no need to. -/
theorem ownCounts_of_tally {request : Request} {found s : Counters}
    (ht : Tally cfg h i request found s 0)
    (hclean : (storeAll found (setupStores request)).Clean) : OwnCounts cfg h i s := by
  obtain ⟨hcompleted, hskipped, hranges⟩ := hclean
  have hc : s.tablesCompleted = _ + _ := ht.counted .tablesCompleted (by decide)
  have hs : s.tablesSkipped = _ + _ := ht.counted .tablesSkipped (by decide)
  have hr : s.skippedRanges = _ + _ := ht.counted .skippedRanges (by decide)
  have htables := ht.tables
  rw [show (storeAll found (setupStores request)).get .tablesCompleted = 0 from hcompleted] at hc
  rw [show (storeAll found (setupStores request)).get .tablesSkipped = 0 from hskipped] at hs
  rw [show (storeAll found (setupStores request)).get .skippedRanges = 0 from hranges] at hr
  refine ⟨?_, ?_, ?_, ?_⟩ <;> omega

theorem clean_of_ownCounts {request : Request} {found s : Counters}
    (ht : Tally cfg h i request found s 0) (hown : OwnCounts cfg h i s) :
    (storeAll found (setupStores request)).Clean := by
  have hc : s.tablesCompleted = (storeAll found (setupStores request)).tablesCompleted + _ :=
    ht.counted .tablesCompleted (by decide)
  have hs : s.tablesSkipped = (storeAll found (setupStores request)).tablesSkipped + _ :=
    ht.counted .tablesSkipped (by decide)
  have hr : s.skippedRanges = (storeAll found (setupStores request)).skippedRanges + _ :=
    ht.counted .skippedRanges (by decide)
  obtain ⟨_, hcompleted, hskipped, hranges⟩ := hown
  refine ⟨?_, ?_, ?_⟩ <;> omega

theorem tally_of_returned
    (hmeets : Meets (Pool.step (program cfg)) GuardOutsideWindows [] (initial filter) h)
    (hrun : runs cfg filter h = some p) (hc : p.threads[i]? = some c) {stats : MigrationStats}
    (hpc : c.pc = .returned stats) :
    ∃ found, Started cfg filter h i c.request found ∧
      Tally cfg h i c.request found stats.counters 0 := by
  have hcounts := callCounts_of_meets hmeets hrun hc
  unfold CallCounts at hcounts
  rw [hpc] at hcounts
  exact hcounts

/-- In every run in which the calls are made one after another: after each of them the
counters are its own exactly when every `migrate_single_table` found them at zero. And as
long as nothing but a `SyncError` is thrown, every migration call is let through. -/
theorem counters_count_own_call_iff (cfg : LoaderConfig) (filter : Option SSTableBlacklistGovernor)
    (h : List Action) (p : State) (hseq : Sequential cfg filter h)
    (hrun : runs cfg filter h = some p) :
    (CountsOwnCall cfg h p ↔ SingleFoundClean cfg filter h p) ∧
      ((∀ i, .act i .rethrow ∉ h) → ∀ (i : ℕ) (c : Call), p.threads[i]? = some c →
        c.pc = .rejected → c.request = .stopMigration) := by
  refine ⟨⟨?_, ?_⟩, ?_⟩
  · intro hown i c ks t stats hc hrequest hpc counters hcounters
    obtain ⟨found, hs, ht⟩ := tally_of_returned (meets_of_sequential hseq) hrun hc hpc
    have hclean := clean_of_ownCounts ht (hown i c stats hc hpc)
    rw [hrequest] at hclean
    rw [(hs.found_iff counters).mp hcounters]
    exact hclean
  · intro hfound i c stats hc hpc
    obtain ⟨found, hs, ht⟩ := tally_of_returned (meets_of_sequential hseq) hrun hc hpc
    refine ownCounts_of_tally ht ?_
    cases hrequest : c.request with
    | startMigration keyspaceFilter => exact ⟨rfl, rfl, rfl⟩
    | migrateSingleTable ks t =>
      exact hfound i c ks t stats hc hrequest hpc found ((hs.found_iff found).mpr rfl)
    | stopMigration => exact absurd hrequest hs.migration
  · intro hrethrow i c hc hpc
    exact (flagInv_of_sequential hseq hrethrow hrun).rejected i c hc (Or.inl hpc)

/-- One `migrate_single_table` call from its guard to its return. -/
def singleMigration (i : ℕ) : List Action :=
  .spawn (.migrateSingleTable "app" "files") ::
    (enterTable ++ (oneBatch fun _ => .ok).map CallAction.table ++
      [CallAction.countCompleted "app.files", CallAction.clearRunning, CallAction.finish]).map
      (PoolAction.act i)

/-- The same table migrated twice. -/
def migratedTwice : List Action := singleMigration 0 ++ singleMigration 1

theorem sequential_migratedTwice : Sequential oneTable none migratedTwice := by decide +kernel

/-- What the second call returns. -/
def migratedTwiceStats : MigrationStats where
  counters := { tablesCompleted := 2, tablesTotal := 1 }
  isRunning := false
  isPaused := false

theorem exists_migratedTwice : ∃ p, runs oneTable none migratedTwice = some p ∧
    (p.threads.map (·.pc))[1]? = some (.returned migratedTwiceStats) := by
  have hlast : ((runs oneTable none migratedTwice).map fun p => (p.threads.map (·.pc))[1]?) =
      some (some (.returned migratedTwiceStats)) := by decide +kernel
  exact Option.map_eq_some_iff.mp hlast

/-- The second call counts the table of the first one, too: two of one table. -/
theorem completed_exceeds_total :
    ¬ ∀ (cfg : LoaderConfig) (filter : Option SSTableBlacklistGovernor) (h : List Action)
        (p : State), Sequential cfg filter h → runs cfg filter h = some p →
      CountsOwnCall cfg h p := by
  intro hall
  obtain ⟨p, hrun, hpc⟩ := exists_migratedTwice
  rw [List.getElem?_map, Option.map_eq_some_iff] at hpc
  obtain ⟨c, hc, hpc⟩ := hpc
  have hown := hall oneTable none migratedTwice p sequential_migratedTwice hrun 1 c _ hc hpc
  exact absurd hown.tables (by decide)

theorem counters_count_own_call_iff_migratedTwice :
    ∃ p, runs oneTable none migratedTwice = some p ∧
      (CountsOwnCall oneTable migratedTwice p ↔ SingleFoundClean oneTable none migratedTwice p) := by
  obtain ⟨p, hrun, _⟩ := exists_migratedTwice
  exact ⟨p, hrun, (counters_count_own_call_iff oneTable none migratedTwice p
    sequential_migratedTwice hrun).1⟩

end SSTableLoader
end ScyllaClusterSync
