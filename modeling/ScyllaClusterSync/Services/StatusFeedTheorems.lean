import ScyllaClusterSync.SSTableLoader.RowCountersTheorems
import ScyllaClusterSync.Services.StatusFeed
import ScyllaClusterSync.TuiDash.LiveTheorems

/-!
# What the dashboard can learn of a migration

Each number and flag the dashboard shows is one the loader had between the request and the
arrival of the answer, but not all of them at one moment: a migration that starts between two
loads of the handler is shown half. The rows, the progress, the throughput and the time stay at
zero, since the loader counts no row and the answer names neither of the last two, and the end
of a migration is never logged: the entry waits for a migrated row (`dashboard_follows_loader`).
-/

namespace ScyllaClusterSync
namespace Services

open Lib SSTableLoader TuiDash

variable {D : Type} [Double D] {cfg : LoaderConfig} {filter : Option SSTableBlacklistGovernor}
  {percent : UInt64 → UInt64 → D} {m : Loader} {c : StatusCall} {s : DashboardState D}

/-! ## What the handler has read -/

namespace StatusCall

/-- The field that this load fills is that of this loader. -/
def Agrees (c : StatusCall) (m : Loader) : StatusField → Prop
  | .counter k => c.stats.counters.get k = m.counters.get k
  | .isRunning => c.stats.isRunning = m.isRunning
  | .isPaused => c.stats.isPaused = m.isPaused
  | .filterEnabled => c.filter.enabled = m.filter.elim false (·.isEnabled)
  | .filterTablesSkipped => c.filter.tablesSkipped = m.filter.elim 0 (·.stats.tablesSkipped)
  | .filterRowsSkipped => c.filter.rowsSkipped = m.filter.elim 0 (·.stats.rowsSkipped)
  | .filterRowsAllowed => c.filter.rowsAllowed = m.filter.elim 0 (·.stats.rowsAllowed)

theorem agrees_read (m : Loader) (c : StatusCall) (f : StatusField) : (c.read m f).Agrees m f := by
  cases f with
  | counter k =>
    show (c.stats.counters.set (m.counters.get k) k).get k = m.counters.get k
    rw [Counters.get_set, if_pos rfl]
  | _ => rfl

/-- A load leaves the other fields. -/
theorem Agrees.read {m' : Loader} {f g : StatusField} (h : c.Agrees m g) (hne : g ≠ f) :
    (c.read m' f).Agrees m g := by
  cases f with
  | counter k =>
    cases g with
    | counter k' =>
      show (c.stats.counters.set (m'.counters.get k) k).get k' = m.counters.get k'
      rw [Counters.get_set, if_neg (fun heq => hne (congrArg StatusField.counter heq))]
      exact h
    | _ => exact h
  | _ => cases g <;> first | exact h | exact absurd rfl hne

/-- What has been read is of one of these loaders, each field of one of its own. -/
def LoadedFrom (Past : Loader → Prop) (c : StatusCall) : Prop :=
  ∀ f, f ∈ getStatsOrder ++ (if c.hasFilter then filterOrder else []) → f ∉ c.todo →
    ∃ m, Past m ∧ c.Agrees m f

end StatusCall

/-! ## What an answer of the handler makes of the state -/

/-- The state with what the handler answered. -/
def readStatus (percent : UInt64 → UInt64 → D) (stats : MigrationStats) (s : DashboardState D) :
    DashboardState D :=
  { s with
    totalRows := UInt64.ofNat stats.counters.totalRows
    migratedRows := UInt64.ofNat stats.counters.migratedRows
    failedRows := UInt64.ofNat stats.counters.failedRows
    filteredRows := UInt64.ofNat stats.counters.filteredRows
    throughput := Double.zero
    progressPercent := progressPercent percent stats
    tablesTotal := (UInt64.ofNat stats.counters.tablesTotal).toUInt32
    tablesCompleted := (UInt64.ofNat stats.counters.tablesCompleted).toUInt32
    tablesSkipped := (UInt64.ofNat stats.counters.tablesSkipped).toUInt32
    isRunning := stats.isRunning
    isPaused := stats.isPaused
    elapsedSecs := Double.zero
    elapsedDisplay := "00:00:00" }

omit [Double D] in
theorem member_jsonObject (members : List (String × Json (Scalar D))) (key : String) :
    (jsonObject members).member key = members.lookup key := by
  show (if h : key ∈ (members.map Prod.fst).toFinset then
    some ((members.lookup key).getD (.scalar .null)) else none) = members.lookup key
  split
  next hmem =>
    cases hlookup : members.lookup key with
    | some v => rfl
    | none =>
      rw [List.lookup_eq_none_iff] at hlookup
      obtain ⟨q, hq, rfl⟩ := List.mem_map.mp (List.mem_toFinset.mp hmem)
      exact absurd rfl (bne_iff_ne.mp (hlookup q hq))
  next hnot =>
    symm
    rw [List.lookup_eq_none_iff]
    intro q hq
    apply bne_iff_ne.mpr
    rintro rfl
    exact hnot (List.mem_toFinset.mpr (List.mem_map_of_mem hq))

theorem member_getStatus : (getStatus percent c).member "migration" =
    some (statusMigration percent c.stats) := by
  rw [getStatus, member_jsonObject]
  rfl

omit [Double D] in
theorem value_jsonObject {T : Type} (get : Json (Scalar D) → Except (JsonException D) T)
    (fallback : T) (members : List (String × Json (Scalar D))) (key : String) :
    value get fallback (jsonObject members) key =
      (members.lookup key).elim (.ok fallback) get := by
  rw [← member_jsonObject members key]
  rfl

/-- Every assignment finds its number or flag, or its default. -/
theorem assign_statusMigration (stats : MigrationStats) (s : DashboardState D) :
    assign (statusMigration percent stats) assignments s = (readStatus percent stats s, none) := by
  have hclock : (DualWriter.snprintf 16 (elapsedText (Double.toInt (Double.zero : D)).toInt)) =
      "00:00:00" := by
    rw [Double.toInt_zero]
    decide
  simp [assignments, assign, assignment, statusMigration, value_jsonObject, List.lookup_cons,
    getUInt64, getUInt32, getDouble, getBool, count, Except.map, DashboardState.updateElapsed,
    hclock, readStatus]

theorem updateState_getStatus (baseUrl : String) (now : ℕ → ℕ) (s : DashboardState D) :
    updateState logCapacity baseUrl now (getStatus percent c) s =
      (logTransitions logCapacity baseUrl now s (readStatus percent c.stats s), none) := by
  rw [updateState, member_getStatus]
  dsimp only
  rw [assign_statusMigration]

theorem fetchStatus_getStatus (what : JsonException D → String) (baseUrl : String) (now : ℕ → ℕ)
    (client : ApiClient) (s : DashboardState D) :
    fetchStatus logCapacity what baseUrl now client s (.reply 200 (.ok (getStatus percent c))) =
      ({ connected := true, lastError := "" },
        logTransitions logCapacity baseUrl now s (readStatus percent c.stats s)) := by
  unfold fetchStatus
  dsimp only
  rw [if_neg (fun hne => hne rfl), updateState_getStatus]

/-! ## What the dashboard shows -/

/-- The tables, the failures and the running flag, each of one of these loaders. -/
structure Displays (Past : Loader → Prop) (s : DashboardState D) : Prop where
  failedRows : ∃ m, Past m ∧ s.failedRows = UInt64.ofNat m.counters.failedRows
  tablesTotal : ∃ m, Past m ∧ s.tablesTotal = (UInt64.ofNat m.counters.tablesTotal).toUInt32
  tablesCompleted : ∃ m, Past m ∧
    s.tablesCompleted = (UInt64.ofNat m.counters.tablesCompleted).toUInt32
  tablesSkipped : ∃ m, Past m ∧ s.tablesSkipped = (UInt64.ofNat m.counters.tablesSkipped).toUInt32
  isRunning : ∃ m, Past m ∧ s.isRunning = m.isRunning

/-- No rows, no progress, no throughput and no time. -/
structure Blank (s : DashboardState D) : Prop where
  totalRows : s.totalRows = 0
  migratedRows : s.migratedRows = 0
  filteredRows : s.filteredRows = 0
  throughput : s.throughput = Double.zero
  progressPercent : s.progressPercent = Double.zero
  elapsedSecs : s.elapsedSecs = Double.zero
  elapsedDisplay : s.elapsedDisplay = "00:00:00"

/-- Neither an error nor the end of a migration. -/
def Quiet (e : LogEntry) : Prop :=
  e.level ≠ "ERROR" ∧ (e.level = "INFO" → e.message ≠ "Migration completed")

/-- Everything the dashboard shows comes from these loaders, or is never shown. -/
structure Follows (Past : Loader → Prop) (s : DashboardState D) : Prop where
  displays : Displays Past s
  blank : Blank s
  quiet : ∀ e ∈ s.activityLog, Quiet e

section

variable {Past Past' : Loader → Prop} {cap : ℕ}

omit [Double D] in
theorem Displays.mono (h : Displays Past s) (hpast : ∀ m, Past m → Past' m) :
    Displays Past' s where
  failedRows := h.failedRows.imp fun m hm => ⟨hpast m hm.1, hm.2⟩
  tablesTotal := h.tablesTotal.imp fun m hm => ⟨hpast m hm.1, hm.2⟩
  tablesCompleted := h.tablesCompleted.imp fun m hm => ⟨hpast m hm.1, hm.2⟩
  tablesSkipped := h.tablesSkipped.imp fun m hm => ⟨hpast m hm.1, hm.2⟩
  isRunning := h.isRunning.imp fun m hm => ⟨hpast m hm.1, hm.2⟩

theorem Follows.mono (h : Follows Past s) (hpast : ∀ m, Past m → Past' m) : Follows Past' s :=
  ⟨h.displays.mono hpast, h.blank, h.quiet⟩

omit [Double D] in
/-- The pause flag, the log and the scrolling are the dashboard's own. -/
theorem Displays.frame (h : Displays Past s) (paused : Bool) (log : List LogEntry)
    (offset : UInt64) :
    Displays Past { s with isPaused := paused, activityLog := log, scrollOffset := offset } :=
  ⟨h.failedRows, h.tablesTotal, h.tablesCompleted, h.tablesSkipped, h.isRunning⟩

theorem Follows.frame (h : Follows Past s) (paused : Bool) {log : List LogEntry}
    (hlog : ∀ e ∈ log, Quiet e) (offset : UInt64) :
    Follows Past { s with isPaused := paused, activityLog := log, scrollOffset := offset } where
  displays := h.displays.frame paused log offset
  blank := ⟨h.blank.totalRows, h.blank.migratedRows, h.blank.filteredRows, h.blank.throughput,
    h.blank.progressPercent, h.blank.elapsedSecs, h.blank.elapsedDisplay⟩
  quiet := hlog

theorem Follows.addLog (h : Follows Past s) {now : ℕ} {level message : String}
    (hquiet : Quiet { timestamp := now, level, message }) :
    Follows Past (s.addLog cap now level message) := by
  refine h.frame s.isPaused ?_ s.scrollOffset
  intro e he
  rcases BoundedLog.mem_push he with hold | rfl
  · exact h.quiet e hold
  · exact hquiet

theorem Follows.logWhen (h : Follows Past s) {condition : Bool} {now : ℕ} {level message : String}
    (hquiet : condition = true → Quiet { timestamp := now, level, message }) :
    Follows Past (logWhen cap condition now level message s) := by
  cases condition with
  | false => exact h
  | true => exact h.addLog (hquiet rfl)

omit [Double D] in
theorem append_ne_completed {start : String}
    (hstart : ¬ start.toList <+: "Migration completed".toList) (rest : String) :
    start ++ rest ≠ "Migration completed" := by
  intro heq
  apply hstart
  rw [← heq, String.toList_append]
  exact List.prefix_append _ _

/-- No migrated rows, no end of a migration. -/
theorem Follows.logTransitions (h : Follows Past s) (before : DashboardState D) (baseUrl : String)
    (now : ℕ → ℕ) : Follows Past (logTransitions cap baseUrl now before s) := by
  have hconnected := @Follows.logWhen _ _ _ _ cap h (!before.isRunning && s.isRunning) (now 0)
    "INFO" ("Connected to sstable-loader at " ++ baseUrl)
    fun _ => ⟨by simp, fun _ => append_ne_completed (by decide) _⟩
  refine ((((hconnected.logWhen ?_).logWhen ?_).logWhen ?_).logWhen ?_)
  · intro hcompleted
    rw [h.blank.migratedRows] at hcompleted
    simp at hcompleted
  · exact fun _ => ⟨by simp, fun hinfo => by simp at hinfo⟩
  · exact fun _ => ⟨by simp, fun _ => by simp⟩
  · exact fun _ => ⟨by simp, fun hinfo => by simp at hinfo⟩

theorem Follows.onKey (h : Follows Past s)
    (hnew : Displays Past (.new : DashboardState D)) (now : ℕ) (k : Key) :
    Follows Past (onKey cap now s k) := by
  cases k with
  | space =>
    show Follows Past (s.togglePause cap now)
    unfold DashboardState.togglePause
    split
    · refine (h.frame (!s.isPaused) h.quiet s.scrollOffset).addLog ?_
      cases s.isPaused <;> simp [Quiet]
    · exact h
  | r =>
    refine Follows.addLog (s := .new) ⟨hnew, ⟨rfl, rfl, rfl, rfl, rfl, rfl, rfl⟩, ?_⟩ ?_
    · intro e he
      cases he
    · exact ⟨by simp, fun _ => by simp⟩
  | arrowUp =>
    show Follows Past s.scrollUp
    unfold DashboardState.scrollUp
    split
    · exact h.frame s.isPaused h.quiet (s.scrollOffset - 1)
    · exact h
  | arrowDown => exact h.frame s.isPaused h.quiet (s.scrollOffset + 1)

/-- A handler that has made its loads shows each field of a loader it read. -/
theorem displays_readStatus (hc : c.LoadedFrom Past) (hdone : c.todo = [])
    (s : DashboardState D) : Displays Past (readStatus percent c.stats s) ∧
      ∃ m, Past m ∧ (readStatus percent c.stats s).isPaused = m.isPaused := by
  have hread : ∀ f ∈ getStatsOrder, ∃ m, Past m ∧ c.Agrees m f := by
    intro f hf
    apply hc f (List.mem_append_left _ hf)
    rw [hdone]
    exact List.not_mem_nil
  have hcounter : ∀ k, ∃ m, Past m ∧ c.stats.counters.get k = m.counters.get k :=
    fun k => hread (.counter k) (by cases k <;> decide)
  refine ⟨⟨?_, ?_, ?_, ?_, hread .isRunning (by decide)⟩, hread .isPaused (by decide)⟩
  · exact (hcounter .failedRows).imp fun m hm => ⟨hm.1, congrArg UInt64.ofNat hm.2⟩
  · exact (hcounter .tablesTotal).imp fun m hm =>
      ⟨hm.1, congrArg (fun n => (UInt64.ofNat n).toUInt32) hm.2⟩
  · exact (hcounter .tablesCompleted).imp fun m hm =>
      ⟨hm.1, congrArg (fun n => (UInt64.ofNat n).toUInt32) hm.2⟩
  · exact (hcounter .tablesSkipped).imp fun m hm =>
      ⟨hm.1, congrArg (fun n => (UInt64.ofNat n).toUInt32) hm.2⟩

/-- No loader has counted a row, so the answer has none either. -/
theorem blank_readStatus (hc : c.LoadedFrom Past) (hdone : c.todo = [])
    (hrows : ∀ m, Past m → ∀ k ∈ rowCounters, m.counters.get k = 0) (s : DashboardState D) :
    Blank (readStatus percent c.stats s) := by
  have hzero : ∀ k ∈ rowCounters, c.stats.counters.get k = 0 := by
    intro k hk
    obtain ⟨m, hm, hagrees⟩ := hc (.counter k)
      (List.mem_append_left _ (by cases k <;> decide)) (by rw [hdone]; exact List.not_mem_nil)
    exact hagrees.trans (hrows m hm k hk)
  have htotal : c.stats.counters.totalRows = 0 := hzero .totalRows (by decide)
  have hmigrated : c.stats.counters.migratedRows = 0 := hzero .migratedRows (by decide)
  have hfiltered : c.stats.counters.filteredRows = 0 := hzero .filteredRows (by decide)
  refine ⟨?_, ?_, ?_, rfl, ?_, rfl, rfl⟩
  · show UInt64.ofNat c.stats.counters.totalRows = 0
    rw [htotal]
    rfl
  · show UInt64.ofNat c.stats.counters.migratedRows = 0
    rw [hmigrated]
    rfl
  · show UInt64.ofNat c.stats.counters.filteredRows = 0
    rw [hfiltered]
    rfl
  · show progressPercent percent c.stats = Double.zero
    rw [progressPercent, htotal]
    rfl

end

/-! ## The handler beside the loader -/

/-- The request that is being answered has read these loaders only. -/
structure Serves (percent : UInt64 → UInt64 → D) (Past : Loader → Prop) (p : Feed D) : Prop where
  handler : ∀ c, p.handler = some c → c.LoadedFrom Past
  answer : ∀ body, p.answer = some body →
    ∃ c : StatusCall, c.todo = [] ∧ c.LoadedFrom Past ∧ body = getStatus percent c

section

variable {Past Past' : Loader → Prop} {what : JsonException D → String} {baseUrl : String}
  {p p' : Feed D} {action : FeedAction × (ℕ → ℕ)}

theorem StatusCall.LoadedFrom.mono (h : c.LoadedFrom Past) (hpast : ∀ m, Past m → Past' m) :
    c.LoadedFrom Past' :=
  fun f hf htodo => (h f hf htodo).imp fun m hm => ⟨hpast m hm.1, hm.2⟩

theorem Serves.mono (h : Serves percent Past p) (hpast : ∀ m, Past m → Past' m) :
    Serves percent Past' p where
  handler c hc := (h.handler c hc).mono hpast
  answer body hbody := let ⟨c, hdone, hc, heq⟩ := h.answer body hbody
    ⟨c, hdone, hc.mono hpast, heq⟩

/-- A handler that has just been called has read nothing. -/
theorem loadedFrom_call (Past : Loader → Prop) (hasFilter : Bool) :
    StatusCall.LoadedFrom Past { hasFilter } :=
  fun _ hf hnot => absurd hf hnot

theorem StatusCall.LoadedFrom.load {c' : StatusCall} (h : c.LoadedFrom Past) (hm : Past m)
    (hload : c.load m = some c') : c'.LoadedFrom Past := by
  unfold StatusCall.load at hload
  split at hload
  · cases hload
  next f rest htodo =>
    obtain rfl := Option.some.inj hload
    intro g hg hnot
    by_cases hgf : g = f
    · subst hgf
      exact ⟨m, hm, c.agrees_read m g⟩
    · have hbefore : g ∉ c.todo := by
        rw [htodo, List.mem_cons, not_or]
        exact ⟨hgf, hnot⟩
      have hg' : g ∈ getStatsOrder ++ (if c.hasFilter then filterOrder else []) := by
        cases f <;> exact hg
      obtain ⟨m₀, hm₀, hagrees⟩ := h g hg' hbefore
      exact ⟨m₀, hm₀, hagrees.read hgf⟩

/-- One step, where the loader before it is one of these. -/
theorem Serves.step (hinv : Serves percent Past p) (hm : Past p.loader.mem)
    (hstep : feedStep cfg percent what baseUrl p action = some p') : Serves percent Past p' := by
  obtain ⟨action, now⟩ := action
  have hnone : ∀ dashboard, Serves percent Past
      { p with handler := none, answer := none, dashboard := dashboard } := by
    intro dashboard
    refine ⟨?_, ?_⟩
    · intro c hc
      cases hc
    · intro body hbody
      cases hbody
  cases action with
  | loader a =>
    obtain ⟨loader, _, rfl⟩ := Option.map_eq_some_iff.mp hstep
    exact ⟨hinv.handler, hinv.answer⟩
  | request =>
    obtain rfl := Option.some.inj hstep
    refine ⟨?_, ?_⟩
    · intro c hc
      obtain rfl := Option.some.inj hc
      exact loadedFrom_call Past _
    · intro body hbody
      cases hbody
  | load =>
    obtain ⟨c', hload, rfl⟩ := Option.map_eq_some_iff.mp hstep
    obtain ⟨c, hc, hread⟩ := Option.bind_eq_some_iff.mp hload
    refine ⟨?_, hinv.answer⟩
    intro c₁ hc₁
    obtain rfl := Option.some.inj hc₁
    exact (hinv.handler c hc).load hm hread
  | reply =>
    obtain ⟨c, hc, hreply⟩ := Option.bind_eq_some_iff.mp hstep
    obtain ⟨hdone, heq⟩ := Option.ite_none_right_eq_some.mp hreply
    obtain rfl := Option.some.inj heq
    refine ⟨?_, ?_⟩
    · intro c₁ hc₁
      cases hc₁
    · intro body hbody
      obtain rfl := Option.some.inj hbody
      exact ⟨c, hdone, hinv.handler c hc, rfl⟩
  | deliver =>
    obtain ⟨body, _, rfl⟩ := Option.map_eq_some_iff.mp hstep
    exact hnone _
  | lost text =>
    obtain rfl := Option.some.inj hstep
    exact hnone _
  | refused status =>
    obtain ⟨_, heq⟩ := Option.ite_none_left_eq_some.mp hstep
    obtain rfl := Option.some.inj heq
    exact hnone _
  | key k =>
    obtain rfl := Option.some.inj hstep
    exact ⟨hinv.handler, hinv.answer⟩

/-- What an answer that arrives shows. -/
theorem Serves.deliver {t : ℕ → ℕ} (hinv : Serves percent Past p)
    (hstep : feedStep cfg percent what baseUrl p (.deliver, t) = some p') :
    Displays Past p'.dashboard.state ∧
      (∃ m, Past m ∧ p'.dashboard.state.isPaused = m.isPaused) ∧
      p'.dashboard.client.connected = true := by
  obtain ⟨body, hbody, rfl⟩ := Option.map_eq_some_iff.mp hstep
  obtain ⟨c, hdone, hc, rfl⟩ := hinv.answer body hbody
  have hshown := @displays_readStatus _ _ percent c Past hc hdone p.dashboard.state
  show Displays Past (fetchStatus logCapacity what baseUrl t p.dashboard.client
      p.dashboard.state (.reply 200 (.ok (getStatus percent c)))).2 ∧
    (∃ m, Past m ∧ (fetchStatus logCapacity what baseUrl t p.dashboard.client
      p.dashboard.state (.reply 200 (.ok (getStatus percent c)))).2.isPaused = m.isPaused) ∧
    (fetchStatus logCapacity what baseUrl t p.dashboard.client p.dashboard.state
      (.reply 200 (.ok (getStatus percent c)))).1.connected = true
  rw [fetchStatus_getStatus]
  refine ⟨?_, ?_, rfl⟩
  · exact logTransitions_keeps (fun s log h => h.frame s.isPaused log s.scrollOffset) baseUrl t _
      hshown.1
  · exact logTransitions_keeps (P := fun s => ∃ m, Past m ∧ s.isPaused = m.isPaused)
      (fun s log h => h) baseUrl t _ hshown.2

end

/-! ## The loader and the dashboard -/

/-- A state the loader was in after the first history, during the second. -/
def Between (cfg : LoaderConfig) (filter : Option SSTableBlacklistGovernor)
    (g h : List SSTableLoader.Action) (m : Loader) : Prop :=
  ∃ h₀ p₀, h₀ <+: h ∧ runs cfg filter (g ++ h₀) = some p₀ ∧ p₀.mem = m

/-- A state the loader was in before the end of this history. -/
abbrev Formerly (cfg : LoaderConfig) (filter : Option SSTableBlacklistGovernor) :
    List SSTableLoader.Action → Loader → Prop :=
  Between cfg filter []

theorem Between.append {g h : List SSTableLoader.Action} (hm : Between cfg filter g h m)
    (h' : List SSTableLoader.Action) : Between cfg filter g (h ++ h') m :=
  let ⟨h₀, p₀, hprefix, hrun, hmem⟩ := hm
  ⟨h₀, p₀, hprefix.trans (List.prefix_append h h'), hrun, hmem⟩

theorem between_self {g h : List SSTableLoader.Action} {p : SSTableLoader.State}
    (hrun : runs cfg filter (g ++ h) = some p) : Between cfg filter g h p.mem :=
  ⟨h, p, List.prefix_rfl, hrun, rfl⟩

theorem Between.rowCounters {g h : List SSTableLoader.Action} (hm : Between cfg filter g h m) :
    ∀ k ∈ rowCounters, m.counters.get k = 0 := by
  obtain ⟨_, _, _, hrun, rfl⟩ := hm
  exact rowCounters_of_runs hrun

theorem loaderActions_concat (h : List (FeedAction × (ℕ → ℕ))) (action : FeedAction × (ℕ → ℕ)) :
    loaderActions (h ++ [action]) = loaderActions h ++ loaderActions [action] :=
  List.filterMap_append

section

variable {what : JsonException D → String} {baseUrl : String} {now : ℕ}
  {base : List SSTableLoader.Action} {h : List (FeedAction × (ℕ → ℕ))} {p p' : Feed D}
  {action : FeedAction × (ℕ → ℕ)}

/-- The loader takes its own steps only. -/
theorem loader_feedStep (hstep : feedStep cfg percent what baseUrl p action = some p') :
    run (Pool.step (program cfg)) p.loader (loaderActions [action]) = some p'.loader := by
  obtain ⟨action, t⟩ := action
  cases action with
  | loader a =>
    obtain ⟨loader, ha, rfl⟩ := Option.map_eq_some_iff.mp hstep
    show (Pool.step (program cfg) p.loader a).bind _ = some loader
    rw [ha]
    rfl
  | request =>
    obtain rfl := Option.some.inj hstep
    rfl
  | load =>
    obtain ⟨_, _, rfl⟩ := Option.map_eq_some_iff.mp hstep
    rfl
  | reply =>
    obtain ⟨_, _, hreply⟩ := Option.bind_eq_some_iff.mp hstep
    obtain ⟨_, heq⟩ := Option.ite_none_right_eq_some.mp hreply
    obtain rfl := Option.some.inj heq
    rfl
  | deliver =>
    obtain ⟨_, _, rfl⟩ := Option.map_eq_some_iff.mp hstep
    rfl
  | lost text =>
    obtain rfl := Option.some.inj hstep
    rfl
  | refused status =>
    obtain ⟨_, heq⟩ := Option.ite_none_left_eq_some.mp hstep
    obtain rfl := Option.some.inj heq
    rfl
  | key k =>
    obtain rfl := Option.some.inj hstep
    rfl

/-- Since this history of the loader, the request being answered has read what the loader was
meanwhile. -/
structure ServeInv (cfg : LoaderConfig) (filter : Option SSTableBlacklistGovernor)
    (percent : UInt64 → UInt64 → D) (base : List SSTableLoader.Action)
    (h : List (FeedAction × (ℕ → ℕ))) (p : Feed D) : Prop where
  loader : runs cfg filter (base ++ loaderActions h) = some p.loader
  serves : Serves percent (Between cfg filter base (loaderActions h)) p

theorem ServeInv.step (hinv : ServeInv cfg filter percent base h p)
    (hstep : feedStep cfg percent what baseUrl p action = some p') :
    ServeInv cfg filter percent base (h ++ [action]) p' := by
  refine ⟨?_, ?_⟩
  · rw [loaderActions_concat, ← List.append_assoc, runs, run_append]
    exact Option.bind_eq_some_iff.mpr ⟨p.loader, hinv.loader, loader_feedStep hstep⟩
  · refine (hinv.serves.step (between_self hinv.loader) hstep).mono ?_
    intro m hm
    rw [loaderActions_concat]
    exact hm.append _

theorem serveInv_of_run {q : Feed D} (hstart : ServeInv cfg filter percent base [] q)
    (hrun : run (feedStep cfg percent what baseUrl) q h = some p) :
    ServeInv cfg filter percent base h p :=
  run_invariant hstart (fun _ _ _ _ hinv hstep => hinv.step hstep) h p hrun

/-- A state that has just been reset shows a loader that has just been started. -/
theorem displays_new (h : List SSTableLoader.Action) :
    Displays (Formerly cfg filter h) (.new : DashboardState D) := by
  have hstart : Formerly cfg filter h { filter := filter } :=
    ⟨[], _, List.nil_prefix, rfl, rfl⟩
  exact ⟨⟨_, hstart, rfl⟩, ⟨_, hstart, rfl⟩, ⟨_, hstart, rfl⟩, ⟨_, hstart, rfl⟩, ⟨_, hstart, rfl⟩⟩

/-- One step of the loader, of the handler, of the network or of the keyboard leaves the
dashboard with states of the loader. -/
theorem follows_feedStep (hserve : ServeInv cfg filter percent [] h p)
    (hfollows : Follows (Formerly cfg filter (loaderActions h)) p.dashboard.state)
    (hstep : feedStep cfg percent what baseUrl p action = some p') :
    Follows (Formerly cfg filter (loaderActions h)) p'.dashboard.state := by
  obtain ⟨action, t⟩ := action
  cases action with
  | loader a =>
    obtain ⟨_, _, rfl⟩ := Option.map_eq_some_iff.mp hstep
    exact hfollows
  | request =>
    obtain rfl := Option.some.inj hstep
    exact hfollows
  | load =>
    obtain ⟨_, _, rfl⟩ := Option.map_eq_some_iff.mp hstep
    exact hfollows
  | reply =>
    obtain ⟨_, _, hreply⟩ := Option.bind_eq_some_iff.mp hstep
    obtain ⟨_, heq⟩ := Option.ite_none_right_eq_some.mp hreply
    obtain rfl := Option.some.inj heq
    exact hfollows
  | deliver =>
    obtain ⟨body, hbody, rfl⟩ := Option.map_eq_some_iff.mp hstep
    obtain ⟨c, hdone, hc, rfl⟩ := hserve.serves.answer body hbody
    show Follows _ (fetchStatus logCapacity what baseUrl t p.dashboard.client p.dashboard.state
      (.reply 200 (.ok (getStatus percent c)))).2
    rw [fetchStatus_getStatus]
    refine Follows.logTransitions ⟨(displays_readStatus hc hdone _).1, ?_, hfollows.quiet⟩ _ _ _
    exact blank_readStatus hc hdone (fun m hm => hm.rowCounters) _
  | lost text =>
    obtain rfl := Option.some.inj hstep
    exact hfollows.logWhen fun _ => ⟨by simp, fun hinfo => by simp at hinfo⟩
  | refused status =>
    obtain ⟨hstatus, heq⟩ := Option.ite_none_left_eq_some.mp hstep
    obtain rfl := Option.some.inj heq
    show Follows _ (fetchStatus logCapacity what baseUrl t p.dashboard.client p.dashboard.state
      (.reply status (.error ""))).2
    unfold fetchStatus
    dsimp only
    rw [if_pos hstatus]
    exact hfollows
  | key k =>
    obtain rfl := Option.some.inj hstep
    exact hfollows.onKey (displays_new _) _ k

/-- The invariant of a run from the start: the loader and the handler, and the dashboard. -/
structure FeedInv (cfg : LoaderConfig) (filter : Option SSTableBlacklistGovernor)
    (percent : UInt64 → UInt64 → D) (h : List (FeedAction × (ℕ → ℕ))) (p : Feed D) : Prop
    extends ServeInv cfg filter percent [] h p where
  follows : Follows (Formerly cfg filter (loaderActions h)) p.dashboard.state

theorem feedInv_start (now : ℕ) (apiUrl : String) :
    FeedInv cfg filter percent [] (Feed.start filter now apiUrl : Feed D) := by
  refine ⟨⟨rfl, ?_, ?_⟩, ?_⟩
  · intro c hc
    cases hc
  · intro body hbody
    cases hbody
  · refine Follows.addLog (s := .new) ⟨displays_new _, ⟨rfl, rfl, rfl, rfl, rfl, rfl, rfl⟩, ?_⟩ ?_
    · intro e he
      cases he
    · exact ⟨by simp, fun _ => append_ne_completed (by decide) _⟩

theorem FeedInv.step (hinv : FeedInv cfg filter percent h p)
    (hstep : feedStep cfg percent what baseUrl p action = some p') :
    FeedInv cfg filter percent (h ++ [action]) p' := by
  refine ⟨hinv.toServeInv.step hstep, ?_⟩
  refine (follows_feedStep hinv.toServeInv hinv.follows hstep).mono ?_
  intro m hm
  rw [loaderActions_concat]
  exact hm.append _

theorem feedInv_of_run
    (hrun : run (feedStep cfg percent what baseUrl) (Feed.start filter now baseUrl) h = some p) :
    FeedInv cfg filter percent h p :=
  run_invariant (feedInv_start now baseUrl) (fun _ _ _ _ hinv hstep => hinv.step hstep) h p hrun

/-- An answer that arrives shows what the loader was since the last request: here since any
earlier one. -/
theorem displays_of_deliver {g rest : List (FeedAction × (ℕ → ℕ))} {t t' : ℕ → ℕ}
    (hrun : run (feedStep cfg percent what baseUrl) (Feed.start filter now baseUrl)
      (g ++ (.request, t) :: (rest ++ [(.deliver, t')])) = some p) :
    Displays (Between cfg filter (loaderActions g) (loaderActions rest)) p.dashboard.state ∧
      (∃ m, Between cfg filter (loaderActions g) (loaderActions rest) m ∧
        p.dashboard.state.isPaused = m.isPaused) ∧
      p.dashboard.client.connected = true := by
  obtain ⟨q, q', hg, hrequest, hafter⟩ := run_append_cons_eq_some hrun
  obtain ⟨r, hr, hdeliver⟩ := run_concat_eq_some.mp hafter
  have hloader := (feedInv_of_run hg).loader
  rw [List.nil_append] at hloader
  obtain rfl := Option.some.inj hrequest
  have hcalled : ServeInv cfg filter percent (loaderActions g) []
      { q with handler := some { hasFilter := q.loader.mem.filter.isSome }, answer := none } := by
    refine ⟨?_, ?_, ?_⟩
    · show runs cfg filter (loaderActions g ++ []) = some q.loader
      rw [List.append_nil]
      exact hloader
    · intro c hc
      obtain rfl := Option.some.inj hc
      exact loadedFrom_call _ _
    · intro body hbody
      cases hbody
  exact (serveInv_of_run hcalled hr).serves.deliver hdeliver

/-- In every run of the loader, the handler, the network and the keyboard. -/
theorem dashboard_follows_loader (cfg : LoaderConfig) (filter : Option SSTableBlacklistGovernor)
    (percent : UInt64 → UInt64 → D) (what : JsonException D → String) (baseUrl : String) (now : ℕ)
    (h : List (FeedAction × (ℕ → ℕ))) (p : Feed D)
    (hrun : run (feedStep cfg percent what baseUrl) (Feed.start filter now baseUrl) h = some p) :
    runs cfg filter (loaderActions h) = some p.loader ∧
      Follows (Formerly cfg filter (loaderActions h)) p.dashboard.state ∧
      ∀ g rest t t', h = g ++ (.request, t) :: (rest ++ [(.deliver, t')]) →
        Displays (Between cfg filter (loaderActions g) (loaderActions rest)) p.dashboard.state ∧
        (∃ m, Between cfg filter (loaderActions g) (loaderActions rest) m ∧
          p.dashboard.state.isPaused = m.isPaused) ∧
        p.dashboard.client.connected = true := by
  have hinv := feedInv_of_run hrun
  refine ⟨?_, hinv.follows, ?_⟩
  · have hloader := hinv.loader
    rwa [List.nil_append] at hloader
  · rintro g rest t t' rfl
    exact displays_of_deliver hrun

end

/-- Exact fractions in place of `double`. -/
instance : Double ℚ where
  zero := 0
  ofUInt64 n := n.toNat
  ofInt64 n := n.toInt
  toUInt64 x := UInt64.ofNat x.floor.toNat
  toInt x := Int32.ofInt (x.num.tdiv x.den)
  toInt_zero := by decide

/-- The handler is called and makes the loads up to `tables_total`. -/
def calledFeed : List (FeedAction × (ℕ → ℕ)) := List.replicate 6 (.load, id)

/-- Then a migration of one table starts. -/
def startedFeed : List (FeedAction × (ℕ → ℕ)) :=
  (.spawn (.migrateSingleTable "app" "files") ::
    [CallAction.guard false, .setup, .setup, .setup, .setup, .setup, .setRunning].map
      (PoolAction.act 0)).map fun a => (.loader a, id)

/-- The other loads and the answer; before it arrives, the migration is stopped and a key is
pressed. -/
def answeredFeed : List (FeedAction × (ℕ → ℕ)) :=
  List.replicate 4 (.load, id) ++
    [(.reply, id), (.loader (.env .stop), id), (.key .arrowDown, id)]

/-- The dashboard shows a migration that runs and has no table, after it was stopped. -/
theorem dashboard_follows_loader_torn :
    ∃ p : Feed ℚ, run (feedStep oneTable (fun _ _ => 0) (fun _ => "") "http://loader:9092")
        (Feed.start none 0 "http://loader:9092")
        ((.request, id) :: ((calledFeed ++ startedFeed ++ answeredFeed) ++ [(.deliver, id)])) =
          some p ∧
      p.loader.mem.isRunning = false ∧ p.dashboard.state.isRunning = true ∧
      p.dashboard.state.tablesTotal = 0 ∧
      ∃ m, Between oneTable none [] (loaderActions (calledFeed ++ startedFeed ++ answeredFeed)) m ∧
        p.dashboard.state.isRunning = m.isRunning := by
  obtain ⟨p, hrun, hstopped, hshown, htotal⟩ : ∃ p : Feed ℚ,
      run (feedStep oneTable (fun _ _ => 0) (fun _ => "") "http://loader:9092")
        (Feed.start none 0 "http://loader:9092")
        ((.request, id) :: ((calledFeed ++ startedFeed ++ answeredFeed) ++ [(.deliver, id)])) =
          some p ∧
      p.loader.mem.isRunning = false ∧ p.dashboard.state.isRunning = true ∧
      p.dashboard.state.tablesTotal = 0 := ⟨_, rfl, rfl, rfl, rfl⟩
  obtain ⟨_, _, hfresh⟩ := dashboard_follows_loader oneTable none _ _ _ _ _ p hrun
  obtain ⟨hdisplays, _⟩ := hfresh [] (calledFeed ++ startedFeed ++ answeredFeed) id id rfl
  exact ⟨p, hrun, hstopped, hshown, htotal, hdisplays.isRunning⟩

end Services
end ScyllaClusterSync
