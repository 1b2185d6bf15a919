import ScyllaClusterSync.DualWriter.GetStats
import ScyllaClusterSync.DualWriter.WriterCountersTheorems
import ScyllaClusterSync.Lib.Trace

/-!
# Which snapshots of the counters are consistent

`get_stats` loads `total_writes` before the counters it is compared with. A snapshot differs
from the counters at that first load by what was counted between it and the later loads
(`late`), and at the first load the counters are balanced by the calls under way. So the
snapshot is consistent exactly when no more results come late than calls were under way.
-/

namespace ScyllaClusterSync
namespace DualWriter

open Svckit Lib

variable {generateId : ℕ → String} {maxRetries : UInt32} {w : ℕ} {m m' : Writer}
  {c c' : WriteCall} {filter : Option BlacklistFilterGovernor} {p p' : State}

/-! ## What the writer counts -/

/-- The counter of a call that this step increments. -/
def counted (p : State) : Action → Option StatsField
  | .act _ .countTotal => some .totalWrites
  | .act _ .countFiltered => some .filteredWrites
  | .act w .finish =>
    match (p.threads[w]?).map WriteCall.pc with
    | some (Pc.finish r) => some (if r.sourceOk then .successfulWrites else .failedWrites)
    | _ => none
  | _ => none

/-- The counters that a consistent snapshot compares. -/
def compared : List StatsField := [.totalWrites, .successfulWrites, .failedWrites, .filteredWrites]

theorem load_countResult (m : Writer) (r : WriteResult) (f : StatsField) :
    (m.countResult r).load f = m.load f +
      if f = (if r.sourceOk then .successfulWrites else .failedWrites) then 1 else 0 := by
  unfold Writer.countResult
  cases r.sourceOk <;> cases f <;> rfl

/-- A step of a call moves the compared counters by what it counts. -/
theorem load_callStep {b : CallAction} (hc : p.threads[w]? = some c)
    (hstep : callStep generateId w p.mem c b = some (m', c')) {f : StatsField} (hf : f ∈ compared) :
    m'.load f = p.mem.load f + if counted p (.act w b) = some f then 1 else 0 := by
  -- where nothing is counted the statistics stay as they are
  have hstay : m'.stats = p.mem.stats → counted p (.act w b) = none → m'.load f =
      p.mem.load f + if counted p (.act w b) = some f then 1 else 0 := by
    intro hstats hnone
    rw [hnone, if_neg (by simp)]
    cases f <;> simp_all [Writer.load, compared]
  cases b with
  | countTotal =>
    rw [(callStep_countTotal hstep).2.1]
    cases f <;> simp_all [Writer.load, Writer.countTotal, counted, compared]
  | isEnabled => exact hstay (by rw [(callStep_isEnabled hstep).2.1]) rfl
  | shouldSkipTable =>
    exact hstay (by rw [(callStep_shouldSkipTable hstep).2.1, Writer.stats_shouldSkipTable]) rfl
  | countFiltered =>
    rw [(callStep_countFiltered hstep).2.1]
    cases f <;> simp_all [Writer.load, Writer.countFiltered, counted, compared]
  | sourceExecute cql o => exact hstay (by rw [(callStep_sourceExecute hstep).2.1]) rfl
  | targetExecute cql o => exact hstay (by rw [(callStep_targetExecute hstep).2.2.1]) rfl
  | enqueue =>
    obtain ⟨e, _, hm, _⟩ := callStep_enqueue hstep
    exact hstay (by rw [hm]; rfl) rfl
  | finish =>
    obtain ⟨r, hpc, hm, _⟩ := callStep_finish hstep
    have hcounted : counted p (.act w .finish) =
        some (if r.sourceOk then .successfulWrites else .failedWrites) := by
      simp only [counted, hc, Option.map_some, hpc]
    rw [hm, hcounted, load_countResult]
    simp only [Option.some.injEq, eq_comm]

theorem load_of_step {a : Action} (hstep : Pool.step (program generateId maxRetries) p a = some p')
    {f : StatsField} (hf : f ∈ compared) :
    p'.mem.load f = p.mem.load f + if counted p a = some f then 1 else 0 := by
  cases a with
  | spawn k =>
    rw [Pool.step_spawn hstep]
    rfl
  | act w b =>
    obtain ⟨c, m', c', hc, hthread, rfl⟩ := Pool.step_act hstep
    exact load_callStep hc hthread hf
  | env e =>
    obtain ⟨m', henv, rfl⟩ := Pool.step_env hstep
    cases e with
    | reload =>
      obtain rfl := Option.some.inj henv
      cases f <;> rfl
    | retry a =>
      -- the retry thread counts nothing that is compared
      obtain ⟨htotal, hsuccess, hfailed, hfiltered⟩ := results_retryStep henv
      cases f <;> simp_all [Writer.load, counted, compared]

/-! ## Late counts -/

/-- Observer `i` has loaded `total_writes`, and not yet `f`. -/
def awaits (q : StatsState) (i : ℕ) (f : StatsField) : Bool :=
  (q.threads[i]?).any fun c => decide (.totalWrites ∉ c.todo ∧ f ∈ c.todo)

/-- What is counted in `f` while observer `i` is between the two loads. -/
def late (i : ℕ) (f : StatsField) (q : StatsState) : StatsAction → ℕ
  | .env a => if counted q.mem a = some f ∧ awaits q i f then 1 else 0
  | _ => 0

/-- A value when observer `i` loads `total_writes`. -/
def atLoad (i : ℕ) (value : State → ℕ) (q : StatsState) (a : StatsAction) : ℕ :=
  if a = .act i .totalWrites then value q.mem else 0

/-- The `write()` calls that are counted in `total_writes` and in neither result. -/
def underWay (p : State) : ℕ := p.threads.countP (·.pc.unsettled)

/-- The writes counted in `total_writes` that are not counted as filtered. -/
def unfiltered (p : State) : ℕ := p.mem.stats.totalWrites - p.mem.stats.filteredWrites

/-- A value when observer `i` loaded `total_writes` in this run, 0 when it has not. -/
def valueAtLoad (generateId : ℕ → String) (maxRetries : UInt32)
    (filter : Option BlacklistFilterGovernor) (i : ℕ) (value : State → ℕ) (h : List StatsAction) : ℕ :=
  total (Pool.step (statsProgram generateId maxRetries)) (atLoad i value)
    (Pool.init (initial filter)) h

/-- What was counted in `f` between the two loads of observer `i` in this run. -/
def lateCount (generateId : ℕ → String) (maxRetries : UInt32)
    (filter : Option BlacklistFilterGovernor) (i : ℕ) (f : StatsField) (h : List StatsAction) : ℕ :=
  total (Pool.step (statsProgram generateId maxRetries)) (late i f)
    (Pool.init (initial filter)) h

variable {h : List StatsAction} {q q' : StatsState} {i : ℕ} {f : StatsField}

theorem valueAtLoad_concat (hrun : statsRuns generateId maxRetries filter h = some q)
    (value : State → ℕ) (a : StatsAction) :
    valueAtLoad generateId maxRetries filter i value (h ++ [a]) =
      valueAtLoad generateId maxRetries filter i value h + atLoad i value q a :=
  total_concat _ hrun a

theorem lateCount_concat (hrun : statsRuns generateId maxRetries filter h = some q)
    (f : StatsField) (a : StatsAction) :
    lateCount generateId maxRetries filter i f (h ++ [a]) =
      lateCount generateId maxRetries filter i f h + late i f q a :=
  total_concat _ hrun a

/-- The writer an observer sees is balanced. -/
theorem resultsBalance_of_statsRuns (hrun : statsRuns generateId maxRetries filter h = some q) :
    ResultsBalance q.mem := by
  refine @run_invariant _ _ (Pool.step (statsProgram generateId maxRetries))
    (Pool.init (initial filter)) (fun _ q => ResultsBalance q.mem) ⟨rfl, le_refl 0⟩ ?_ h q hrun
  intro h q a q' hbal hstep
  cases a with
  | spawn k => rwa [Pool.step_spawn hstep]
  | act j f =>
    obtain ⟨c, p, c', _, hthread, rfl⟩ := Pool.step_act hstep
    obtain ⟨c'', _, heq⟩ := Option.map_eq_some_iff.mp hthread
    rwa [← (Prod.mk.inj heq).1]
  | env a =>
    obtain ⟨p, henv, rfl⟩ := Pool.step_env hstep
    exact hbal.step henv

theorem atLoad_balanced (hbal : ResultsBalance q.mem) (a : StatsAction) :
    atLoad i (·.mem.load .totalWrites) q a =
        atLoad i (·.mem.load .successfulWrites) q a + atLoad i (·.mem.load .failedWrites) q a +
          atLoad i underWay q a ∧
      atLoad i (·.mem.load .totalWrites) q a =
        atLoad i (·.mem.load .filteredWrites) q a + atLoad i unfiltered q a := by
  have hresults := hbal.results
  have hfiltered := hbal.filtered
  unfold atLoad
  split
  · show q.mem.mem.stats.totalWrites = q.mem.mem.stats.successfulWrites +
      q.mem.mem.stats.failedWrites + q.mem.threads.countP _ ∧ q.mem.mem.stats.totalWrites =
        q.mem.mem.stats.filteredWrites +
          (q.mem.mem.stats.totalWrites - q.mem.mem.stats.filteredWrites)
    omega
  · exact ⟨rfl, rfl⟩

/-- What the balance says of the first load of an observer. -/
theorem valueAtLoad_balanced (hrun : statsRuns generateId maxRetries filter h = some q) (i : ℕ) :
    valueAtLoad generateId maxRetries filter i (·.mem.load .totalWrites) h =
        valueAtLoad generateId maxRetries filter i (·.mem.load .successfulWrites) h +
          valueAtLoad generateId maxRetries filter i (·.mem.load .failedWrites) h +
          valueAtLoad generateId maxRetries filter i underWay h ∧
      valueAtLoad generateId maxRetries filter i (·.mem.load .totalWrites) h =
        valueAtLoad generateId maxRetries filter i (·.mem.load .filteredWrites) h +
          valueAtLoad generateId maxRetries filter i unfiltered h := by
  induction h using List.reverseRecOn generalizing q with
  | nil => exact ⟨rfl, rfl⟩
  | append_singleton h a ih =>
    obtain ⟨q₀, hrun₀, _⟩ := run_concat_eq_some.mp hrun
    obtain ⟨hresults, hfiltered⟩ := ih hrun₀
    obtain ⟨hresults', hfiltered'⟩ := @atLoad_balanced q₀ i (resultsBalance_of_statsRuns hrun₀) a
    simp only [valueAtLoad_concat hrun₀]
    omega

/-! ## The observers -/

/-- What an observer has loaded of a counter, or would load now. -/
def StatsCall.value (c : StatsCall) (m : Writer) (f : StatsField) : ℕ :=
  if f ∈ c.todo then m.load f else c.snap.get f

/-- What has been shown about observer `i`, by what it has still to load. -/
structure ObserverInv (m : Writer) (base lateSum : StatsField → ℕ) (c : StatsCall) : Prop where
  order : c.todo <:+ loadOrder
  fresh : .totalWrites ∈ c.todo → ∀ f, base f = 0 ∧ lateSum f = 0
  total : .totalWrites ∉ c.todo → c.snap.totalWrites = base .totalWrites
  loaded : .totalWrites ∉ c.todo → ∀ f ∈ compared, f ≠ .totalWrites →
    c.value m f = base f + lateSum f

theorem todo_eq_loadOrder {todo : List StatsField} (horder : todo <:+ loadOrder)
    (hmem : .totalWrites ∈ todo) : todo = loadOrder := by
  rcases List.suffix_cons_iff.mp horder with heq | htail
  · exact heq
  · exact absurd (htail.subset hmem) (by decide)

/-- Everything else is loaded after `total_writes`. -/
theorem mem_tail_loadOrder {f : StatsField} (hne : f ≠ .totalWrites) : f ∈ loadOrder.tail := by
  cases f with
  | totalWrites => exact absurd rfl hne
  | _ => decide

theorem getStatsStep_eq_some {m : Writer} {c c' : StatsCall} {f : StatsField}
    (hstep : getStatsStep m c f = some c') :
    ∃ rest, c.todo = f :: rest ∧ c' = { todo := rest, snap := c.snap.set (m.load f) f } := by
  unfold getStatsStep at hstep
  split at hstep
  · simp at hstep
  next f' rest htodo =>
    simp only [Option.ite_none_right_eq_some, Option.some.injEq] at hstep
    obtain ⟨rfl, hc'⟩ := hstep
    exact ⟨rest, htodo, hc'.symm⟩

/-- A load of its own. -/
theorem ObserverInv.load {m : Writer} {base lateSum base' : StatsField → ℕ} {c c' : StatsCall}
    {f : StatsField} (hinv : ObserverInv m base lateSum c) (hstep : getStatsStep m c f = some c')
    (hbase : ∀ g, base' g = base g + if f = .totalWrites then m.load g else 0) :
    ObserverInv m base' lateSum c' := by
  obtain ⟨rest, htodo, rfl⟩ := getStatsStep_eq_some hstep
  have horder := hinv.order
  have hnodup : (f :: rest).Nodup := (htodo ▸ horder).sublist.nodup (by decide)
  have hnot : f ∉ rest := (List.nodup_cons.mp hnodup).1
  have horder' : rest <:+ loadOrder := (List.suffix_cons f rest).trans (htodo ▸ horder)
  by_cases hf : f = .totalWrites
  · -- the first load: nothing has come late yet
    subst hf
    have hzero := hinv.fresh (by rw [htodo]; exact List.mem_cons_self)
    have hall := todo_eq_loadOrder horder (by rw [htodo]; exact List.mem_cons_self)
    rw [htodo] at hall
    obtain rfl := (List.cons.inj hall).2
    refine ⟨horder', fun hmem => absurd hmem hnot, fun _ => ?_, fun _ g hg hne => ?_⟩
    · rw [hbase, if_pos rfl, (hzero _).1, Nat.zero_add]
      rfl
    · rw [hbase, if_pos rfl, (hzero g).1, (hzero g).2, Nat.zero_add, Nat.add_zero]
      exact if_pos (mem_tail_loadOrder hne)
  · have hstarted : .totalWrites ∉ c.todo := by
      intro hmem
      have hall := todo_eq_loadOrder horder hmem
      rw [htodo] at hall
      exact hf (List.cons.inj hall).1
    have hrest : .totalWrites ∉ rest := fun hmem => hstarted (by
      rw [htodo]; exact List.mem_cons_of_mem _ hmem)
    refine ⟨horder', fun hmem => absurd hmem hrest, fun _ => ?_, fun _ g hg hne => ?_⟩
    · rw [hbase, if_neg hf, Nat.add_zero, ← hinv.total hstarted]
      show (c.snap.set (m.load f) f).get .totalWrites = c.snap.get .totalWrites
      rw [WriterStatsSnapshot.get_set, if_neg (Ne.symm hf)]
    · rw [hbase, if_neg hf, Nat.add_zero, ← hinv.loaded hstarted g hg hne]
      -- what it would have loaded is what it loads
      unfold StatsCall.value
      rw [htodo, WriterStatsSnapshot.get_set]
      by_cases hgf : g = f
      · subst hgf
        rw [if_neg hnot, if_pos rfl, if_pos List.mem_cons_self]
      · simp only [List.mem_cons, hgf, false_or, if_false]

/-- A step of the writer: what it counts comes late for the counters still to be loaded. -/
theorem ObserverInv.env {m m' : Writer} {base lateSum lateSum' : StatsField → ℕ} {c : StatsCall}
    {count : StatsField → Prop} [DecidablePred count] (hinv : ObserverInv m base lateSum c)
    (hm : ∀ f ∈ compared, m'.load f = m.load f + if count f then 1 else 0)
    (hlate : ∀ f, lateSum' f = lateSum f +
      if count f ∧ decide (.totalWrites ∉ c.todo ∧ f ∈ c.todo) = true then 1 else 0) :
    ObserverInv m' base lateSum' c := by
  refine ⟨hinv.order, fun hmem f => ?_, hinv.total, fun hstarted f hf hne => ?_⟩
  · obtain ⟨hbase, hzero⟩ := hinv.fresh hmem f
    refine ⟨hbase, ?_⟩
    rw [hlate, hzero, if_neg (by simp [hmem])]
  · have hvalue := hinv.loaded hstarted f hf hne
    unfold StatsCall.value at hvalue ⊢
    rw [hlate]
    by_cases hmem : f ∈ c.todo
    · rw [if_pos hmem] at hvalue ⊢
      rw [hm f hf, hvalue, Nat.add_assoc]
      simp [hstarted, hmem]
    · rw [if_neg hmem] at hvalue ⊢
      rw [hvalue, if_neg (by simp [hmem]), Nat.add_zero]

/-- What holds of observer `i`, or of the place it will take. -/
def ObserverAt (generateId : ℕ → String) (maxRetries : UInt32)
    (filter : Option BlacklistFilterGovernor) (h : List StatsAction) (q : StatsState) (i : ℕ) :
    Prop :=
  (q.threads[i]? = none → ∀ f, valueAtLoad generateId maxRetries filter i (·.mem.load f) h = 0 ∧
    lateCount generateId maxRetries filter i f h = 0) ∧
  ∀ c, q.threads[i]? = some c → ObserverInv q.mem.mem
    (fun f => valueAtLoad generateId maxRetries filter i (·.mem.load f) h)
    (fun f => lateCount generateId maxRetries filter i f h) c

theorem ObserverAt.spawn (hinv : ObserverAt generateId maxRetries filter h q i)
    (hrun : statsRuns generateId maxRetries filter h = some q)
    (hstep : Pool.step (statsProgram generateId maxRetries) q (.spawn ()) = some q') :
    ObserverAt generateId maxRetries filter (h ++ [.spawn ()]) q' i := by
  have hbase : ∀ f, valueAtLoad generateId maxRetries filter i (·.mem.load f) (h ++ [.spawn ()]) =
      valueAtLoad generateId maxRetries filter i (·.mem.load f) h :=
    fun f => valueAtLoad_concat hrun _ _
  have hlate : ∀ f, lateCount generateId maxRetries filter i f (h ++ [.spawn ()]) =
      lateCount generateId maxRetries filter i f h := fun f => lateCount_concat hrun _ _
  unfold ObserverAt
  simp only [hbase, hlate]
  rw [Pool.step_spawn hstep]
  refine ⟨fun hnone => hinv.1 ?_, fun c hc => ?_⟩
  · rw [List.getElem?_eq_none_iff] at hnone ⊢
    rw [List.length_append] at hnone
    omega
  · rcases Pool.of_getElem?_concat hc with hold | ⟨rfl, rfl⟩
    · exact hinv.2 c hold
    · -- a new observer has loaded nothing
      have hzero := hinv.1 (List.getElem?_eq_none_iff.mpr (Nat.le_refl _))
      have hmem : StatsField.totalWrites ∈ loadOrder := by decide
      exact ⟨List.suffix_refl _, fun _ => hzero, fun hnot => absurd hmem hnot,
        fun hnot => absurd hmem hnot⟩

theorem ObserverAt.act {j : ℕ} (hinv : ObserverAt generateId maxRetries filter h q i)
    (hrun : statsRuns generateId maxRetries filter h = some q)
    (hstep : Pool.step (statsProgram generateId maxRetries) q (.act j f) = some q') :
    ObserverAt generateId maxRetries filter (h ++ [.act j f]) q' i := by
  have hbase : ∀ g, valueAtLoad generateId maxRetries filter i (·.mem.load g) (h ++ [.act j f]) =
      valueAtLoad generateId maxRetries filter i (·.mem.load g) h +
        atLoad i (·.mem.load g) q (.act j f) := fun g => valueAtLoad_concat hrun _ _
  have hlate : ∀ g, lateCount generateId maxRetries filter i g (h ++ [.act j f]) =
      lateCount generateId maxRetries filter i g h := fun g => lateCount_concat hrun _ _
  obtain ⟨c, p, c', hc, hthread, rfl⟩ := Pool.step_act hstep
  obtain ⟨c'', hload, heq⟩ := Option.map_eq_some_iff.mp hthread
  obtain ⟨rfl, rfl⟩ := Prod.mk.inj heq
  unfold ObserverAt
  simp only [hlate]
  by_cases hji : j = i
  · subst hji
    refine ⟨fun hnone => ?_, fun d hd => ?_⟩
    · rw [List.getElem?_set_self (List.getElem?_eq_some_iff.mp hc).1] at hnone
      simp at hnone
    · rw [List.getElem?_set_self (List.getElem?_eq_some_iff.mp hc).1, Option.some.injEq] at hd
      subst hd
      refine (hinv.2 c hc).load hload fun g => ?_
      rw [hbase]
      simp [atLoad]
  · -- another observer's load is no concern of this one
    have hother : ∀ g, atLoad i (·.mem.load g) q (.act j f) = 0 :=
      fun g => if_neg fun heq => hji (PoolAction.act.inj heq).1
    simp only [hbase, hother, Nat.add_zero]
    rw [List.getElem?_set_ne hji]
    exact hinv

theorem ObserverAt.env {a : Action} (hinv : ObserverAt generateId maxRetries filter h q i)
    (hrun : statsRuns generateId maxRetries filter h = some q)
    (hstep : Pool.step (statsProgram generateId maxRetries) q (.env a) = some q') :
    ObserverAt generateId maxRetries filter (h ++ [.env a]) q' i := by
  have hbase : ∀ g, valueAtLoad generateId maxRetries filter i (·.mem.load g) (h ++ [.env a]) =
      valueAtLoad generateId maxRetries filter i (·.mem.load g) h :=
    fun g => valueAtLoad_concat hrun _ _
  have hlate : ∀ g, lateCount generateId maxRetries filter i g (h ++ [.env a]) =
      lateCount generateId maxRetries filter i g h + late i g q (.env a) :=
    fun g => lateCount_concat hrun _ _
  obtain ⟨p, henv, rfl⟩ := Pool.step_env hstep
  unfold ObserverAt
  simp only [hbase]
  refine ⟨fun hnone g => ?_, fun c hc => ?_⟩
  · rw [hlate, (hinv.1 hnone g).2]
    have hnone' : q.threads[i]? = none := hnone
    simp [late, awaits, hnone', (hinv.1 hnone g).1]
  · have hc' : q.threads[i]? = some c := hc
    refine @ObserverInv.env _ _ _ _ _ _ (fun g => counted q.mem a = some g) _ (hinv.2 c hc')
      (fun g hg => load_of_step henv hg) fun g => ?_
    rw [hlate]
    simp only [late, awaits, hc', Option.any_some]

theorem observerAt_of_statsRuns (hrun : statsRuns generateId maxRetries filter h = some q)
    (i : ℕ) : ObserverAt generateId maxRetries filter h q i := by
  refine @run_invariant_of_run _ _ (Pool.step (statsProgram generateId maxRetries))
    (Pool.init (initial filter)) (fun h q => ObserverAt generateId maxRetries filter h q i)
    ⟨fun _ _ => ⟨rfl, rfl⟩, by simp [Pool.init]⟩ ?_ h q hrun
  intro h q a q' hrun hinv hstep
  cases a with
  | spawn k => exact hinv.spawn hrun hstep
  | act j f => exact hinv.act hrun hstep
  | env a => exact hinv.env hrun hstep

/-! ## The result -/

/-- In every run, for every snapshot that `get_stats` returns: it is consistent exactly when
no more results were counted late than writes were under way at the load of `total_writes`,
and no more writes were counted as filtered late than were unfiltered then. -/
theorem snapshot_consistent_iff (generateId : ℕ → String) (maxRetries : UInt32)
    (filter : Option BlacklistFilterGovernor) (h : List StatsAction) (q : StatsState) (i : ℕ)
    (c : StatsCall) (hrun : statsRuns generateId maxRetries filter h = some q)
    (hc : q.threads[i]? = some c) (hreturned : c.todo = []) :
    c.snap.Consistent ↔
      lateCount generateId maxRetries filter i .successfulWrites h +
          lateCount generateId maxRetries filter i .failedWrites h ≤
        valueAtLoad generateId maxRetries filter i underWay h ∧
      lateCount generateId maxRetries filter i .filteredWrites h ≤
        valueAtLoad generateId maxRetries filter i unfiltered h := by
  have hinv := (observerAt_of_statsRuns hrun i).2 c hc
  have hstarted : .totalWrites ∉ c.todo := by simp [hreturned]
  obtain ⟨hresults, hfiltered⟩ := valueAtLoad_balanced hrun i
  have htotal := hinv.total hstarted
  -- all loads have been made
  have hvalue : ∀ f, c.value q.mem.mem f = c.snap.get f := fun f => if_neg (by simp [hreturned])
  have hsuccessful := hinv.loaded hstarted .successfulWrites (by decide) (by decide)
  have hfailed := hinv.loaded hstarted .failedWrites (by decide) (by decide)
  have hlate := hinv.loaded hstarted .filteredWrites (by decide) (by decide)
  rw [hvalue] at hsuccessful hfailed hlate
  change c.snap.successfulWrites = _ at hsuccessful
  change c.snap.failedWrites = _ at hfailed
  change c.snap.filteredWrites = _ at hlate
  unfold WriterStatsSnapshot.Consistent
  omega

/-- One write that both clusters accept. -/
def settledWrite : List Action :=
  [.spawn ⟨"INSERT INTO app.files (id) VALUES (1)", "app.files"⟩, .act 0 .countTotal,
    .act 0 .isEnabled, .act 0 (.sourceExecute "INSERT INTO app.files (id) VALUES (1)" .ok),
    .act 0 (.targetExecute "INSERT INTO app.files (id) VALUES (1)" .ok), .act 0 .finish]

/-- One observer, whose first load comes after `before` steps of that write and whose other
loads come after all of it. -/
def observedWrite (before : ℕ) : List StatsAction :=
  .spawn () :: (settledWrite.take before).map .env ++ .act 0 .totalWrites ::
    (settledWrite.drop before).map .env ++ loadOrder.tail.map (.act 0)

/-- The write after all of it. -/
def settledWriteState : State where
  mem := { filter := none, stats := { totalWrites := 1, successfulWrites := 1 } }
  threads :=
    [{ cql := "INSERT INTO app.files (id) VALUES (1)", keyspace := "app.files"
       pc := .returned { sourceOk := true, targetOk := true } }]

/-- The state of the observed write, by the snapshot. -/
def observedWriteState (s : WriterStatsSnapshot) : StatsState where
  mem := settledWriteState
  threads := [{ todo := [], snap := s }]

/-- The write is counted in `total_writes` at the first load, and settled late. -/
theorem runs_observedWrite_two : statsRuns unaryId 3 none (observedWrite 2) =
    some (observedWriteState { totalWrites := 1, successfulWrites := 1 }) := by
  rfl

theorem snapshot_consistent_iff_observedWrite :
    ({ totalWrites := 1, successfulWrites := 1 } : WriterStatsSnapshot).Consistent ↔
      lateCount unaryId 3 none 0 .successfulWrites (observedWrite 2) +
          lateCount unaryId 3 none 0 .failedWrites (observedWrite 2) ≤
        valueAtLoad unaryId 3 none 0 underWay (observedWrite 2) ∧
      lateCount unaryId 3 none 0 .filteredWrites (observedWrite 2) ≤
        valueAtLoad unaryId 3 none 0 unfiltered (observedWrite 2) :=
  snapshot_consistent_iff unaryId 3 none (observedWrite 2)
    (observedWriteState { totalWrites := 1, successfulWrites := 1 }) 0
    { todo := [], snap := { totalWrites := 1, successfulWrites := 1 } }
    runs_observedWrite_two rfl rfl

/-- The whole write comes between the load of `total_writes` and that of `successful_writes`:
the snapshot has a success and no write. -/
theorem snapshot_with_more_successes_than_writes :
    ¬ ∀ (generateId : ℕ → String) (maxRetries : UInt32)
      (filter : Option BlacklistFilterGovernor) (h : List StatsAction) (q : StatsState) (i : ℕ)
      (c : StatsCall), statsRuns generateId maxRetries filter h = some q →
        q.threads[i]? = some c → c.todo = [] → c.snap.Consistent := by
  intro hall
  have hrun : statsRuns unaryId 3 none (observedWrite 0) =
      some (observedWriteState { successfulWrites := 1 }) := by rfl
  exact absurd (hall _ _ _ _ _ 0 _ hrun rfl rfl) (by decide)

end DualWriter
end ScyllaClusterSync
