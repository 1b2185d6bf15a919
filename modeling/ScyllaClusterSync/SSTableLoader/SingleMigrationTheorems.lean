import ScyllaClusterSync.SSTableLoader.LoaderTheorems

/-!
# One migration at a time

`is_running_` is the guard of a call, its stop request and its sign of life. It tells a
new call that a migration is under way only from the store of `true` to the first store
of `false`; before and after that, in the three windows of `window`, the call under way
looks as if it had returned. A run in which no guard falls into a window has one call
under way at a time, and there a stopped call stays stopped.
-/

namespace ScyllaClusterSync
namespace SSTableLoader

open Svckit Lib

variable {cfg : LoaderConfig} {filter : Option SSTableBlacklistGovernor} {h : List Action}
  {m m' : Loader} {c c' : Call} {i j : ℕ}

/-! ## The phases of a call -/

/-- Where a call stands with respect to `is_running_`. -/
inductive Phase where
  /-- Before its guard, or returned. -/
  | outside
  /-- Past its guard, before it stores `true`. -/
  | setup
  | running
  /-- After it stored `false`, before it returns. -/
  | finishing
deriving DecidableEq, Repr

def Pc.phase : Pc → Phase
  | .setup _ => .setup
  | .selectTables | .tableHead _ | .filterGate _ _ | .countSkipped _ | .migrating _ _
  | .clearRunning => .running
  | .finishing => .finishing
  | _ => .outside

/-- Past its guard and not returned. -/
def Call.live (c : Call) : Prop := c.pc.phase ≠ .outside

/-- The phase a step leads to. -/
def Phase.after (ph : Phase) : CallAction → Phase
  | .guard found => if found then ph else .setup
  | .setRunning => .running
  | .clearRunning => .finishing
  | .finish | .rethrow => .outside
  | _ => ph

theorem callStep_phase {a : CallAction} (hstep : callStep cfg m c a = some (m', c')) :
    c'.pc.phase = c.pc.phase.after a := by
  cases a with
  | guard running =>
    obtain ⟨hpc, _, _, hc⟩ := callStep_guard hstep
    rw [hc, hpc]
    cases running <;> rfl
  | setup =>
    obtain ⟨_, _, _, hpc, _, hc⟩ := callStep_setup hstep
    rw [hc, hpc]; rfl
  | setRunning =>
    rw [(callStep_setRunning hstep).2.2]
    cases c.request <;> rfl
  | selectTables =>
    obtain ⟨_, hpc, _, _, hc⟩ := callStep_selectTables hstep
    rw [hc, hpc]; rfl
  | leaveTables =>
    obtain ⟨hpc, _, hc⟩ := callStep_leaveTables hstep
    rw [hc, hpc]; rfl
  | tableHead running =>
    obtain ⟨_, _, hpc, _, _, hc⟩ := callStep_tableHead hstep
    rw [hc, hpc]
    cases running <;> rfl
  | shouldSkipTable =>
    obtain ⟨_, _, hpc, _, hc⟩ := callStep_shouldSkipTable hstep
    rw [hc, hpc]
    show Pc.phase (ite _ _ _) = _
    split <;> rfl
  | countSkipped =>
    obtain ⟨_, hpc, _, hc⟩ := callStep_countSkipped hstep
    rw [hc, hpc]; rfl
  | table a =>
    obtain ⟨_, _, _, hpc, _, hc⟩ := callStep_table hstep
    rw [hc, hpc]; rfl
  | countCompleted table =>
    obtain ⟨_, _, hpc, _, _, _, hc⟩ := callStep_countCompleted hstep
    rw [hc, hpc]
    cases c.request <;> rfl
  | rethrow =>
    obtain ⟨_, _, _, _, _, hc⟩ := callStep_rethrow hstep
    rw [hc]; rfl
  | clearRunning => rw [(callStep_clearRunning hstep).2.2]; rfl
  | finish => rw [(callStep_finish hstep).2.2]; rfl
  | stopGuard running =>
    obtain ⟨hpc, _, _, hc⟩ := callStep_stopGuard hstep
    rw [hc, hpc]
    cases running <;> rfl
  | stopRunning =>
    obtain ⟨hpc, _, hc⟩ := callStep_stopRunning hstep
    rw [hc, hpc]; rfl
  | stopPaused =>
    obtain ⟨hpc, _, hc⟩ := callStep_stopPaused hstep
    rw [hc, hpc]; rfl

/-! ## Stopped calls and windows -/

/-- The store of `stop` or of `stop_migration`. -/
def isStop : Action → Bool
  | .env .stop => true
  | .act _ .stopRunning => true
  | _ => false

/-- A stop came after call `i` set `is_running_`. -/
def stopped (i : ℕ) (h : List Action) : Bool :=
  h.foldl (fun b a => if a = .act i .setRunning then false else b || isStop a) false

theorem stopped_concat (i : ℕ) (h : List Action) (a : Action) :
    stopped i (h ++ [a]) = if a = .act i .setRunning then false else stopped i h || isStop a := by
  unfold stopped
  rw [List.foldl_append]
  rfl

theorem stopped_concat_other {a : Action} (ha : a ≠ .act i .setRunning) (hstop : isStop a = false) :
    stopped i (h ++ [a]) = stopped i h := by
  rw [stopped_concat, if_neg ha, hstop, Bool.or_false]

theorem stopped_concat_stop {a : Action} (hstop : isStop a = true) :
    stopped i (h ++ [a]) = true := by
  rw [stopped_concat, if_neg, hstop, Bool.or_true]
  intro ha
  rw [ha] at hstop
  exact absurd hstop (by simp [isStop])

/-- Call `j` is under way although `is_running_` does not say so: it has not set it yet, it
has been stopped, or it has already cleared it. -/
def window (h : List Action) (j : ℕ) (c : Call) : Bool :=
  match c.pc.phase with
  | .outside => false
  | .setup => true
  | .running => stopped j h
  | .finishing => true

/-- No call loads its guard while another one is in a window. -/
def GuardOutsideWindows (h : List Action) (p : State) : Action → Prop
  | .act _ (.guard _) => ∀ j < p.threads.length, ∀ c ∈ p.threads[j]?, ¬ window h j c
  | _ => True

instance (h : List Action) (p : State) (a : Action) : Decidable (GuardOutsideWindows h p a) := by
  unfold GuardOutsideWindows
  split <;> infer_instance

/-! ## The invariant -/

/-- At most one call is past its guard and not returned. -/
def OneAtATime (p : State) : Prop :=
  ∀ (i j : ℕ) (c d : Call), p.threads[i]? = some c → p.threads[j]? = some d →
    c.live → d.live → i = j

/-- No batch head of a stopped call finds `is_running_` set again. -/
def StopIsFinal (h : List Action) : Prop :=
  EachStep (fun pre a => ∀ i, a = .act i (.table (.batchHead true)) → ¬ stopped i pre) h

/-- `is_running_` is what the phase of the one call under way says. -/
structure ExclusiveInv (h : List Action) (p : State) : Prop where
  unique : OneAtATime p
  flag : ∀ (i : ℕ) (c : Call), p.threads[i]? = some c → c.live →
    p.mem.isRunning = (decide (c.pc.phase = .running) && !stopped i h)
  final : StopIsFinal h

variable {p p' : State}

/-- Calls that are under way were so before, and the flag still says so. -/
theorem ExclusiveInv.keep {a : Action} (hinv : ExclusiveInv h p)
    (hlive : ∀ (j : ℕ) (d : Call), p'.threads[j]? = some d → d.live →
      ∃ d₀, p.threads[j]? = some d₀ ∧ d₀.live)
    (hflag : ∀ (j : ℕ) (d : Call), p'.threads[j]? = some d → d.live →
      p'.mem.isRunning = (decide (d.pc.phase = .running) && !stopped j (h ++ [a])))
    (hfinal : ∀ i, a = .act i (.table (.batchHead true)) → ¬ stopped i h) :
    ExclusiveInv (h ++ [a]) p' := by
  refine ⟨?_, hflag, hinv.final.concat hfinal⟩
  intro i j c d hc hd hci hdj
  obtain ⟨c₀, hc₀, hlc⟩ := hlive i c hc hci
  obtain ⟨d₀, hd₀, hld⟩ := hlive j d hd hdj
  exact hinv.unique i j c₀ d₀ hc₀ hd₀ hlc hld

theorem ExclusiveInv.spawn (hinv : ExclusiveInv h p) (k : Request) :
    ExclusiveInv (h ++ [PoolAction.spawn k])
      { p with threads := p.threads ++ [(program cfg).start k] } := by
  have hold : ∀ (j : ℕ) (d : Call), (p.threads ++ [(program cfg).start k])[j]? = some d →
      d.live → p.threads[j]? = some d := by
    intro j d hd hlive
    rcases Pool.of_getElem?_concat hd with hd | ⟨_, rfl⟩
    · exact hd
    · exact absurd (by cases k <;> rfl) hlive
  refine hinv.keep (fun j d hd hlive => ⟨d, hold j d hd hlive, hlive⟩) ?_ (by simp)
  intro j d hd hlive
  rw [stopped_concat_other (by simp) rfl]
  exact hinv.flag j d (hold j d hd hlive) hlive

theorem ExclusiveInv.env (hinv : ExclusiveInv h p) (e : EnvAction) :
    ExclusiveInv (h ++ [PoolAction.env e]) { p with mem := envStep p.mem e } := by
  refine hinv.keep (fun j d hd hlive => ⟨d, hd, hlive⟩) ?_ (by simp)
  intro j d hd hlive
  cases e with
  | stop =>
    show false = _
    rw [stopped_concat_stop rfl, Bool.not_true, Bool.and_false]
  | _ =>
    rw [stopped_concat_other (by simp) rfl]
    exact hinv.flag j d hd hlive

/-! ## Steps of a call -/

theorem live_of_setRunning (hstep : callStep cfg m c .setRunning = some (m', c')) : c.live := by
  rw [Call.live, (callStep_setRunning hstep).1]
  simp [Pc.phase]

theorem live_of_clearRunning (hstep : callStep cfg m c .clearRunning = some (m', c')) :
    c.live := by
  rw [Call.live, (callStep_clearRunning hstep).1]
  simp [Pc.phase]

theorem live_of_step {a : CallAction} (hstep : callStep cfg m c a = some (m', c'))
    (ha : a ≠ .guard false) (hlive : c'.live) : c.live := by
  rw [Call.live, callStep_phase hstep] at hlive
  cases a with
  | guard found =>
    cases found with
    | false => exact absurd rfl ha
    | true => exact hlive
  | setRunning => exact live_of_setRunning hstep
  | clearRunning => exact live_of_clearRunning hstep
  | finish => exact absurd rfl hlive
  | rethrow => exact absurd rfl hlive
  | _ => exact hlive

/-- Most steps neither enter nor leave a phase. -/
theorem phase_of_step {a : CallAction} (hstep : callStep cfg m c a = some (m', c'))
    (hguard : a ≠ .guard false) (hset : a ≠ .setRunning) (hclear : a ≠ .clearRunning)
    (hlive : c'.live) : c'.pc.phase = c.pc.phase := by
  have hphase := callStep_phase hstep
  rw [Call.live, hphase] at hlive
  rw [hphase]
  cases a with
  | guard found =>
    cases found with
    | false => exact absurd rfl hguard
    | true => rfl
  | setRunning => exact absurd rfl hset
  | clearRunning => exact absurd rfl hclear
  | finish => exact absurd rfl hlive
  | rethrow => exact absurd rfl hlive
  | _ => rfl

/-- A guard that is passed outside the windows finds no call under way. -/
theorem ExclusiveInv.not_live (hinv : ExclusiveInv h p) (hrunning : p.mem.isRunning = false)
    (hwindows : ∀ j < p.threads.length, ∀ c ∈ p.threads[j]?, ¬ window h j c)
    (hc : p.threads[i]? = some c) : ¬ c.live := by
  intro hlive
  have hi : i < p.threads.length := (List.getElem?_eq_some_iff.mp hc).1
  have hflag := hinv.flag i c hc hlive
  have hwindow := hwindows i hi c (Option.mem_def.mpr hc)
  rw [hrunning] at hflag
  unfold window at hwindow
  -- outside a window a call under way is running and not stopped, and then the flag is set
  cases hphase : c.pc.phase with
  | outside => exact hlive hphase
  | setup => simp [hphase] at hwindow
  | running => simp_all
  | finishing => simp [hphase] at hwindow

theorem ExclusiveInv.guard (hinv : ExclusiveInv h p) (hc : p.threads[i]? = some c)
    (hwindows : ∀ j < p.threads.length, ∀ d ∈ p.threads[j]?, ¬ window h j d)
    (hstep : callStep cfg p.mem c (.guard false) = some (m', c')) :
    ExclusiveInv (h ++ [(.act i (.guard false) : Action)])
      { mem := m', threads := p.threads.set i c' } := by
  obtain ⟨hpc, hrunning, hm, hc'⟩ := callStep_guard hstep
  -- nobody else is under way, so the new call is the only one
  have honly : ∀ (j : ℕ) (d : Call), (p.threads.set i c')[j]? = some d → d.live →
      j = i ∧ d = c' := by
    intro j d hd hlive
    rcases Pool.of_getElem?_set hc hd with hself | ⟨_, hd⟩
    · exact hself
    · exact absurd hlive (hinv.not_live hrunning hwindows hd)
  refine ⟨?_, ?_, hinv.final.concat (by simp)⟩
  · intro j₁ j₂ d₁ d₂ hd₁ hd₂ hl₁ hl₂
    rw [(honly j₁ d₁ hd₁ hl₁).1, (honly j₂ d₂ hd₂ hl₂).1]
  · intro j d hd hlive
    rw [(honly j d hd hlive).2, hc', hm]
    exact hrunning

/-- Every other step of a call. -/
theorem ExclusiveInv.call {a : CallAction} (hinv : ExclusiveInv h p)
    (hc : p.threads[i]? = some c) (ha : a ≠ .guard false)
    (hstep : callStep cfg p.mem c a = some (m', c')) :
    ExclusiveInv (h ++ [PoolAction.act i a]) { mem := m', threads := p.threads.set i c' } := by
  have hself : (p.threads.set i c')[i]? = some c' :=
    List.getElem?_set_self (List.getElem?_eq_some_iff.mp hc).1
  have hlive : ∀ (j : ℕ) (d : Call), (p.threads.set i c')[j]? = some d → d.live →
      ∃ d₀, p.threads[j]? = some d₀ ∧ d₀.live := by
    intro j d hd hl
    rcases Pool.of_getElem?_set hc hd with ⟨rfl, rfl⟩ | ⟨_, hd⟩
    · exact ⟨c, hc, live_of_step hstep ha hl⟩
    · exact ⟨d, hd, hl⟩
  -- a step that moves the flag is made by a call under way, and there is no other one
  have honly : c.live → ∀ (j : ℕ) (d : Call), (p.threads.set i c')[j]? = some d → d.live →
      j = i ∧ d = c' := by
    intro hlc j d hd hl
    obtain ⟨d₀, hd₀, hl₀⟩ := hlive j d hd hl
    obtain rfl := hinv.unique j i d₀ c hd₀ hc hl₀ hlc
    exact ⟨rfl, Option.some.inj (hd.symm.trans hself)⟩
  refine hinv.keep hlive ?_ ?_
  · intro j d hd hl
    -- three steps store to the flag, all others leave flag and phase as they are
    by_cases hset : a = .setRunning
    · subst hset
      obtain ⟨hj, hd'⟩ := honly (live_of_setRunning hstep) j d hd hl
      obtain ⟨_, hm, hc'⟩ := callStep_setRunning hstep
      rw [hj, hd', hm, callStep_phase hstep, stopped_concat, if_pos rfl]
      rfl
    by_cases hclear : a = .clearRunning
    · subst hclear
      obtain ⟨hj, hd'⟩ := honly (live_of_clearRunning hstep) j d hd hl
      obtain ⟨_, hm, hc'⟩ := callStep_clearRunning hstep
      rw [hd', hm, callStep_phase hstep]
      rfl
    by_cases hstop : a = .stopRunning
    · subst hstop
      rw [(callStep_stopRunning hstep).2.1, stopped_concat_stop rfl, Bool.not_true,
        Bool.and_false]
    · have hmem := (callStep_frame hstep).2.1 hset hclear hstop
      have hother : stopped j (h ++ [PoolAction.act i a]) = stopped j h := by
        refine stopped_concat_other (by simp [hset]) ?_
        cases a <;> first | rfl | exact absurd rfl hstop
      rw [hmem, hother]
      rcases Pool.of_getElem?_set hc hd with ⟨rfl, rfl⟩ | ⟨_, hd⟩
      · rw [phase_of_step hstep ha hset hclear hl]
        exact hinv.flag j c hc (live_of_step hstep ha hl)
      · exact hinv.flag j d hd hl
  · -- a batch head that finds the flag set: the call is running, so it has not been stopped
    intro j heq
    simp only [PoolAction.act.injEq] at heq
    obtain ⟨rfl, rfl⟩ := heq
    obtain ⟨r, rest, r', hpc, htable, _⟩ := callStep_table hstep
    have hrunning := (step_batchHead htable).2.2.1
    have hflag := hinv.flag i c hc (by rw [Call.live, hpc]; simp [Pc.phase])
    rw [hrunning] at hflag
    simp_all

/-! ## Whole runs -/

theorem exclusiveInv_of_meets
    (hmeets : Meets (Pool.step (program cfg)) GuardOutsideWindows [] (initial filter) h)
    (hrun : runs cfg filter h = some p) : ExclusiveInv h p := by
  refine run_invariant_of_meets ?_ ?_ h p hmeets hrun
  · refine ⟨?_, ?_, eachStep_nil _⟩
    · intro i j c d hc
      simp [initial, Pool.init] at hc
    · intro i c hc
      simp [initial, Pool.init] at hc
  · intro h p a p' hinv hC hstep
    cases a with
    | spawn k =>
      rw [Pool.step_spawn hstep]
      exact hinv.spawn k
    | act i a =>
      obtain ⟨c, m', c', hc, hthread, hp'⟩ := Pool.step_act hstep
      have hcall : callStep cfg p.mem c a = some (m', c') := hthread
      rw [hp']
      by_cases ha : a = .guard false
      · subst ha
        exact hinv.guard hc hC hcall
      · exact hinv.call hc ha hcall
    | env e =>
      obtain ⟨m', hm', hp'⟩ := Pool.step_env hstep
      obtain rfl := Option.some.inj hm'
      rw [hp']
      exact hinv.env e

/-! ## Runs with one migration -/

/-- A migration is called for. -/
def startsMigration : Action → Bool
  | .spawn .stopMigration => false
  | .spawn _ => true
  | _ => false

/-- Where a `stop_migration` can stand. -/
def Pc.ofStop : Pc → Bool
  | .stopGuard | .stopRunning | .stopPaused | .stopped | .rejected => true
  | _ => false

theorem ofStop_step {a : CallAction} (hpc : c.pc.ofStop = true)
    (hstep : callStep cfg m c a = some (m', c')) : c'.pc.ofStop = true := by
  cases a with
  | stopGuard running =>
    rw [(callStep_stopGuard hstep).2.2.2]
    cases running <;> rfl
  | stopRunning => rw [(callStep_stopRunning hstep).2.2]; rfl
  | stopPaused => rw [(callStep_stopPaused hstep).2.2]; rfl
  | _ =>
    -- no other step starts from there
    cases hpc' : c.pc <;> simp [hpc', Pc.ofStop] at hpc <;> simp [callStep, hpc'] at hstep

/-- The calls of a run: the migrations called for, and `stop_migration` otherwise. -/
structure CallsInv (h : List Action) (p : State) : Prop where
  stops : ∀ (i : ℕ) (c : Call), p.threads[i]? = some c → c.request = .stopMigration →
    c.pc.ofStop = true
  none : h.countP startsMigration = 0 → ∀ (i : ℕ) (c : Call), p.threads[i]? = some c →
    c.request = .stopMigration
  one : h.countP startsMigration ≤ 1 → ∀ (i j : ℕ) (c d : Call), p.threads[i]? = some c →
    p.threads[j]? = some d → c.request ≠ .stopMigration → d.request ≠ .stopMigration → i = j

theorem CallsInv.spawn (hinv : CallsInv h p) (k : Request) :
    CallsInv (h ++ [PoolAction.spawn k])
      { p with threads := p.threads ++ [(program cfg).start k] } := by
  have hcount : (h ++ [PoolAction.spawn k]).countP startsMigration =
      h.countP startsMigration + if startsMigration (.spawn k) then 1 else 0 := by
    rw [List.countP_append, List.countP_singleton]
  have hk : startsMigration (.spawn k) = false → k = .stopMigration := by
    cases k <;> simp [startsMigration]
  refine ⟨?_, ?_, ?_⟩
  · intro i c hc hrequest
    rcases Pool.of_getElem?_concat hc with hc | ⟨_, rfl⟩
    · exact hinv.stops i c hc hrequest
    · have hstop : k = .stopMigration := hrequest
      subst hstop
      rfl
  · intro hzero i c hc
    rw [hcount] at hzero
    rcases Pool.of_getElem?_concat hc with hc | ⟨_, rfl⟩
    · exact hinv.none (by omega) i c hc
    · exact hk (by by_contra hstarts; simp [hstarts] at hzero)
  · intro hle i j c d hc hd hci hdj
    rw [hcount] at hle
    rcases Pool.of_getElem?_concat hc with hc | ⟨rfl, rfl⟩ <;>
      rcases Pool.of_getElem?_concat hd with hd | ⟨rfl, rfl⟩
    · exact hinv.one (by omega) i j c d hc hd hci hdj
    -- one of the two is new, and then the other one is no migration
    · have hstarts : startsMigration (.spawn k) = true := by
        by_contra hnot
        exact hdj (hk (Bool.eq_false_of_not_eq_true hnot))
      rw [if_pos hstarts] at hle
      exact absurd (hinv.none (by omega) i c hc) hci
    · have hstarts : startsMigration (.spawn k) = true := by
        by_contra hnot
        exact hci (hk (Bool.eq_false_of_not_eq_true hnot))
      rw [if_pos hstarts] at hle
      exact absurd (hinv.none (by omega) j d hd) hdj
    · rfl

theorem callsInv_of_runs (hrun : runs cfg filter h = some p) : CallsInv h p := by
  refine @run_invariant _ _ (Pool.step (program cfg)) (initial filter) CallsInv
    ⟨by simp [initial, Pool.init], by simp [initial, Pool.init], by simp [initial, Pool.init]⟩
    ?_ h p hrun
  intro h p a p' hinv hstep
  cases a with
  | spawn k =>
    rw [Pool.step_spawn hstep]
    exact hinv.spawn k
  | act i a =>
    obtain ⟨c, m', c', hc, hthread, rfl⟩ := Pool.step_act hstep
    have hcall : callStep cfg p.mem c a = some (m', c') := hthread
    have hcount : (h ++ [PoolAction.act i a]).countP startsMigration =
        h.countP startsMigration := by
      rw [List.countP_append]
      rfl
    -- the calls are the same, with the same requests
    have hold : ∀ (j : ℕ) (d : Call), (p.threads.set i c')[j]? = some d →
        ∃ d₀, p.threads[j]? = some d₀ ∧ d.request = d₀.request := by
      intro j d hd
      rcases Pool.of_getElem?_set hc hd with ⟨rfl, rfl⟩ | ⟨_, hd⟩
      · exact ⟨c, hc, (callStep_frame hcall).1⟩
      · exact ⟨d, hd, rfl⟩
    refine ⟨?_, ?_, ?_⟩
    · intro j d hd hrequest
      rcases Pool.of_getElem?_set hc hd with ⟨rfl, rfl⟩ | ⟨_, hd⟩
      · rw [(callStep_frame hcall).1] at hrequest
        exact ofStop_step (hinv.stops j c hc hrequest) hcall
      · exact hinv.stops j d hd hrequest
    · intro hzero j d hd
      obtain ⟨d₀, hd₀, heq⟩ := hold j d hd
      rw [heq]
      exact hinv.none (hcount ▸ hzero) j d₀ hd₀
    · intro hle j k d e hd he hdj hek
      obtain ⟨d₀, hd₀, hdeq⟩ := hold j d hd
      obtain ⟨e₀, he₀, heeq⟩ := hold k e he
      exact hinv.one (hcount ▸ hle) j k d₀ e₀ hd₀ he₀ (hdeq ▸ hdj) (heeq ▸ hek)
  | env e =>
    obtain ⟨m', _, rfl⟩ := Pool.step_env hstep
    have hcount : (h ++ [PoolAction.env e]).countP startsMigration = h.countP startsMigration := by
      rw [List.countP_append]
      rfl
    exact ⟨hinv.stops, fun hzero => hinv.none (hcount ▸ hzero),
      fun hle => hinv.one (hcount ▸ hle)⟩

theorem phase_of_ofStop (hpc : c.pc.ofStop = true) : c.pc.phase = .outside := by
  cases hpc' : c.pc <;> simp [hpc', Pc.ofStop] at hpc <;> rfl

/-- With a single migration there is no window of another one. -/
theorem meets_of_one_migration (hrun : runs cfg filter h = some p)
    (hone : h.countP startsMigration ≤ 1) :
    Meets (Pool.step (program cfg)) GuardOutsideWindows [] (initial filter) h := by
  refine meets_of_forall fun pre a post q heq hq => ?_
  have hinv := callsInv_of_runs hq
  rw [heq, List.countP_append] at hone
  rw [heq] at hrun
  obtain ⟨q', q'', hq', hstep, _⟩ := run_append_cons_eq_some hrun
  obtain rfl := Option.some.inj (hq.symm.trans hq')
  rw [List.nil_append]
  unfold GuardOutsideWindows
  split
  next i running =>
    intro j _ d hd hwindow
    obtain ⟨c, m', c', hc, hthread, _⟩ := Pool.step_act hstep
    have hcall : callStep cfg q.mem c (.guard running) = some (m', c') := hthread
    have hguard := (callStep_guard hcall).1
    -- a call at its guard is the migration, and so is one in a window
    have hci : c.request ≠ .stopMigration := by
      intro hrequest
      have hstop := hinv.stops i c hc hrequest
      rw [hguard] at hstop
      exact Bool.noConfusion hstop
    have hdj : d.request ≠ .stopMigration := by
      intro hrequest
      rw [window, phase_of_ofStop (hinv.stops j d hd hrequest)] at hwindow
      exact Bool.noConfusion hwindow
    obtain rfl := hinv.one (by omega) i j c d hc hd hci hdj
    obtain rfl := Option.some.inj (hc.symm.trans hd)
    rw [window, hguard] at hwindow
    exact Bool.noConfusion hwindow
  · trivial

/-! ## The result -/

/-- In a run in which no guard is loaded inside a window, at most one call is under way at
any time, and a stopped call passes no further batch head. -/
theorem one_migration_at_a_time (cfg : LoaderConfig) (filter : Option SSTableBlacklistGovernor)
    (h : List Action) (p : State)
    (hmeets : Meets (Pool.step (program cfg)) GuardOutsideWindows [] (initial filter) h)
    (hrun : runs cfg filter h = some p) : OneAtATime p ∧ StopIsFinal h :=
  have hinv := exclusiveInv_of_meets hmeets hrun
  ⟨hinv.unique, hinv.final⟩

/-- `start_migration` up to the store of `true`. -/
def startUp : List CallAction :=
  .guard false :: (List.replicate 7 CallAction.setup ++ [CallAction.setRunning])

/-- `start_migration` from there to the batch loop of the first table. -/
def reachLoop : List CallAction :=
  [.selectTables, .tableHead true, .shouldSkipTable, .table (.resolvePartitionKeys .ok),
    .table (.calculateRanges (.syncError "unreachable"))]

/-- A migration that is stopped in its batch loop. -/
def stoppedInLoop : List Action :=
  .spawn (.startMigration []) :: ((startUp ++ reachLoop).map (PoolAction.act 0) ++
    [(.env .stop : Action)])

/-- The rest of the stopped migration. -/
def leaveLoop : List CallAction :=
  [.table (.batchHead false), .countCompleted "app.files", .leaveTables, .clearRunning, .finish]

/-- The guard and the store of `true` of the next migration. -/
def nextStart : List Action := .spawn (.startMigration []) :: startUp.map (.act 1)

/-- The stopped migration returns, then the next one starts. -/
def startAfterReturn : List Action :=
  stoppedInLoop ++ (leaveLoop.map (PoolAction.act 0) ++ nextStart)

theorem one_migration_at_a_time_startAfterReturn :
    ∃ p, runs oneTable (some (.ofConfig {})) startAfterReturn = some p ∧ OneAtATime p ∧
      StopIsFinal startAfterReturn := by
  have hmeets : Meets (Pool.step (program oneTable)) GuardOutsideWindows []
      (initial (some (.ofConfig {}))) startAfterReturn := by decide +kernel
  have hsome : (runs oneTable (some (.ofConfig {})) startAfterReturn).isSome := by decide +kernel
  obtain ⟨p, hrun⟩ := Option.isSome_iff_exists.mp hsome
  exact ⟨p, hrun, one_migration_at_a_time oneTable _ startAfterReturn p hmeets hrun⟩

/-- The next migration starts while the stopped one is still in its batch loop. -/
def startWhileDraining : List Action := stoppedInLoop ++ nextStart

/-- Both migrations are then under way, and the stopped one goes on with its batches. -/
theorem stopped_migration_resumes :
    ¬ (∀ (h : List Action) (p : State),
        runs oneTable (some (.ofConfig {})) h = some p → OneAtATime p) ∧
      ¬ (∀ (h : List Action) (p : State),
        runs oneTable (some (.ofConfig {})) h = some p → StopIsFinal h) := by
  constructor
  · intro hall
    have hphases : (runs oneTable (some (.ofConfig {})) startWhileDraining).map
        (fun p => p.threads.map (·.pc.phase)) = some [.running, .running] := by decide +kernel
    obtain ⟨p, hrun, hp⟩ := Option.map_eq_some_iff.mp hphases
    have hrunning : ∀ j < 2, ∃ c, p.threads[j]? = some c ∧ c.live := by
      intro j hj
      have hphase : (p.threads.map (·.pc.phase))[j]? = some .running := by
        rw [hp]
        interval_cases j <;> rfl
      rw [List.getElem?_map, Option.map_eq_some_iff] at hphase
      obtain ⟨c, hc, hphase⟩ := hphase
      exact ⟨c, hc, by rw [Call.live, hphase]; decide⟩
    obtain ⟨c, hc, hcl⟩ := hrunning 0 (by decide)
    obtain ⟨d, hd, hdl⟩ := hrunning 1 (by decide)
    exact absurd (hall _ p hrun 0 1 c d hc hd hcl hdl) (by decide)
  · intro hall
    have hsome : (runs oneTable (some (.ofConfig {}))
        (startWhileDraining ++ [(.act 0 (.table (.batchHead true)) : Action)])).isSome := by
      decide +kernel
    obtain ⟨p, hrun⟩ := Option.isSome_iff_exists.mp hsome
    exact hall _ p hrun startWhileDraining _ [] rfl 0 rfl (by decide +kernel)

end SSTableLoader
end ScyllaClusterSync
