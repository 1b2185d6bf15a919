import ScyllaClusterSync.DualWriter.WriteMode
import ScyllaClusterSync.DualWriter.TableGateTheorems

/-!
# What the configured write mode says, and when it is what happens

Whatever the mode, a call for a table that is not blacklisted does what `dualEvents` lists
for the outcomes of its two executes (`EventsInv`). So the requirements of a mode hold in a
run according to these outcomes alone: `write_mode_governs_iff`.
-/

namespace ScyllaClusterSync
namespace DualWriter

open Svckit Lib

variable {generateId : ℕ → String} {maxRetries : UInt32} {w : ℕ} {m m' : Writer}
  {c c' : WriteCall} {h : List Action} {p p' : State} {filter : Option BlacklistFilterGovernor}

/-! ## What a call does outside its own counters -/

/-- An execute, or the enqueue. -/
def CallAction.isEvent : CallAction → Bool
  | .sourceExecute _ _ => true
  | .targetExecute _ _ => true
  | .enqueue => true
  | _ => false

/-- The executes and the enqueue of call `w`, in order. -/
def callEvents (w : ℕ) (h : List Action) : List CallAction :=
  (Pool.stepsOf w h).filter CallAction.isEvent

/-- What `write_dual_async` does for these outcomes. -/
def dualEvents (cql : String) : Outcome → Outcome → List CallAction
  | .syncError e, _ => [.sourceExecute cql (.syncError e)]
  | .ok, .ok => [.sourceExecute cql .ok, .targetExecute cql .ok]
  | .ok, .syncError e =>
    [.sourceExecute cql .ok, .targetExecute cql (.syncError e), .enqueue]

theorem mem_callEvents {b : CallAction} :
    b ∈ callEvents w h ↔ .act w b ∈ h ∧ b.isEvent := by
  rw [callEvents, List.mem_filter, Pool.mem_stepsOf]

theorem callEvents_concat_event {b : CallAction} (hb : b.isEvent) :
    callEvents w (h ++ [.act w b]) = callEvents w h ++ [b] := by
  rw [callEvents, Pool.stepsOf_concat_self, List.filter_append]
  simp [callEvents, hb]

theorem callEvents_concat_count {b : CallAction} (hb : b.isEvent = false) :
    callEvents w (h ++ [.act w b]) = callEvents w h := by
  rw [callEvents, Pool.stepsOf_concat_self, List.filter_append]
  simp [callEvents, hb]

theorem callEvents_concat_other {a : Action} (ha : ∀ b, a ≠ .act w b) :
    callEvents w (h ++ [a]) = callEvents w h := by
  rw [callEvents, Pool.stepsOf_concat_other h ha]
  rfl

/-- The events of a call for `cql` by where it stands; `skipped` for a table that is
blacklisted. -/
def eventsAt (skipped : Bool) (events : List CallAction) (cql : String) : Pc → Prop
  | .entered | .gate | .tableCheck | .dualSource => events = []
  | .skipCount | .sourceOnly => skipped
  | .dualTarget => events = [.sourceExecute cql .ok]
  | .enqueue e => events = [.sourceExecute cql .ok, .targetExecute cql (.syncError e)]
  | .finish r | .returned r => skipped ∨
    ∃ src tgt, events = dualEvents cql src tgt ∧ r.sourceOk = (src == .ok)

/-- A call has done what its place in `write` says, for the request it was started with. -/
structure EventsInv (filter : Option BlacklistFilterGovernor) (h : List Action) (w : ℕ)
    (c : WriteCall) : Prop where
  request : .spawn ⟨c.cql, c.keyspace⟩ ∈ h
  events : eventsAt (({ filter := filter } : Writer).tableBlacklisted c.keyspace)
    (callEvents w h) c.cql c.pc

/-- The blacklist in force is the one the service was constructed with. -/
theorem tableBlacklisted_of_filterConfig (hconfig : filterConfig m = filterConfig m')
    (keyspace : String) : m.tableBlacklisted keyspace = m'.tableBlacklisted keyspace := by
  have hval : ∀ m : Writer, m.tableBlacklisted keyspace =
      match filterConfig m with
      | none => false
      | some config => (Blacklists.load config).skipsTable keyspace := by
    intro m
    unfold Writer.tableBlacklisted filterConfig
    cases m.filter <;> rfl
  rw [hval, hval, hconfig]

/-- A step of the call itself. -/
theorem EventsInv.step (hc : EventsInv filter h w c)
    (hconfig : filterConfig m = filterConfig { filter := filter }) {b : CallAction}
    (hstep : callStep generateId w m c b = some (m', c')) :
    EventsInv filter (h ++ [.act w b]) w c' := by
  obtain ⟨hcql, hks⟩ := callStep_request hstep
  refine ⟨?_, ?_⟩
  · rw [hcql, hks]
    exact List.mem_append_left _ hc.request
  -- the request and the governor stay, so only the place and the events of the call may change
  have hevents := hc.events
  rw [hcql, hks]
  cases b with
  | countTotal =>
    obtain ⟨hpc, _, hc'⟩ := callStep_countTotal hstep
    rw [hpc] at hevents
    rw [callEvents_concat_count rfl, hc']
    exact hevents
  | isEnabled =>
    obtain ⟨hpc, _, hc'⟩ := callStep_isEnabled hstep
    rw [hpc] at hevents
    rw [callEvents_concat_count rfl, hc']
    show eventsAt _ _ _ (if m.filterEnabled then .tableCheck else .dualSource)
    split <;> exact hevents
  | shouldSkipTable =>
    obtain ⟨hpc, _, hc'⟩ := callStep_shouldSkipTable hstep
    rw [hpc] at hevents
    rw [callEvents_concat_count rfl, hc']
    show eventsAt _ _ _ (if (m.shouldSkipTable c.keyspace).1 = .skipTable then .skipCount
      else .dualSource)
    split
    next hskip =>
      rw [← tableBlacklisted_of_filterConfig hconfig]
      exact Writer.tableBlacklisted_of_shouldSkipTable.mp hskip
    · exact hevents
  | countFiltered =>
    obtain ⟨hpc, _, hc'⟩ := callStep_countFiltered hstep
    rw [hpc] at hevents
    rw [hc']
    exact hevents
  | sourceExecute q o =>
    obtain ⟨hq, _, ⟨hpc, hc'⟩ | ⟨hpc, hc'⟩⟩ := callStep_sourceExecute hstep
    · -- `write_source_only`: the place is reached through a blacklisted table only
      rw [hpc] at hevents
      rw [hc']
      exact Or.inl hevents
    · rw [hpc] at hevents
      have hnil : callEvents w h = [] := hevents
      rw [callEvents_concat_event rfl, hnil, hq, hc']
      cases o with
      -- accepted: the target is next; refused: the result is ready and the target is left out
      | ok => exact rfl
      | syncError e => exact Or.inr ⟨.syncError e, .ok, rfl, rfl⟩
  | targetExecute q o =>
    obtain ⟨hq, hpc, _, hc'⟩ := callStep_targetExecute hstep
    rw [hpc] at hevents
    have hone : callEvents w h = [.sourceExecute c.cql .ok] := hevents
    rw [callEvents_concat_event rfl, hone, hq, hc']
    cases o with
    | ok => exact Or.inr ⟨.ok, .ok, rfl, rfl⟩
    | syncError e => exact rfl
  | enqueue =>
    obtain ⟨e, hpc, _, hc'⟩ := callStep_enqueue hstep
    rw [hpc] at hevents
    have htwo : callEvents w h = [.sourceExecute c.cql .ok, .targetExecute c.cql (.syncError e)] :=
      hevents
    rw [callEvents_concat_event rfl, htwo, hc']
    exact Or.inr ⟨.ok, .syncError e, rfl, rfl⟩
  | finish =>
    obtain ⟨r, hpc, _, hc'⟩ := callStep_finish hstep
    rw [hpc] at hevents
    rw [callEvents_concat_count rfl, hc']
    exact hevents

/-- What is not a step of the call changes nothing for it. -/
theorem EventsInv.frame (hc : EventsInv filter h w c) {a : Action} (ha : ∀ b, a ≠ .act w b) :
    EventsInv filter (h ++ [a]) w c := by
  refine ⟨List.mem_append_left _ hc.request, ?_⟩
  rw [callEvents_concat_other ha]
  exact hc.events

theorem eventsInv_of_runs (hrun : runs generateId maxRetries filter h = some p) :
    Pool.Holds (fun _ m => filterConfig m = filterConfig { filter := filter })
      (fun h _ w c => EventsInv filter h w c) h p := by
  refine Pool.invariant_of_meets ?_ ?_ ?_ ?_ h p (Pool.meets_true h) hrun
  · exact rfl
  · intro h p k hp _ hnew
    refine ⟨hp.1, ⟨by simp [program], ?_⟩, fun j u hu => hu.frame (by simp)⟩
    have hnil : callEvents p.threads.length h = [] := by
      rw [callEvents, Pool.stepsOf_eq_nil hnew]
      rfl
    rw [callEvents_concat_other (by simp), hnil]
    exact rfl
  · intro h p i b c m' c' hp _ hc hstep
    refine ⟨(filterConfig_callStep hstep).trans hp.1, (hp.2 i c hc).step hp.1 hstep, ?_⟩
    intro j u hj hu
    refine hu.frame ?_
    intro b' heq
    exact hj (PoolAction.act.inj heq).1.symm
  · intro h p e m' hp _ hstep
    exact ⟨(filterConfig_envStep hstep).trans hp.1, fun j u hu => hu.frame (by simp)⟩

/-- A call for a table that is not blacklisted, once it has returned. -/
theorem events_of_returned (hc : EventsInv filter h w c)
    (hallowed : ¬ ({ filter := filter } : Writer).tableBlacklisted c.keyspace) {r : WriteResult}
    (hpc : c.pc = .returned r) :
    ∃ src tgt, callEvents w h = dualEvents c.cql src tgt ∧ r.sourceOk = (src == .ok) := by
  have hevents := hc.events
  rw [hpc] at hevents
  rcases hevents with hskip | hdual
  · exact absurd hskip hallowed
  · exact hdual

/-- Whatever else a call has done, the source had accepted its statement. -/
theorem sourceAccepted_of_event (hc : EventsInv filter h w c)
    (hallowed : ¬ ({ filter := filter } : Writer).tableBlacklisted c.keyspace) {b : CallAction}
    (hb : b ∈ callEvents w h) (hne : ∀ cql o, b ≠ .sourceExecute cql o) :
    .sourceExecute c.cql .ok ∈ callEvents w h := by
  -- a dual write that did anything else had its source execute accepted before
  have hdual : ∀ src tgt, b ∈ dualEvents c.cql src tgt →
      .sourceExecute c.cql .ok ∈ dualEvents c.cql src tgt := by
    intro src tgt hmem
    cases src with
    | ok => cases tgt <;> simp [dualEvents]
    | syncError e => exact absurd (List.mem_singleton.mp hmem) (hne _ _)
  have hresult : ∀ r : WriteResult, (({ filter := filter } : Writer).tableBlacklisted c.keyspace ∨
      ∃ src tgt, callEvents w h = dualEvents c.cql src tgt ∧ r.sourceOk = (src == .ok)) →
      .sourceExecute c.cql .ok ∈ callEvents w h := by
    intro r hor
    rcases hor with hskip | ⟨src, tgt, heq, _⟩
    · exact absurd hskip hallowed
    · rw [heq] at hb ⊢
      exact hdual src tgt hb
  have hevents := hc.events
  -- in every other place the events of the call are known from its place alone
  cases hpc : c.pc with
  | finish r => exact hresult r (by rw [hpc] at hevents; exact hevents)
  | returned r => exact hresult r (by rw [hpc] at hevents; exact hevents)
  | skipCount => rw [hpc] at hevents; exact absurd hevents hallowed
  | sourceOnly => rw [hpc] at hevents; exact absurd hevents hallowed
  | dualTarget =>
    rw [hpc] at hevents
    have hone : callEvents w h = [.sourceExecute c.cql .ok] := hevents
    rw [hone]
    exact List.mem_cons_self
  | enqueue e =>
    rw [hpc] at hevents
    have htwo : callEvents w h = [.sourceExecute c.cql .ok, .targetExecute c.cql (.syncError e)] :=
      hevents
    rw [htwo]
    exact List.mem_cons_self
  | _ =>
    rw [hpc] at hevents
    have hnil : callEvents w h = [] := hevents
    rw [hnil] at hb
    exact absurd hb List.not_mem_nil

/-- Nothing is in the queue or in the retry thread's hands before a call has enqueued. -/
theorem enqueued_of_copy (hrun : runs generateId maxRetries filter h = some p) {id : String}
    {fw : FailedWrite} (hcopy : p.mem.HasCopy id fw) : ∃ w, Enqueued h w := by
  have hinit : ∀ id fw, (initial filter).mem.HasCopy id fw → ∃ w, Enqueued [] w := by
    intro id fw hcopy
    simp [initial, Pool.init, Writer.HasCopy, Writer.todo, Writer.toUpdate] at hcopy
  have hstep : ∀ (h : List Action) (p : State) (a : Action) (p' : State),
      (∀ id fw, p.mem.HasCopy id fw → ∃ w, Enqueued h w) →
      Pool.step (program generateId maxRetries) p a = some p' →
      ∀ id fw, p'.mem.HasCopy id fw → ∃ w, Enqueued (h ++ [a]) w := by
    intro h p a p' hinv hstep id fw hcopy
    rcases copy_of_step hstep hcopy with ⟨fw', hold, _⟩ | ⟨w, c, ha, _⟩
    · obtain ⟨w, hw⟩ := hinv id fw' hold
      exact ⟨w, List.mem_append_left _ hw⟩
    · exact ⟨w, by simp [Enqueued, ha]⟩
  exact @run_invariant _ _ (Pool.step (program generateId maxRetries)) (initial filter)
    (fun h p => ∀ id fw, p.mem.HasCopy id fw → ∃ w, Enqueued h w) hinit hstep h p hrun id fw hcopy

/-! ## What each mode asks for -/

/-- The requirements of a mode on a run. A write succeeds for its client when its result
has `source_ok`. -/
def Governs (mode : WriteMode) (h : List Action) (p : State) : Prop :=
  match mode with
  | .sourceOnly =>
    (∀ a ∈ h, ∀ cql o, clusterCall a ≠ some (.target cql o)) ∧ ∀ w, ¬ Enqueued h w
  | .dualAsync => ∀ w c r, p.threads[w]? = some c → c.pc = .returned r →
    (r.sourceOk ↔ .act w (.sourceExecute c.cql .ok) ∈ h) ∧
      ∀ e, .act w (.targetExecute c.cql (.syncError e)) ∈ h → Enqueued h w
  | .dualSync => ∀ w c r, p.threads[w]? = some c → c.pc = .returned r → r.sourceOk →
    .act w (.sourceExecute c.cql .ok) ∈ h ∧ .act w (.targetExecute c.cql .ok) ∈ h
  | .targetOnly => ∀ a ∈ h, ∀ cql o, clusterCall a ≠ some (.source cql o)

/-- The outcomes under which `write_dual_async` does what the mode asks for. -/
def OutcomesSuit (mode : WriteMode) (h : List Action) : Prop :=
  match mode with
  | .sourceOnly => ∀ w cql, .act w (.sourceExecute cql .ok) ∉ h
  | .dualAsync => True
  | .dualSync => ∀ w cql e, .act w (.targetExecute cql (.syncError e)) ∉ h
  | .targetOnly => ∀ k, .spawn k ∉ h

/-! ## The modes one by one -/

/-- No call of the run is for a table that is blacklisted. -/
def AllAllowed (filter : Option BlacklistFilterGovernor) (h : List Action) : Prop :=
  ∀ k, .spawn k ∈ h → ¬ ({ filter := filter } : Writer).tableBlacklisted k.keyspace

/-- Every call has returned. -/
def AllReturned (p : State) : Prop :=
  ∀ (w : ℕ) (c : WriteCall), p.threads[w]? = some c → ∃ r, c.pc = .returned r

/-- What a call has done, once it has returned. -/
theorem dualEvents_of_returned (hrun : runs generateId maxRetries filter h = some p)
    (hallowed : AllAllowed filter h) (hc : p.threads[w]? = some c) {r : WriteResult}
    (hpc : c.pc = .returned r) :
    ∃ src tgt, callEvents w h = dualEvents c.cql src tgt ∧ r.sourceOk = (src == .ok) := by
  have hinv := (eventsInv_of_runs hrun).2 w c hc
  exact events_of_returned hinv (hallowed _ hinv.request) hpc

/-- A step in the history was taken by one of the calls. -/
theorem call_of_act (hrun : runs generateId maxRetries filter h = some p) {b : CallAction}
    (hb : .act w b ∈ h) : ∃ c, p.threads[w]? = some c :=
  ⟨_, List.getElem?_eq_getElem (Pool.lt_length_of_mem hrun hb)⟩

/-- A shadow write and an enqueue follow a write that the source has accepted. -/
theorem sourceAccepted_of_act (hrun : runs generateId maxRetries filter h = some p)
    (hallowed : AllAllowed filter h) {b : CallAction} (hb : .act w b ∈ h) (hevent : b.isEvent)
    (hne : ∀ cql o, b ≠ .sourceExecute cql o) :
    ∃ cql, .act w (.sourceExecute cql .ok) ∈ h := by
  obtain ⟨c, hc⟩ := call_of_act hrun hb
  have hinv := (eventsInv_of_runs hrun).2 w c hc
  have hsource := sourceAccepted_of_event hinv (hallowed _ hinv.request)
    (mem_callEvents.mpr ⟨hb, hevent⟩) hne
  exact ⟨c.cql, (mem_callEvents.mp hsource).1⟩

theorem governs_sourceOnly (hrun : runs generateId maxRetries filter h = some p)
    (hallowed : AllAllowed filter h) (hfails : OutcomesSuit .sourceOnly h) :
    Governs .sourceOnly h p := by
  have hqueued : ∀ w, ¬ Enqueued h w := by
    intro w henq
    obtain ⟨cql, hsource⟩ := sourceAccepted_of_act hrun hallowed henq rfl (by simp)
    exact hfails w cql hsource
  refine ⟨?_, hqueued⟩
  intro a ha cql o hcall
  unfold clusterCall at hcall
  split at hcall
  · simp at hcall
  next w q o' =>
    obtain ⟨cql', hsource⟩ := sourceAccepted_of_act hrun hallowed ha rfl (by simp)
    exact hfails w cql' hsource
  next id q o' =>
    -- the retry thread needs an entry, and so a call that has enqueued
    obtain ⟨pre, post, rfl⟩ := List.append_of_mem ha
    obtain ⟨p₁, p₂, hpre, hstep, _⟩ := run_append_cons_eq_some hrun
    obtain ⟨fw, hcopy, _⟩ := copy_of_retryExecute hstep
    obtain ⟨w, henq⟩ := enqueued_of_copy hpre hcopy
    exact hqueued w (List.mem_append_left _ henq)
  · simp at hcall

theorem fails_of_governs_sourceOnly (hrun : runs generateId maxRetries filter h = some p)
    (hallowed : AllAllowed filter h) (hreturned : AllReturned p)
    (hgoverns : Governs .sourceOnly h p) : OutcomesSuit .sourceOnly h := by
  intro w cql hsource
  obtain ⟨c, hc⟩ := call_of_act hrun hsource
  obtain ⟨r, hpc⟩ := hreturned w c hc
  obtain ⟨src, tgt, hevents, _⟩ := dualEvents_of_returned hrun hallowed hc hpc
  have hmem : .sourceExecute cql .ok ∈ callEvents w h := mem_callEvents.mpr ⟨hsource, rfl⟩
  have htarget : .targetExecute c.cql tgt ∈ callEvents w h := by
    rw [hevents] at hmem ⊢
    cases src with
    | ok => cases tgt <;> simp [dualEvents]
    | syncError e => simp [dualEvents] at hmem
  exact hgoverns.1 _ (mem_callEvents.mp htarget).1 c.cql tgt rfl

theorem governs_dualAsync (hrun : runs generateId maxRetries filter h = some p)
    (hallowed : AllAllowed filter h) : Governs .dualAsync h p := by
  intro w c r hc hpc
  obtain ⟨src, tgt, hevents, hok⟩ := dualEvents_of_returned hrun hallowed hc hpc
  have hmem : ∀ b : CallAction, b.isEvent → (.act w b ∈ h ↔ b ∈ dualEvents c.cql src tgt) := by
    intro b hb
    rw [← hevents, mem_callEvents]
    exact (and_iff_left hb).symm
  constructor
  · rw [hmem _ rfl, hok]
    cases src with
    | ok => cases tgt <;> simp [dualEvents]
    | syncError e => simp [dualEvents]
  · intro e
    rw [Enqueued, hmem _ rfl, hmem _ rfl]
    cases src with
    | ok => cases tgt <;> simp [dualEvents]
    | syncError e => simp [dualEvents]

theorem governs_dualSync (hrun : runs generateId maxRetries filter h = some p)
    (hallowed : AllAllowed filter h) (hsucceeds : OutcomesSuit .dualSync h) :
    Governs .dualSync h p := by
  intro w c r hc hpc hr
  obtain ⟨src, tgt, hevents, hok⟩ := dualEvents_of_returned hrun hallowed hc hpc
  have hmem : ∀ b : CallAction, b ∈ callEvents w h → .act w b ∈ h := fun b hb =>
    (mem_callEvents.mp hb).1
  rw [hevents] at hmem
  cases src with
  | syncError e =>
    rw [hok] at hr
    exact absurd hr (by simp)
  | ok =>
    cases tgt with
    | ok => exact ⟨hmem _ (by simp [dualEvents]), hmem _ (by simp [dualEvents])⟩
    | syncError e => exact absurd (hmem _ (by simp [dualEvents])) (hsucceeds w c.cql e)

theorem succeeds_of_governs_dualSync (hrun : runs generateId maxRetries filter h = some p)
    (hallowed : AllAllowed filter h) (hreturned : AllReturned p)
    (hgoverns : Governs .dualSync h p) : OutcomesSuit .dualSync h := by
  intro w cql e htarget
  obtain ⟨c, hc⟩ := call_of_act hrun htarget
  obtain ⟨r, hpc⟩ := hreturned w c hc
  obtain ⟨src, tgt, hevents, hok⟩ := dualEvents_of_returned hrun hallowed hc hpc
  have hmem : .targetExecute cql (.syncError e) ∈ callEvents w h :=
    mem_callEvents.mpr ⟨htarget, rfl⟩
  rw [hevents] at hmem
  cases src with
  | syncError e' => simp [dualEvents] at hmem
  | ok =>
    have hboth := hgoverns w c r hc hpc (by rw [hok]; rfl)
    have hok' : .targetExecute c.cql .ok ∈ callEvents w h := mem_callEvents.mpr ⟨hboth.2, rfl⟩
    rw [hevents] at hok'
    cases tgt with
    | ok => simp [dualEvents] at hmem
    | syncError e' => simp [dualEvents] at hok'

theorem governs_targetOnly (hrun : runs generateId maxRetries filter h = some p)
    (hnone : OutcomesSuit .targetOnly h) : Governs .targetOnly h p := by
  intro a ha cql o hcall
  unfold clusterCall at hcall
  split at hcall
  next w q o' =>
    have hlt := Pool.lt_length_of_mem hrun ha
    rw [(Pool.threads_eq_nil_iff hrun).mpr hnone] at hlt
    exact absurd hlt (Nat.not_lt_zero w)
  · simp at hcall
  · simp at hcall
  · simp at hcall

theorem no_spawn_of_governs_targetOnly (hrun : runs generateId maxRetries filter h = some p)
    (hallowed : AllAllowed filter h) (hreturned : AllReturned p)
    (hgoverns : Governs .targetOnly h p) : OutcomesSuit .targetOnly h := by
  refine (Pool.threads_eq_nil_iff hrun).mp ?_
  rw [List.eq_nil_iff_forall_not_mem]
  intro c hmem
  obtain ⟨w, hc⟩ := List.mem_iff_getElem?.mp hmem
  obtain ⟨r, hpc⟩ := hreturned w c hc
  obtain ⟨src, tgt, hevents, _⟩ := dualEvents_of_returned hrun hallowed hc hpc
  have hsource : .sourceExecute c.cql src ∈ callEvents w h := by
    rw [hevents]
    cases src with
    | ok => cases tgt <;> simp [dualEvents]
    | syncError e => simp [dualEvents]
  exact hgoverns _ (mem_callEvents.mp hsource).1 c.cql src rfl

/-! ## The result -/

/-- In every run on tables that are not blacklisted, the mode in `writer.mode` is kept to
where the outcomes happen to suit it; and when every call has returned, only there. -/
theorem write_mode_governs_iff (conv : Conversions) (node : YamlMap) (generateId : ℕ → String)
    (filter : Option BlacklistFilterGovernor) (h : List Action) (p : State)
    (hrun : configuredRuns conv node generateId filter h = some p)
    (hallowed : AllAllowed filter h) (mode : WriteMode) (_ : Selects conv node mode) :
    (OutcomesSuit mode h → Governs mode h p) ∧
      (AllReturned p → (Governs mode h p ↔ OutcomesSuit mode h)) := by
  cases mode with
  | sourceOnly =>
    exact ⟨governs_sourceOnly hrun hallowed, fun hreturned =>
      ⟨fails_of_governs_sourceOnly hrun hallowed hreturned, governs_sourceOnly hrun hallowed⟩⟩
  | dualAsync =>
    exact ⟨fun _ => governs_dualAsync hrun hallowed, fun _ =>
      ⟨fun _ => trivial, fun _ => governs_dualAsync hrun hallowed⟩⟩
  | dualSync =>
    exact ⟨governs_dualSync hrun hallowed, fun hreturned =>
      ⟨succeeds_of_governs_dualSync hrun hallowed hreturned, governs_dualSync hrun hallowed⟩⟩
  | targetOnly =>
    exact ⟨governs_targetOnly hrun, fun hreturned =>
      ⟨no_spawn_of_governs_targetOnly hrun hallowed hreturned, governs_targetOnly hrun⟩⟩

/-- Scalars that are converted as they stand, and no numbers. -/
def plainScalars : Conversions where
  asUInt32 _ := none
  asUInt64 _ := none
  asBool _ := none
  asString scalar := some scalar

/-- A `writer` section with nothing but a mode. -/
def modeSection (mode : WriteMode) : YamlMap := fun key =>
  if key = "mode" then some mode.name else none

/-- One write that both clusters accept. -/
def oneWrite : List Action :=
  [.spawn ⟨"INSERT INTO app.files (id) VALUES (1)", "app.files"⟩, .act 0 .countTotal,
    .act 0 .isEnabled, .act 0 (.sourceExecute "INSERT INTO app.files (id) VALUES (1)" .ok),
    .act 0 (.targetExecute "INSERT INTO app.files (id) VALUES (1)" .ok), .act 0 .finish]

/-- The state after it. -/
def afterOneWrite : State where
  mem := { filter := none, stats := { totalWrites := 1, successfulWrites := 1 } }
  threads := [
    { cql := "INSERT INTO app.files (id) VALUES (1)", keyspace := "app.files"
      pc := .returned { sourceOk := true, targetOk := true } }]

theorem write_mode_governs_iff_oneWrite :
    Governs .dualSync oneWrite afterOneWrite ∧ ¬ Governs .targetOnly oneWrite afterOneWrite := by
  have hrun : ∀ mode, configuredRuns plainScalars (modeSection mode) (fun _ => "") none oneWrite =
      some afterOneWrite := fun _ => rfl
  have hallowed : AllAllowed none oneWrite := fun _ _ => by simp [Writer.tableBlacklisted]
  have hreturned : AllReturned afterOneWrite := by
    intro w c hc
    obtain ⟨hw, rfl⟩ := List.getElem?_eq_some_iff.mp hc
    obtain rfl : w = 0 := Nat.lt_one_iff.mp hw
    exact ⟨_, rfl⟩
  constructor
  · have hiff := write_mode_governs_iff plainScalars (modeSection .dualSync) (fun _ => "") none
      oneWrite afterOneWrite (hrun .dualSync) hallowed .dualSync rfl
    exact hiff.1 (by simp [OutcomesSuit, oneWrite])
  · have hiff := write_mode_governs_iff plainScalars (modeSection .targetOnly) (fun _ => "") none
      oneWrite afterOneWrite (hrun .targetOnly) hallowed .targetOnly rfl
    intro hgoverns
    exact (hiff.2 hreturned).mp hgoverns _ List.mem_cons_self

/-- With `mode: SourceOnly` the target is executed against. -/
theorem source_only_writes_target :
    ¬ ∀ (conv : Conversions) (node : YamlMap) (generateId : ℕ → String)
        (filter : Option BlacklistFilterGovernor) (h : List Action) (p : State),
      configuredRuns conv node generateId filter h = some p → AllAllowed filter h →
        ∀ mode, Selects conv node mode → Governs mode h p := by
  intro hall
  have hrun : configuredRuns plainScalars (modeSection .sourceOnly) (fun _ => "") none oneWrite =
      some afterOneWrite := rfl
  have hgoverns := hall plainScalars (modeSection .sourceOnly) (fun _ => "") none oneWrite
    afterOneWrite hrun (fun _ _ => by simp [Writer.tableBlacklisted]) .sourceOnly rfl
  exact hgoverns.1 (.act 0 (.targetExecute "INSERT INTO app.files (id) VALUES (1)" .ok))
    (by simp [oneWrite]) _ _ rfl

end DualWriter
end ScyllaClusterSync
