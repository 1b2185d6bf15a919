import ScyllaClusterSync.DualWriter.RetryQueue

/-!
# Every shadow write is accounted for

`QueueInv` knows the retry queue; this file adds what each call has done so far
(`CallInv`) and where every target execute came from (`Sourced`), and concludes what has
become of the shadow write of a call that returned: `shadow_write_accounted`.
-/

namespace ScyllaClusterSync
namespace DualWriter

open Svckit Lib

/-! ## What has become of a shadow write -/

inductive Fate where
  | executed
  | queued
  | abandoned
  | dropped
deriving DecidableEq, Repr

/-- What has become of the shadow write of call `w`, whose statement is `cql`. -/
def HasFate (generateId : ℕ → String) (h : List Action) (m : Writer) (w : ℕ) (cql : String) :
    Fate → Prop
  | .executed => .act w (.targetExecute cql .ok) ∈ h ∨
      .env (.retry (.execute (generateId w) cql .ok)) ∈ h
  | .queued => ∃ fw, m.failedWrites.lookup (generateId w) = some fw ∧ fw.cql = cql
  | .abandoned => .env (.retry (.abandon (generateId w))) ∈ h
  | .dropped => .env (.retry (.drop (generateId w))) ∈ h

/-- The source had accepted the statement a target execute is about, in the same call
when a call executes it, in the call that queued it when the retry thread does. -/
def Sourced (generateId : ℕ → String) (h : List Action) : Action → Prop
  | .act w (.targetExecute cql _) => SourceAccepted h w cql
  | .env (.retry (.execute id cql _)) => ∃ w, generateId w = id ∧ SourceAccepted h w cql
  | _ => True

/-! ## What a call has done so far -/

/-- Nothing has been done about the shadow write of call `w` yet. -/
def Unshadowed (h : List Action) (w : ℕ) : Prop :=
  h.countP (isDirectSuccess w) = 0 ∧ ¬ Enqueued h w

/-- What the history says about call `w` where it stands. -/
def stageInv (h : List Action) (w : ℕ) (c : WriteCall) : Prop :=
  match c.pc with
  | .entered | .gate | .tableCheck | .skipCount | .dualSource => Unshadowed h w
  | .sourceOnly => Unshadowed h w ∧ Filtered h w
  | .dualTarget | .enqueue _ => Unshadowed h w ∧ SourceAccepted h w c.cql
  | .finish r | .returned r =>
    r.sourceOk → ¬ Filtered h w → h.countP (isDirectSuccess w) = 1 ∨ Enqueued h w

structure CallInv (h : List Action) (w : ℕ) (c : WriteCall) : Prop where
  sourceText : ∀ cql o, .act w (.sourceExecute cql o) ∈ h → cql = c.cql
  targetText : ∀ cql o, .act w (.targetExecute cql o) ∈ h → cql = c.cql
  once : h.countP (isDirectSuccess w) ≤ 1
  either : Enqueued h w → h.countP (isDirectSuccess w) = 0
  stage : stageInv h w c

variable {generateId : ℕ → String} {maxRetries : UInt32} {h : List Action} {m m' : Writer}
  {w : ℕ} {c c' : WriteCall}

/-- An action that is not a step of call `w` says nothing new about it. -/
theorem CallInv.frame (hinv : CallInv h w c) {a : Action} (ha : ∀ b, a ≠ .act w b) :
    CallInv (h ++ [a]) w c := by
  have hmem : ∀ b, .act w b ∈ h ++ [a] ↔ .act w b ∈ h := by
    intro b
    simp [(ha b).symm]
  have hdirect : (h ++ [a]).countP (isDirectSuccess w) = h.countP (isDirectSuccess w) := by
    apply directSuccess_concat_other
    unfold isDirectSuccess
    split
    next w' q =>
      have hw : w' ≠ w := fun hw => ha (.targetExecute q .ok) (by rw [hw])
      exact beq_eq_false_iff_ne.mpr hw
    · rfl
  have hstage : stageInv (h ++ [a]) w c ↔ stageInv h w c := by
    unfold stageInv Unshadowed Enqueued Filtered SourceAccepted
    simp only [hmem, hdirect]
  refine ⟨?_, ?_, ?_, ?_, hstage.mpr hinv.stage⟩
  · intro cql o hs
    exact hinv.sourceText cql o ((hmem _).mp hs)
  · intro cql o ht
    exact hinv.targetText cql o ((hmem _).mp ht)
  · rw [hdirect]; exact hinv.once
  · intro he
    rw [hdirect]; exact hinv.either ((hmem _).mp he)

/-- A call that has just started. -/
theorem CallInv.start (hnew : ∀ b, PoolAction.act w b ∉ h) (k : WriteRequest) :
    CallInv h w { cql := k.cql, keyspace := k.keyspace } := by
  have hdirect : h.countP (isDirectSuccess w) = 0 := by
    rw [List.countP_eq_zero]
    intro a ha hd
    unfold isDirectSuccess at hd
    split at hd
    next w' q => exact hnew _ (beq_iff_eq.mp hd ▸ ha)
    · exact Bool.false_ne_true hd
  refine ⟨?_, ?_, ?_, ?_, ?_⟩
  · intro cql o hs
    exact absurd hs (hnew _)
  · intro cql o ht
    exact absurd ht (hnew _)
  · omega
  · intro _
    exact hdirect
  · exact ⟨hdirect, hnew _⟩

/-! ## A step of the call itself -/

theorem isDirectSuccess_act {b : CallAction} :
    isDirectSuccess w (.act w b) ↔ ∃ q, b = .targetExecute q .ok := by
  unfold isDirectSuccess
  split
  next w' q heq =>
    have hb := (PoolAction.act.inj heq).2
    simp [hb, (PoolAction.act.inj heq).1]
  next hne =>
    constructor
    · intro hf
      exact absurd hf Bool.false_ne_true
    · rintro ⟨q, rfl⟩
      exact absurd rfl (hne w q)

/-- A step that executes on the target, or enqueues, finds nothing done so far. -/
theorem CallInv.own (hinv : CallInv h w c) {b : CallAction} (hcql : c'.cql = c.cql)
    (hsrc : ∀ q o, b = .sourceExecute q o → q = c.cql)
    (htgt : ∀ q o, b = .targetExecute q o → q = c.cql)
    (hfirst : (∃ q, b = .targetExecute q .ok) ∨ b = .enqueue → Unshadowed h w)
    (hstage : stageInv (h ++ [PoolAction.act w b]) w c') : CallInv (h ++ [PoolAction.act w b]) w c' := by
  have hmem : ∀ b', PoolAction.act w b' ∈ h ++ [PoolAction.act w b] ↔ .act w b' ∈ h ∨ b' = b := by
    intro b'
    simp
  refine ⟨?_, ?_, ?_, ?_, hstage⟩
  · intro q o hs
    rw [hcql]
    rcases (hmem _).mp hs with hs | hs
    · exact hinv.sourceText q o hs
    · exact hsrc q o hs.symm
  · intro q o ht
    rw [hcql]
    rcases (hmem _).mp ht with ht | ht
    · exact hinv.targetText q o ht
    · exact htgt q o ht.symm
  · by_cases hd : isDirectSuccess w (.act w b)
    · have hu := hfirst (Or.inl (isDirectSuccess_act.mp hd))
      rw [List.countP_append, List.countP_singleton, if_pos hd, hu.1]
    · rw [directSuccess_concat_other (Bool.not_eq_true _ ▸ hd)]
      exact hinv.once
  · intro he
    by_cases hd : isDirectSuccess w (.act w b)
    · -- the step executes on the target, so the call has not enqueued before or now
      have hex := isDirectSuccess_act.mp hd
      rcases (hmem _).mp he with he | he
      · exact absurd he (hfirst (Or.inl hex)).2
      · obtain ⟨q, hq⟩ := hex
        rw [← he] at hq
        cases hq
    · rw [directSuccess_concat_other (Bool.not_eq_true _ ▸ hd)]
      rcases (hmem _).mp he with he | he
      · exact hinv.either he
      · exact (hfirst (Or.inr he.symm)).1

theorem unshadowed_concat {b : CallAction} (hu : Unshadowed h w)
    (htgt : ¬ ∃ q, b = .targetExecute q .ok) (henq : b ≠ .enqueue) :
    Unshadowed (h ++ [PoolAction.act w b]) w := by
  have hdirect : isDirectSuccess w (.act w b) = false := by
    rw [← Bool.not_eq_true, isDirectSuccess_act]
    exact htgt
  refine ⟨(directSuccess_concat_other hdirect).trans hu.1, ?_⟩
  simpa [Enqueued, henq.symm] using hu.2

/-- Every step of a call keeps what the history says about it. -/
theorem CallInv.step (hinv : CallInv h w c) {b : CallAction}
    (hstep : callStep generateId w m c b = some (m', c')) : CallInv (h ++ [PoolAction.act w b]) w c' := by
  have hst := hinv.stage
  have hlast : PoolAction.act w b ∈ h ++ [PoolAction.act w b] := by simp
  unfold stageInv at hst
  have hcql := (callStep_request hstep).1
  cases b with
  | countTotal =>
    obtain ⟨hpc, _, hc⟩ := callStep_countTotal hstep
    rw [hpc] at hst
    refine hinv.own hcql (by simp) (by simp) (by simp) ?_
    rw [hc]
    exact unshadowed_concat hst (by simp) (by simp)
  | isEnabled =>
    obtain ⟨hpc, _, hc⟩ := callStep_isEnabled hstep
    rw [hpc] at hst
    refine hinv.own hcql (by simp) (by simp) (by simp) ?_
    have hu : Unshadowed (h ++ [(.act w .isEnabled : Action)]) w :=
      unshadowed_concat hst (by simp) (by simp)
    rw [hc]
    unfold stageInv
    cases m.filterEnabled <;> exact hu
  | shouldSkipTable =>
    obtain ⟨hpc, _, hc⟩ := callStep_shouldSkipTable hstep
    rw [hpc] at hst
    refine hinv.own hcql (by simp) (by simp) (by simp) ?_
    have hu : Unshadowed (h ++ [(.act w .shouldSkipTable : Action)]) w :=
      unshadowed_concat hst (by simp) (by simp)
    rw [hc]
    unfold stageInv
    by_cases hskip : (m.shouldSkipTable c.keyspace).1 = .skipTable <;>
      simpa only [hskip, if_true, if_false] using hu
  | countFiltered =>
    obtain ⟨hpc, _, hc⟩ := callStep_countFiltered hstep
    rw [hpc] at hst
    refine hinv.own hcql (by simp) (by simp) (by simp) ?_
    rw [hc]
    exact ⟨unshadowed_concat hst (by simp) (by simp), hlast⟩
  -- an execute carries the statement of the call: every other field of the invariant is `own`'s
  | sourceExecute q o =>
    obtain ⟨hq, _, hor⟩ := callStep_sourceExecute hstep
    have hsrc : ∀ q' o', CallAction.sourceExecute q o = .sourceExecute q' o' → q' = c.cql := by
      intro q' o' heq
      rw [← (CallAction.sourceExecute.inj heq).1, hq]
    refine hinv.own hcql hsrc (by simp) (by simp) ?_
    rcases hor with ⟨hpc, hc⟩ | ⟨hpc, hc⟩
    · -- `write_source_only`: the call was counted as filtered before
      rw [hpc] at hst
      rw [hc]
      intro _ hnf
      exact absurd (List.mem_append_left _ hst.2) hnf
    · rw [hpc] at hst
      have hu : Unshadowed (h ++ [(.act w (.sourceExecute q o) : Action)]) w :=
        unshadowed_concat hst (by simp) (by simp)
      rw [hc]
      cases o with
      | ok => exact ⟨hu, hq ▸ hlast⟩
      | syncError e =>
        -- a refused source execute is an answer that is not ok, of which nothing is claimed
        intro hok
        exact absurd hok Bool.false_ne_true
  | targetExecute q o =>
    obtain ⟨hq, hpc, _, hc⟩ := callStep_targetExecute hstep
    have htgt : ∀ q' o', CallAction.targetExecute q o = .targetExecute q' o' → q' = c.cql := by
      intro q' o' heq
      rw [← (CallAction.targetExecute.inj heq).1, hq]
    rw [hpc] at hst
    refine hinv.own hcql (by simp) htgt (fun _ => hst.1) ?_
    rw [hc]
    cases o with
    | ok =>
      intro _ _
      -- the one execute that counts as the direct success of the call
      left
      rw [List.countP_append, hst.1.1, List.countP_singleton, if_pos (isDirectSuccess_act.mpr ⟨q, rfl⟩)]
    | syncError e =>
      exact ⟨unshadowed_concat hst.1 (by simp) (by simp), List.mem_append_left _ hst.2⟩
  | enqueue =>
    obtain ⟨e, hpc, _, hc⟩ := callStep_enqueue hstep
    rw [hpc] at hst
    refine hinv.own hcql (by simp) (by simp) (fun _ => hst.1) ?_
    rw [hc]
    intro _ _
    exact Or.inr hlast
  | finish =>
    obtain ⟨r, hpc, _, hc⟩ := callStep_finish hstep
    rw [hpc] at hst
    refine hinv.own hcql (by simp) (by simp) (by simp) ?_
    rw [hc]
    intro hok hnf
    have hdirect : isDirectSuccess w (.act w .finish) = false := rfl
    rw [directSuccess_concat_other hdirect]
    -- the answer was ready before this step, and the step adds nothing to the history of the write
    rcases hst hok fun hf => hnf (List.mem_append_left _ hf) with hd | he
    · exact Or.inl hd
    · exact Or.inr (List.mem_append_left _ he)

/-! ## The service as a whole -/

structure ShadowInv (generateId : ℕ → String) (h : List Action) (m : Writer) : Prop where
  queue : QueueInv generateId h m
  abandoned : m.stats.abandonedWrites = h.countP countsAbandoned
  sourced : EachStep (Sourced generateId) h

theorem abandonedWrites_callStep {b : CallAction}
    (hstep : callStep generateId w m c b = some (m', c')) :
    m'.stats.abandonedWrites = m.stats.abandonedWrites := by
  cases callStep_countMove hstep with
  | total _ _ hstats => rw [hstats]
  | filtered _ _ hstats => rw [hstats]
  | result _ _ _ hstats => rcases hstats with hstats | hstats <;> rw [hstats]
  | stay _ _ _ hstats => rw [hstats]

theorem abandonedWrites_retryStep {a : RetryAction} (hstep : retryStep maxRetries m a = some m') :
    m'.stats.abandonedWrites =
      m.stats.abandonedWrites + if countsAbandoned (.env (.retry a)) then 1 else 0 := by
  cases a with
  | snapshot order => rw [(retryStep_snapshot hstep).2.2.2]; rfl
  | abandon id =>
    obtain ⟨r, fw, rest, _, _, _, _, hm⟩ := retryStep_abandon hstep
    rw [hm]; rfl
  | keep id =>
    obtain ⟨r, fw, rest, _, _, _, _, hm⟩ := retryStep_keep hstep
    rw [hm]; rfl
  | isEnabled =>
    obtain ⟨r, _, _, hm⟩ := retryStep_isEnabled hstep
    rw [hm]; rfl
  | drop id =>
    obtain ⟨r, fw, rest, _, _, _, _, hm⟩ := retryStep_drop hstep
    rw [hm, Writer.stats_shouldSkipTable]; rfl
  | pass id =>
    obtain ⟨r, fw, rest, _, _, _, _, hm⟩ := retryStep_pass hstep
    rw [hm, Writer.stats_shouldSkipTable]; rfl
  | execute id cql o =>
    obtain ⟨r, fw, rest, _, _, _, _, hm⟩ := retryStep_execute hstep
    rcases hm with ⟨_, hm⟩ | ⟨e, _, hm⟩ <;> rw [hm] <;> rfl
  | apply =>
    obtain ⟨r, _, _, hm⟩ := retryStep_apply hstep
    rw [hm]; rfl

/-- A step of a call keeps the global part, given what is known about the call. -/
theorem ShadowInv.call (hinv : ShadowInv generateId h m) (hgen : Function.Injective generateId)
    (hc : CallInv h w c) {b : CallAction} (hstep : callStep generateId w m c b = some (m', c')) :
    ShadowInv generateId (h ++ [PoolAction.act w b]) m' := by
  have hst := hc.stage
  unfold stageInv at hst
  refine ⟨?_, ?_, ?_⟩
  · by_cases hb : b = .enqueue
    · subst hb
      obtain ⟨e, hpc, hm, _⟩ := callStep_enqueue hstep
      rw [hpc] at hst
      rw [hm]
      exact hinv.queue.enqueue hgen hst.1.2 hst.2
    · obtain ⟨hqueue, hretry⟩ := callStep_queue hstep hb
      refine hinv.queue.frame hqueue hretry rfl ?_
      intro w' heq
      exact hb (PoolAction.act.inj heq).2
  · rw [abandonedWrites_callStep hstep, hinv.abandoned, List.countP_append, List.countP_singleton]
    rfl
  · refine hinv.sourced.concat ?_
    cases b with
    | targetExecute q o =>
      obtain ⟨hq, hpc, _, _⟩ := callStep_targetExecute hstep
      rw [hpc] at hst
      show SourceAccepted h w q
      rw [hq]
      exact hst.2
    | _ => trivial

/-- A step of the retry thread or a reload keeps the global part. -/
theorem ShadowInv.env (hinv : ShadowInv generateId h m) (hgen : Function.Injective generateId)
    {e : EnvAction} (hstep : envStep maxRetries m e = some m') :
    ShadowInv generateId (h ++ [PoolAction.env e]) m' := by
  cases e with
  | reload =>
    have hm := Option.some.inj hstep
    subst hm
    refine ⟨hinv.queue.frame rfl rfl rfl (by simp), ?_, hinv.sourced.concat trivial⟩
    rw [hinv.abandoned, List.countP_append, List.countP_singleton]
    rfl
  | retry a =>
    refine ⟨hinv.queue.retry hgen (retryStep_move hstep), ?_, hinv.sourced.concat ?_⟩
    · rw [abandonedWrites_retryStep hstep, hinv.abandoned, List.countP_append,
        List.countP_singleton]
    · cases a with
      | execute id q o =>
        have hret : retryStep maxRetries m (.execute id q o) = some m' := hstep
        obtain ⟨r, fw, rest, hr, _, htodo, hq, _⟩ := retryStep_execute hret
        have hcopy := Writer.hasCopy_of_head hr htodo
        obtain ⟨w, hid, _, hsrc⟩ := hinv.queue.owned id fw hcopy
        exact ⟨w, hid, hq ▸ hsrc⟩
      | _ => trivial

/-- The invariant of every run, for any number of calls and any interleaving. -/
theorem shadowInv_of_runs (hgen : Function.Injective generateId)
    {filter : Option BlacklistFilterGovernor} {p : State}
    (hrun : runs generateId maxRetries filter h = some p) :
    Pool.Holds (ShadowInv generateId) (fun h _ w c => CallInv h w c) h p := by
  refine Pool.invariant_of_meets ?_ ?_ ?_ ?_ h p (Pool.meets_true h) hrun
  · exact ⟨queueInv_init filter, rfl, eachStep_nil _⟩
  · intro h p k hp _ hnew
    refine ⟨⟨hp.1.queue.frame rfl rfl rfl (by simp), ?_, hp.1.sourced.concat trivial⟩, ?_, ?_⟩
    · rw [hp.1.abandoned, List.countP_append, List.countP_singleton]
      rfl
    · refine CallInv.start ?_ k
      intro b hb
      simp only [List.mem_append, List.mem_singleton, reduceCtorEq, or_false] at hb
      exact hnew b hb
    · intro j u hu
      exact hu.frame (by simp)
  · intro h p i b c m' c' hp _ hc hstep
    have hlocal := hp.2 i c hc
    refine ⟨hp.1.call hgen hlocal hstep, hlocal.step hstep, ?_⟩
    intro j u hj hu
    refine hu.frame ?_
    intro b' heq
    exact hj (PoolAction.act.inj heq).1.symm
  · intro h p e m' hp _ hstep
    refine ⟨hp.1.env hgen hstep, ?_⟩
    intro j u hu
    exact hu.frame (by simp)

/-! ## Fates and counts -/

theorem isRetrySuccess_iff {id : String} {a : Action} :
    isRetrySuccess id a ↔ ∃ q, a = .env (.retry (.execute id q .ok)) := by
  unfold isRetrySuccess
  split
  next id' q => simp
  next hne =>
    constructor
    · intro hf
      exact absurd hf Bool.false_ne_true
    · rintro ⟨q, rfl⟩
      exact absurd rfl (hne id q)

theorem isAbandon_iff {id : String} {a : Action} :
    isAbandon id a ↔ a = .env (.retry (.abandon id)) := by
  unfold isAbandon
  split
  next id' => simp
  next hne =>
    constructor
    · intro hf
      exact absurd hf Bool.false_ne_true
    · rintro rfl
      exact absurd rfl (hne id)

theorem isDrop_iff {id : String} {a : Action} :
    isDrop id a ↔ a = .env (.retry (.drop id)) := by
  unfold isDrop
  split
  next id' => simp
  next hne =>
    constructor
    · intro hf
      exact absurd hf Bool.false_ne_true
    · rintro rfl
      exact absurd rfl (hne id)

theorem hasFate_abandoned {cql : String} :
    HasFate generateId h m w cql .abandoned ↔ 0 < h.countP (isAbandon (generateId w)) := by
  rw [List.countP_pos_iff]
  simp [HasFate, isAbandon_iff]

theorem hasFate_dropped {cql : String} :
    HasFate generateId h m w cql .dropped ↔ 0 < h.countP (isDrop (generateId w)) := by
  rw [List.countP_pos_iff]
  simp [HasFate, isDrop_iff]

/-- The statement the target executed for call `w` is the statement of the call. -/
theorem hasFate_executed (hgen : Function.Injective generateId) (hc : CallInv h w c)
    (hs : EachStep (Sourced generateId) h) :
    HasFate generateId h m w c.cql .executed ↔ 0 < targetSuccesses generateId h w := by
  rw [targetSuccesses, Nat.add_pos_iff_pos_or_pos, List.countP_pos_iff, List.countP_pos_iff]
  constructor
  · rintro (hd | hr)
    · exact Or.inl ⟨_, hd, isDirectSuccess_act.mpr ⟨_, rfl⟩⟩
    · exact Or.inr ⟨_, hr, isRetrySuccess_iff.mpr ⟨_, rfl⟩⟩
  · rintro (⟨a, ha, hd⟩ | ⟨a, ha, hr⟩)
    · left
      unfold isDirectSuccess at hd
      split at hd
      next w' q =>
        have hw : w' = w := beq_iff_eq.mp hd
        subst hw
        exact hc.targetText q .ok ha ▸ ha
      · exact absurd hd Bool.false_ne_true
    · right
      obtain ⟨q, hq⟩ := isRetrySuccess_iff.mp hr
      subst hq
      obtain ⟨pre, post, hsplit⟩ := List.append_of_mem ha
      obtain ⟨w', hid, hsrc⟩ := hs pre _ post hsplit
      have hw : w' = w := hgen hid
      subst hw
      have hmem : PoolAction.act w' (.sourceExecute q .ok) ∈ h :=
        hsplit ▸ List.mem_append_left _ hsrc
      exact hc.sourceText q .ok hmem ▸ ha

/-- A queued write is queued with the statement of its call. -/
theorem hasFate_queued (hgen : Function.Injective generateId) (hc : CallInv h w c)
    (hq : QueueInv generateId h m) :
    HasFate generateId h m w c.cql .queued ↔ generateId w ∈ m.failedWrites := by
  rw [← AList.lookup_isSome, Option.isSome_iff_exists]
  constructor
  · rintro ⟨fw, hfw, _⟩
    exact ⟨fw, hfw⟩
  · rintro ⟨fw, hfw⟩
    obtain ⟨w', hid, _, hsrc⟩ := hq.owned _ fw (Or.inl hfw)
    have hw : w' = w := hgen hid
    subst hw
    exact ⟨fw, hfw, hc.sourceText _ _ hsrc⟩

/-- How often each fate has befallen the shadow write of call `w`. -/
def tally (generateId : ℕ → String) (h : List Action) (m : Writer) (w : ℕ) : Fate → ℕ
  | .executed => targetSuccesses generateId h w
  | .queued => if generateId w ∈ m.failedWrites then 1 else 0
  | .abandoned => h.countP (isAbandon (generateId w))
  | .dropped => h.countP (isDrop (generateId w))

theorem hasFate_iff_tally (hgen : Function.Injective generateId) (hc : CallInv h w c)
    (hinv : ShadowInv generateId h m) (f : Fate) :
    HasFate generateId h m w c.cql f ↔ 0 < tally generateId h m w f := by
  cases f with
  | executed => exact hasFate_executed hgen hc hinv.sourced
  | queued =>
    rw [hasFate_queued hgen hc hinv.queue, tally]
    split <;> simp [*]
  | abandoned => exact hasFate_abandoned
  | dropped => exact hasFate_dropped

/-- Nothing is disposed of twice, and nothing both by its call and by the retry thread. -/
theorem targetSuccesses_le_one (hc : CallInv h w c) (hq : QueueInv generateId h m) :
    targetSuccesses generateId h w ≤ 1 := by
  have hclosings := closings_eq h (generateId w)
  have honce := hc.once
  unfold targetSuccesses
  by_cases he : Enqueued h w
  · have hdirect := hc.either he
    by_cases hp : m.Pending (generateId w)
    · have hopen := hq.opened w fun _ => hp
      omega
    · have hsettled := hq.settled w he hp
      omega
  · have hopen := hq.opened w fun he' => absurd he' he
    omega

/-- Once a write that was not filtered has its source execute behind it, its tallies add
up to one, or to two while a cycle has dealt with the entry and not yet erased it. -/
theorem tally_bounds (hgen : Function.Injective generateId) (hc : CallInv h w c)
    (hinv : ShadowInv generateId h m)
    (hdone : h.countP (isDirectSuccess w) = 1 ∨ Enqueued h w) :
    1 ≤ tally generateId h m w .executed + tally generateId h m w .queued +
        tally generateId h m w .abandoned + tally generateId h m w .dropped ∧
      (m.retry = none →
        tally generateId h m w .executed + tally generateId h m w .queued +
          tally generateId h m w .abandoned + tally generateId h m w .dropped = 1) := by
  have hclosings := closings_eq h (generateId w)
  simp only [tally, targetSuccesses]
  by_cases he : Enqueued h w
  · have hdirect := hc.either he
    by_cases hp : m.Pending (generateId w)
    · have hopen := hinv.queue.opened w fun _ => hp
      rw [if_pos hp.1]
      omega
    · have hsettled := hinv.queue.settled w he hp
      refine ⟨by omega, fun hidle => ?_⟩
      -- no cycle in progress: what is not pending is not in the map
      have hgone : generateId w ∉ m.failedWrites := by
        intro hin
        refine hp ⟨hin, ?_⟩
        simp [Writer.toRemove, hidle]
      rw [if_neg hgone]
      omega
  · have hopen := hinv.queue.opened w fun he' => absurd he' he
    have hgone : generateId w ∉ m.failedWrites :=
      AList.lookup_eq_none.mp (hinv.queue.fresh hgen he)
    have hdirect := hdone.resolve_right he
    rw [if_neg hgone]
    omega

theorem exists_pos_of_sum {t : Fate → ℕ}
    (hsum : 1 ≤ t .executed + t .queued + t .abandoned + t .dropped) : ∃ f, 0 < t f := by
  by_contra hnone
  have hzero : ∀ f, t f = 0 := by
    intro f
    have hf : ¬ 0 < t f := fun hf => hnone ⟨f, hf⟩
    omega
  rw [hzero, hzero, hzero, hzero] at hsum
  omega

theorem existsUnique_pos_of_sum {t : Fate → ℕ}
    (hsum : t .executed + t .queued + t .abandoned + t .dropped = 1) : ∃! f, 0 < t f := by
  obtain ⟨f, hf⟩ := exists_pos_of_sum (Nat.le_of_eq hsum.symm)
  refine ⟨f, hf, ?_⟩
  intro g hg
  cases f <;> cases g <;> first | rfl | omega

/-! ## The result -/

/-- For any number of calls and any interleaving with the retry thread and with reloads:
a write that returned with `source_ok` and was not filtered is executed on the target,
queued with its own statement, abandoned or dropped; exactly one of these between retry
cycles. `abandoned_writes` counts the abandoned ones, no write is executed twice on the
target, and the target executes nothing that the source had not accepted before. -/
theorem shadow_write_accounted (generateId : ℕ → String) (maxRetries : UInt32)
    (filter : Option BlacklistFilterGovernor) (h : List Action) (p : State)
    (hgen : Function.Injective generateId)
    (hrun : runs generateId maxRetries filter h = some p) :
    (∀ w c r, p.threads[w]? = some c → c.pc = .returned r → r.sourceOk → ¬ Filtered h w →
      (∃ f, HasFate generateId h p.mem w c.cql f) ∧
        (p.mem.retry = none → ∃! f, HasFate generateId h p.mem w c.cql f)) ∧
    p.mem.stats.abandonedWrites = h.countP countsAbandoned ∧
    (∀ w, targetSuccesses generateId h w ≤ 1) ∧
    (∀ pre a post cql o, h = pre ++ a :: post → clusterCall a = some (.target cql o) →
      ∃ w, SourceAccepted pre w cql) := by
  have hinv := shadowInv_of_runs hgen hrun
  refine ⟨?_, hinv.1.abandoned, ?_, ?_⟩
  · intro w c r hw hpc hok hnf
    have hc : CallInv h w c := hinv.2 w c hw
    have hdone : h.countP (isDirectSuccess w) = 1 ∨ Enqueued h w := by
      have hst := hc.stage
      rw [stageInv, hpc] at hst
      exact hst hok hnf
    obtain ⟨hsome, hone⟩ := tally_bounds hgen hc hinv.1 hdone
    simp only [hasFate_iff_tally hgen hc hinv.1]
    exact ⟨exists_pos_of_sum hsome, fun hidle => existsUnique_pos_of_sum (hone hidle)⟩
  · intro w
    rcases Nat.lt_or_ge w p.threads.length with hw | hw
    · exact targetSuccesses_le_one (hinv.2 w _ (List.getElem?_eq_getElem hw)) hinv.1.queue
    · -- a call that has not started has done nothing
      have hnew : ∀ b, PoolAction.act w b ∉ h := by
        intro b hb
        have hlt := Pool.lt_length_of_mem hrun hb
        omega
      have hc : CallInv h w { cql := "", keyspace := "" } := CallInv.start hnew ⟨"", ""⟩
      exact targetSuccesses_le_one hc hinv.1.queue
  · intro pre a post cql o hsplit hcall
    have hsrc := hinv.1.sourced pre a post hsplit
    unfold clusterCall at hcall
    split at hcall
    · simp at hcall
    next w q o' =>
      simp only [Option.some.injEq, ClusterCall.target.injEq] at hcall
      exact ⟨w, hcall.1 ▸ hsrc⟩
    next id q o' =>
      simp only [Option.some.injEq, ClusterCall.target.injEq] at hcall
      obtain ⟨w, _, hw⟩ := hsrc
      exact ⟨w, hcall.1 ▸ hw⟩
    · simp at hcall

/-- Ids as long as the number of the call. -/
def unaryId (w : ℕ) : String := String.ofList (List.replicate w 'x')

theorem unaryId_injective : Function.Injective unaryId := by
  intro w w' heq
  have hlist : List.replicate w 'x' = List.replicate w' 'x' := String.ofList_injective heq
  have hlen := congrArg List.length hlist
  rwa [List.length_replicate, List.length_replicate] at hlen

/-- A shadow write that times out, is queued, and is executed by the next retry cycle. -/
def retriedOnce : List Action :=
  [.spawn ⟨"INSERT INTO ks.t (a) VALUES (1)", "ks.t"⟩, .act 0 .countTotal, .act 0 .isEnabled,
    .act 0 (.sourceExecute "INSERT INTO ks.t (a) VALUES (1)" .ok),
    .act 0 (.targetExecute "INSERT INTO ks.t (a) VALUES (1)" (.syncError "timeout")),
    .act 0 .enqueue, .act 0 .finish, .env (.retry (.snapshot [""])), .env (.retry (.keep "")),
    .env (.retry .isEnabled),
    .env (.retry (.execute "" "INSERT INTO ks.t (a) VALUES (1)" .ok)), .env (.retry .apply)]

/-- The state `retriedOnce` leads to. -/
def retriedOnceState : State where
  mem := { filter := none, stats := { totalWrites := 1, successfulWrites := 1, retriedWrites := 1 } }
  threads := [{ cql := "INSERT INTO ks.t (a) VALUES (1)", keyspace := "ks.t",
                pc := .returned (Writer.shadowFailed "timeout") }]

theorem shadow_write_accounted_retriedOnce :
    runs unaryId 3 none retriedOnce = some retriedOnceState ∧
      ¬ Filtered retriedOnce 0 ∧
      (∃! f, HasFate unaryId retriedOnce retriedOnceState.mem 0
        "INSERT INTO ks.t (a) VALUES (1)" f) ∧
      targetSuccesses unaryId retriedOnce 0 ≤ 1 := by
  have hrun : runs unaryId 3 none retriedOnce = some retriedOnceState := by rfl
  have hnf : ¬ Filtered retriedOnce 0 := by unfold Filtered; decide
  have hall := shadow_write_accounted unaryId 3 none retriedOnce retriedOnceState
    unaryId_injective hrun
  exact ⟨hrun, hnf, (hall.1 0 _ _ rfl rfl rfl hnf).2 rfl, hall.2.2.1 0⟩

end DualWriter
end ScyllaClusterSync
