import ScyllaClusterSync.DualWriter.AttemptCounter

/-!
# Retries are bounded and counted

`AttemptInv` is about the retry thread. The original attempt is the call's own: a call that
enqueues has executed on the target once, and failed (`failureInv`). Together they give what
`attempts` counts and the bound on executions and on retry cycles: `retries_bounded`.
-/

namespace ScyllaClusterSync
namespace DualWriter

open Svckit Lib

variable {generateId : ℕ → String} {maxRetries : UInt32} {h : List Action} {m m' : Writer}
  {w : ℕ} {c c' : WriteCall}

/-! ## The original attempt -/

/-- How often the execution of call `w` on the target has failed, by where the call stands. -/
def failureInv (h : List Action) (w : ℕ) (c : WriteCall) : Prop :=
  match c.pc with
  | .enqueue _ => h.countP (isDirectFailure w) = 1
  | .finish _ | .returned _ => Enqueued h w → h.countP (isDirectFailure w) = 1
  | _ => h.countP (isDirectFailure w) = 0

theorem directFailure_concat_of_not {a : Action} (ha : ¬ isDirectFailure w a) :
    (h ++ [a]).countP (isDirectFailure w) = h.countP (isDirectFailure w) := by
  rw [List.countP_append, List.countP_singleton, if_neg ha]
  rfl

theorem enqueued_concat_of_ne {a : Action} (ha : a ≠ .act w .enqueue) :
    Enqueued (h ++ [a]) w ↔ Enqueued h w := by
  simp [Enqueued, ha.symm]

/-- Only its own steps change what is known about a call. -/
theorem failureInv_frame (hinv : failureInv h w c) {a : Action} (ha : ∀ b, a ≠ .act w b) :
    failureInv (h ++ [a]) w c := by
  have hnot : ¬ isDirectFailure w a := by
    unfold isDirectFailure
    split
    next w' q e =>
      intro heq
      exact ha (.targetExecute q (.syncError e)) (by rw [beq_iff_eq.mp heq])
    · exact Bool.false_ne_true
  unfold failureInv at hinv ⊢
  rw [directFailure_concat_of_not hnot, enqueued_concat_of_ne (ha _)]
  exact hinv

/-- A call that has just started has not executed anything. -/
theorem failureInv_start (hnew : ∀ b, PoolAction.act w b ∉ h) (k : WriteRequest) :
    failureInv h w { cql := k.cql, keyspace := k.keyspace } := by
  show h.countP (isDirectFailure w) = 0
  rw [List.countP_eq_zero]
  intro a ha hd
  unfold isDirectFailure at hd
  split at hd
  next w' q e => exact hnew _ (beq_iff_eq.mp hd ▸ ha)
  · exact Bool.false_ne_true hd

/-- A call executes on the target at most once, and enqueues only after a failure. -/
theorem failureInv_step (hc : CallInv h w c) (hinv : failureInv h w c) {b : CallAction}
    (hstep : callStep generateId w m c b = some (m', c')) :
    failureInv (h ++ [PoolAction.act w b]) w c' := by
  have hst := hc.stage
  unfold stageInv at hst
  unfold failureInv at hinv
  have hsame : (∀ q o, b ≠ .targetExecute q o) →
      (h ++ [PoolAction.act w b]).countP (isDirectFailure w) = h.countP (isDirectFailure w) := by
    intro hb
    refine directFailure_concat_of_not ?_
    unfold isDirectFailure
    split
    next w' q e heq => exact absurd (PoolAction.act.inj heq).2 (hb q (.syncError e))
    · exact Bool.false_ne_true
  have henq : b ≠ .enqueue → Enqueued (h ++ [PoolAction.act w b]) w → Enqueued h w := by
    intro hb he
    exact (enqueued_concat_of_ne (by simp [hb])).mp he
  -- before the target execute the count is 0; after it only the enqueue and the return are left
  cases b with
  | countTotal =>
    obtain ⟨hpc, _, hc'⟩ := callStep_countTotal hstep
    rw [hpc] at hinv
    rw [hc']
    exact (hsame (by simp)).trans hinv
  | isEnabled =>
    obtain ⟨hpc, _, hc'⟩ := callStep_isEnabled hstep
    rw [hpc] at hinv
    rw [hc', failureInv, hsame (by simp)]
    cases m.filterEnabled <;> exact hinv
  | shouldSkipTable =>
    obtain ⟨hpc, _, hc'⟩ := callStep_shouldSkipTable hstep
    rw [hpc] at hinv
    rw [hc', failureInv, hsame (by simp)]
    by_cases hskip : (m.shouldSkipTable c.keyspace).1 = .skipTable <;>
      simpa only [hskip, if_true, if_false] using hinv
  | countFiltered =>
    obtain ⟨hpc, _, hc'⟩ := callStep_countFiltered hstep
    rw [hpc] at hinv
    rw [hc']
    exact (hsame (by simp)).trans hinv
  | sourceExecute q o =>
    obtain ⟨_, _, hor⟩ := callStep_sourceExecute hstep
    rcases hor with ⟨hpc, hc'⟩ | ⟨hpc, hc'⟩
    · -- `write_source_only` is not followed by an enqueue
      rw [hpc] at hst
      rw [hc']
      intro he
      exact absurd (henq (by simp) he) hst.1.2
    · rw [hpc] at hst hinv
      rw [hc']
      cases o with
      | ok => exact (hsame (by simp)).trans hinv
      | syncError e =>
        intro he
        exact absurd (henq (by simp) he) hst.2
  | targetExecute q o =>
    obtain ⟨_, hpc, _, hc'⟩ := callStep_targetExecute hstep
    rw [hpc] at hst hinv
    rw [hc']
    cases o with
    | ok =>
      intro he
      exact absurd (henq (by simp) he) hst.1.2
    | syncError e =>
      show (h ++ [(.act w (.targetExecute q (.syncError e)) : Action)]).countP (isDirectFailure w) = 1
      rw [List.countP_append, hinv]
      simp [isDirectFailure]
  | enqueue =>
    obtain ⟨e, hpc, _, hc'⟩ := callStep_enqueue hstep
    rw [hpc] at hinv
    rw [hc']
    intro _
    rw [hsame (by simp)]
    exact hinv
  | finish =>
    obtain ⟨r, hpc, _, hc'⟩ := callStep_finish hstep
    rw [hpc] at hinv
    rw [hc']
    intro he
    rw [hsame (by simp)]
    exact hinv (henq (by simp) he)

theorem failureInv_of_runs {filter : Option BlacklistFilterGovernor} {p : State}
    (hrun : runs generateId maxRetries filter h = some p) (hw : p.threads[w]? = some c) :
    CallInv h w c ∧ failureInv h w c := by
  have hall : Pool.Holds (fun _ _ => True) (fun h _ w c => CallInv h w c ∧ failureInv h w c) h p := by
    refine Pool.invariant_of_meets trivial ?_ ?_ ?_ h p (Pool.meets_true h) hrun
    · intro h p k _ _ hnew
      have hnew' : ∀ b, PoolAction.act p.threads.length b ∉ h ++ [(.spawn k : Action)] := by
        intro b hb
        simp only [List.mem_append, List.mem_singleton, reduceCtorEq, or_false] at hb
        exact hnew b hb
      refine ⟨trivial, ⟨CallInv.start hnew' k, failureInv_start hnew' k⟩, ?_⟩
      intro j u hu
      exact ⟨hu.1.frame (by simp), failureInv_frame hu.2 (by simp)⟩
    · intro h p i b c m' c' hp _ hc hstep
      have hlocal := hp.2 i c hc
      refine ⟨trivial, ⟨hlocal.1.step hstep, failureInv_step hlocal.1 hlocal.2 hstep⟩, ?_⟩
      intro j u hj hu
      have hother : ∀ b', PoolAction.act i b ≠ (.act j b' : Action) := by
        intro b' heq
        exact hj (PoolAction.act.inj heq).1.symm
      exact ⟨hu.1.frame hother, failureInv_frame hu.2 hother⟩
    · intro h p e m' _ _ _
      refine ⟨trivial, ?_⟩
      intro j u hu
      exact ⟨hu.1.frame (by simp), failureInv_frame hu.2 (by simp)⟩
  exact hall.2 w c hw

/-- A call that has enqueued is about to return or has returned. -/
theorem CallInv.pc_of_enqueued (hc : CallInv h w c) (he : Enqueued h w) :
    ∃ r, c.pc = .finish r ∨ c.pc = .returned r := by
  have hst := hc.stage
  unfold stageInv at hst
  cases hpc : c.pc with
  | finish r => exact ⟨r, Or.inl rfl⟩
  | returned r => exact ⟨r, Or.inr rfl⟩
  | sourceOnly | dualTarget | enqueue _ => rw [hpc] at hst; exact absurd he hst.1.2
  | _ => rw [hpc] at hst; exact absurd he hst.2

/-- A write that was queued has failed once by then, in its own call, and has not been
executed by it with success. -/
theorem direct_of_enqueued {filter : Option BlacklistFilterGovernor} {p : State}
    (hrun : runs generateId maxRetries filter h = some p) (he : Enqueued h w) :
    h.countP (isDirectFailure w) = 1 ∧ h.countP (isDirectSuccess w) = 0 := by
  have hlt := Pool.lt_length_of_mem hrun he
  obtain ⟨hc, hf⟩ := failureInv_of_runs hrun (List.getElem?_eq_getElem hlt)
  refine ⟨?_, hc.either he⟩
  -- the call is through with its executes
  obtain ⟨r, hpc | hpc⟩ := hc.pc_of_enqueued he
  · rw [failureInv, hpc] at hf
    exact hf he
  · rw [failureInv, hpc] at hf
    exact hf he

/-! ## Nothing is executed again after a success -/

theorem isTargetExecute_iff {a : Action} :
    isTargetExecute generateId w a ↔ (∃ q o, a = .act w (.targetExecute q o)) ∨
      ∃ q o, a = .env (.retry (.execute (generateId w) q o)) := by
  unfold isTargetExecute
  split
  next w' q o =>
    rw [beq_iff_eq]
    constructor
    · intro hw
      exact Or.inl ⟨q, o, by rw [hw]⟩
    · rintro (⟨q', o', ha⟩ | ⟨q', o', ha⟩)
      · exact (PoolAction.act.inj ha).1
      · cases ha
  next id q o =>
    rw [beq_iff_eq]
    constructor
    · intro hid
      exact Or.inr ⟨q, o, by rw [hid]⟩
    · rintro (⟨q', o', ha⟩ | ⟨q', o', ha⟩)
      · cases ha
      · injection ha with ha
        injection ha with ha
        exact (RetryAction.execute.inj ha).1
  next hact henv =>
    constructor
    · intro hf
      exact absurd hf Bool.false_ne_true
    · rintro (⟨q, o, ha⟩ | ⟨q, o, ha⟩)
      · exact absurd ha (hact _ q o)
      · exact absurd ha (henv _ q o)

/-- An execution on the target is for a write that the target has not accepted yet. -/
def Unaccepted (generateId : ℕ → String) (h : List Action) (a : Action) : Prop :=
  ∀ w, isTargetExecute generateId w a → targetSuccesses generateId h w = 0

theorem unaccepted_of_runs (hgen : Function.Injective generateId)
    {filter : Option BlacklistFilterGovernor} {p : State}
    (hrun : runs generateId maxRetries filter h = some p) :
    EachStep (Unaccepted generateId) h := by
  have hstep : ∀ h p b p', runs generateId maxRetries filter h = some p →
      EachStep (Unaccepted generateId) h →
      Pool.step (program generateId maxRetries) p b = some p' →
      EachStep (Unaccepted generateId) (h ++ [b]) := by
    intro h p b p' hrun hall hstep
    refine hall.concat ?_
    intro w hexec
    have hshadow := shadowInv_of_runs hgen hrun
    have hclosings := closings_eq h (generateId w)
    unfold targetSuccesses
    rcases isTargetExecute_iff.mp hexec with ⟨q, o, hb⟩ | ⟨q, o, hb⟩
    · -- the call itself: it has executed nothing yet, and is not in the queue
      subst hb
      obtain ⟨c, m, c', hc, hthread, _⟩ := Pool.step_act hstep
      have hcall : callStep generateId w p.mem c (.targetExecute q o) = some (m, c') := hthread
      obtain ⟨_, hpc, _, _⟩ := callStep_targetExecute hcall
      have hst := (hshadow.2 w c hc).stage
      rw [stageInv, hpc] at hst
      have hopen := hshadow.1.queue.opened w fun he => absurd he hst.1.2
      have hdirect := hst.1.1
      omega
    · -- the retry thread: the entry is still open, and the call had failed
      subst hb
      obtain ⟨m, henv, _⟩ := Pool.step_env hstep
      have hret : retryStep maxRetries p.mem (.execute (generateId w) q o) = some m := henv
      obtain ⟨r, fw, rest, hr, _, htodo, _, _⟩ := retryStep_execute hret
      have hopen := hshadow.1.queue.closings_of_head hr htodo
      obtain ⟨w', hid, henq, _⟩ := hshadow.1.queue.owned _ fw (Writer.hasCopy_of_head hr htodo)
      have hw : w' = w := hgen hid
      subst hw
      have hdirect := (direct_of_enqueued hrun henq).2
      omega
  exact @run_invariant_of_run _ _ (Pool.step (program generateId maxRetries)) (initial filter)
    (fun h _ => EachStep (Unaccepted generateId) h) (eachStep_nil _) hstep h p hrun

/-! ## The result -/

/-- For every `max_retries`, any number of calls and any interleaving with the retry thread:
between cycles `attempts` of a queued write is the number of its executions that have
failed; it is executed on the target and taken into a retry cycle at most
`max 1 max_retries` times, and after that many cycles it has been retried with success,
abandoned or dropped, exactly once; no execution of it follows a successful one; and the
increment of `attempts` never wraps. -/
theorem retries_bounded (generateId : ℕ → String) (maxRetries : UInt32)
    (filter : Option BlacklistFilterGovernor) (h : List Action) (p : State)
    (hgen : Function.Injective generateId)
    (hrun : runs generateId maxRetries filter h = some p) :
    (∀ w, Enqueued h w →
      (∀ fw, p.mem.retry = none → p.mem.failedWrites.lookup (generateId w) = some fw →
        fw.attempts.toNat = targetFailures generateId h w) ∧
      targetExecutions generateId h w ≤ max 1 maxRetries.toNat ∧
      snapshots h (generateId w) ≤ max 1 maxRetries.toNat ∧
      (p.mem.retry = none → snapshots h (generateId w) = max 1 maxRetries.toNat →
        generateId w ∉ p.mem.failedWrites ∧
          h.countP (isRetrySuccess (generateId w)) + h.countP (isAbandon (generateId w)) +
            h.countP (isDrop (generateId w)) = 1)) ∧
    (∀ pre a post w, h = pre ++ a :: post → isTargetExecute generateId w a →
      targetSuccesses generateId pre w = 0) ∧
    ∀ id r fw, p.mem.headAt .execute id = some (r, fw) →
      (fw.attempts + 1).toNat = fw.attempts.toNat + 1 := by
  have hinv := attemptInv_of_runs hgen hrun
  have hqueue := (shadowInv_of_runs hgen hrun).1.queue
  refine ⟨?_, ?_, ?_⟩
  · intro w he
    obtain ⟨hfail, hsuccess⟩ := direct_of_enqueued hrun he
    have hbound := hinv.bounded (generateId w)
    have hopened := hinv.opened (generateId w)
    have hclosings := closings_eq h (generateId w)
    refine ⟨?_, ?_, ?_, ?_⟩
    · intro fw hidle hlook
      have hcount := hinv.counted _ fw ((Writer.current_iff_lookup hidle).mpr hlook)
      rw [targetFailures]
      omega
    · -- one failure in the call, and what the retries add stays below the limit
      rw [targetExecutions_eq, targetSuccesses, targetFailures]
      omega
    · -- every cycle but the last one has closed the entry or failed to retry it
      have hwait := hqueue.waiting_le_one (generateId w)
      by_cases hp : p.mem.Pending (generateId w)
      · have hopen := hqueue.opened w fun _ => hp
        omega
      · have hsettled := hqueue.settled w he hp
        have hnone := hqueue.waiting_of_not_pending hp
        omega
    · intro hidle hall
      -- after so many cycles no more failures are possible, so one of them has closed it
      have hnone : p.mem.waiting (generateId w) = 0 := by
        simp [Writer.waiting, Writer.todo, hidle]
      by_cases hp : p.mem.Pending (generateId w)
      · have hopen := hqueue.opened w fun _ => hp
        omega
      · refine ⟨?_, by rw [← hclosings]; exact hqueue.settled w he hp⟩
        intro hin
        refine hp ⟨hin, ?_⟩
        simp [Writer.toRemove, hidle]
  · intro pre a post w hsplit
    exact unaccepted_of_runs hgen hrun pre a post hsplit w
  · intro id r fw hhead
    obtain ⟨hcycle, hstage, rest, htodo⟩ := Writer.headAt_eq_some hhead
    exact toNat_succ_of_lt (hinv.checked r id fw rest hcycle (by simp [hstage]) htodo)

/-- A shadow write that fails, fails again in the first retry cycle, and is abandoned in the
second. -/
def abandonedSecond : List Action :=
  [.spawn ⟨"INSERT INTO ks.t (a) VALUES (1)", "ks.t"⟩, .act 0 .countTotal, .act 0 .isEnabled,
    .act 0 (.sourceExecute "INSERT INTO ks.t (a) VALUES (1)" .ok),
    .act 0 (.targetExecute "INSERT INTO ks.t (a) VALUES (1)" (.syncError "timeout")),
    .act 0 .enqueue, .act 0 .finish, .env (.retry (.snapshot [""])), .env (.retry (.keep "")),
    .env (.retry .isEnabled),
    .env (.retry (.execute "" "INSERT INTO ks.t (a) VALUES (1)" (.syncError "timeout"))),
    .env (.retry .apply), .env (.retry (.snapshot [""])), .env (.retry (.abandon "")),
    .env (.retry .apply)]

/-- The state `abandonedSecond` leads to. -/
def abandonedSecondState : State where
  mem := { filter := none,
           stats := { totalWrites := 1, successfulWrites := 1, abandonedWrites := 1 } }
  threads := [{ cql := "INSERT INTO ks.t (a) VALUES (1)", keyspace := "ks.t",
                pc := .returned (Writer.shadowFailed "timeout") }]

theorem retries_bounded_abandonedSecond :
    runs unaryId 2 none abandonedSecond = some abandonedSecondState ∧
      Enqueued abandonedSecond 0 ∧
      targetExecutions unaryId abandonedSecond 0 = 2 ∧
      targetExecutions unaryId abandonedSecond 0 ≤ max 1 (2 : UInt32).toNat ∧
      snapshots abandonedSecond (unaryId 0) = max 1 (2 : UInt32).toNat ∧
      unaryId 0 ∉ abandonedSecondState.mem.failedWrites := by
  have hrun : runs unaryId 2 none abandonedSecond = some abandonedSecondState := by rfl
  have henq : Enqueued abandonedSecond 0 := by unfold Enqueued; decide
  have hsnap : snapshots abandonedSecond (unaryId 0) = max 1 (2 : UInt32).toNat := by
    decide +kernel
  have hall := (retries_bounded unaryId 2 none abandonedSecond abandonedSecondState
    unaryId_injective hrun).1 0 henq
  exact ⟨hrun, henq, by decide +kernel, hall.2.1, hsnap, (hall.2.2.2 rfl hsnap).1⟩

end DualWriter
end ScyllaClusterSync
