import ScyllaClusterSync.DualWriter.WriterSystem

/-!
# What one step of the dual-writer can do

One lemma for each kind of step, so that no invariant below has to unfold `callStep` or
`retryStep`:

* `callStep_request`: a call never changes its own statement and keyspace;
* `callStep_*`: the inversion of each step of a call;
* `callStep_countMove`: what a step of a call does to the counters, by where it stands;
* `retryStep_move`: what a step of the retry thread does to the queue and to its own
  local variables, as one of the five cases of `QueueMove`.
-/

namespace ScyllaClusterSync
namespace DualWriter

open Svckit Lib

variable {generateId : ℕ → String} {maxRetries : UInt32} {w : ℕ} {m m' : Writer}
  {c c' : WriteCall}

/-! ## Steps of a call -/

theorem callStep_countTotal (h : callStep generateId w m c .countTotal = some (m', c')) :
    c.pc = .entered ∧ m' = m.countTotal ∧ c' = { c with pc := .gate } := by
  simp only [callStep, Option.ite_none_right_eq_some, Option.some.injEq, Prod.mk.injEq] at h
  exact ⟨h.1, h.2.1.symm, h.2.2.symm⟩

theorem callStep_isEnabled (h : callStep generateId w m c .isEnabled = some (m', c')) :
    c.pc = .gate ∧ m' = m ∧
      c' = { c with pc := if m.filterEnabled then .tableCheck else .dualSource } := by
  simp only [callStep, Option.ite_none_right_eq_some, Option.some.injEq, Prod.mk.injEq] at h
  exact ⟨h.1, h.2.1.symm, h.2.2.symm⟩

theorem callStep_shouldSkipTable (h : callStep generateId w m c .shouldSkipTable = some (m', c')) :
    c.pc = .tableCheck ∧ m' = (m.shouldSkipTable c.keyspace).2 ∧
      c' = { c with pc := if (m.shouldSkipTable c.keyspace).1 = .skipTable then .skipCount
        else .dualSource } := by
  simp only [callStep, Option.ite_none_right_eq_some, Option.some.injEq, Prod.mk.injEq] at h
  exact ⟨h.1, h.2.1.symm, h.2.2.symm⟩

theorem callStep_countFiltered (h : callStep generateId w m c .countFiltered = some (m', c')) :
    c.pc = .skipCount ∧ m' = m.countFiltered ∧ c' = { c with pc := .sourceOnly } := by
  simp only [callStep, Option.ite_none_right_eq_some, Option.some.injEq, Prod.mk.injEq] at h
  exact ⟨h.1, h.2.1.symm, h.2.2.symm⟩

theorem callStep_sourceExecute {cql : String} {o : Outcome}
    (h : callStep generateId w m c (.sourceExecute cql o) = some (m', c')) :
    cql = c.cql ∧ m' = m ∧
      ((c.pc = .sourceOnly ∧ c' = { c with pc := .finish (Writer.writeSourceOnly o) }) ∨
        (c.pc = .dualSource ∧ c' = { c with pc := afterSource o })) := by
  simp only [callStep] at h
  split at h
  · simp at h
  next hcql =>
    have hcql' : cql = c.cql := not_not.mp hcql
    split at h
    next hpc =>
      simp only [Option.some.injEq, Prod.mk.injEq] at h
      exact ⟨hcql', h.1.symm, Or.inl ⟨hpc, h.2.symm⟩⟩
    next =>
      simp only [Option.ite_none_right_eq_some, Option.some.injEq, Prod.mk.injEq] at h
      exact ⟨hcql', h.2.1.symm, Or.inr ⟨h.1, h.2.2.symm⟩⟩

theorem callStep_targetExecute {cql : String} {o : Outcome}
    (h : callStep generateId w m c (.targetExecute cql o) = some (m', c')) :
    cql = c.cql ∧ c.pc = .dualTarget ∧ m' = m ∧ c' = { c with pc := afterTarget o } := by
  simp only [callStep, Option.ite_none_right_eq_some, Option.some.injEq, Prod.mk.injEq] at h
  exact ⟨h.1.1, h.1.2, h.2.1.symm, h.2.2.symm⟩

theorem callStep_enqueue (h : callStep generateId w m c .enqueue = some (m', c')) :
    ∃ e, c.pc = .enqueue e ∧ m' = m.enqueueFailedWrite (generateId w) c.cql c.keyspace e ∧
      c' = { c with pc := .finish (Writer.shadowFailed e) } := by
  simp only [callStep] at h
  split at h
  next e hpc =>
    simp only [Option.some.injEq, Prod.mk.injEq] at h
    exact ⟨e, hpc, h.1.symm, h.2.symm⟩
  · simp at h

theorem callStep_finish (h : callStep generateId w m c .finish = some (m', c')) :
    ∃ r, c.pc = .finish r ∧ m' = m.countResult r ∧ c' = { c with pc := .returned r } := by
  simp only [callStep] at h
  split at h
  next r hpc =>
    simp only [Option.some.injEq, Prod.mk.injEq] at h
    exact ⟨r, hpc, h.1.symm, h.2.symm⟩
  · simp at h

/-- A call keeps its arguments. -/
theorem callStep_request {a : CallAction} (h : callStep generateId w m c a = some (m', c')) :
    c'.cql = c.cql ∧ c'.keyspace = c.keyspace := by
  cases a with
  | countTotal => rw [(callStep_countTotal h).2.2]; exact ⟨rfl, rfl⟩
  | isEnabled => rw [(callStep_isEnabled h).2.2]; exact ⟨rfl, rfl⟩
  | shouldSkipTable => rw [(callStep_shouldSkipTable h).2.2]; exact ⟨rfl, rfl⟩
  | countFiltered => rw [(callStep_countFiltered h).2.2]; exact ⟨rfl, rfl⟩
  | sourceExecute cql o =>
    rcases (callStep_sourceExecute h).2.2 with ⟨-, hc⟩ | ⟨-, hc⟩ <;> rw [hc] <;> exact ⟨rfl, rfl⟩
  | targetExecute cql o => rw [(callStep_targetExecute h).2.2.2]; exact ⟨rfl, rfl⟩
  | enqueue =>
    obtain ⟨e, _, _, hc⟩ := callStep_enqueue h
    rw [hc]; exact ⟨rfl, rfl⟩
  | finish =>
    obtain ⟨r, _, _, hc⟩ := callStep_finish h
    rw [hc]; exact ⟨rfl, rfl⟩

/-- Apart from `enqueue_failed_write`, no step of a call touches the queue, and none
touches the retry thread's local variables. -/
theorem callStep_queue {a : CallAction} (h : callStep generateId w m c a = some (m', c'))
    (ha : a ≠ .enqueue) : m'.failedWrites = m.failedWrites ∧ m'.retry = m.retry := by
  cases a with
  | countTotal => rw [(callStep_countTotal h).2.1]; simp
  | isEnabled => rw [(callStep_isEnabled h).2.1]; simp
  | shouldSkipTable => rw [(callStep_shouldSkipTable h).2.1]; simp
  | countFiltered => rw [(callStep_countFiltered h).2.1]; simp
  | sourceExecute cql o => rw [(callStep_sourceExecute h).2.1]; simp
  | targetExecute cql o => rw [(callStep_targetExecute h).2.2.1]; simp
  | enqueue => exact absurd rfl ha
  | finish =>
    obtain ⟨r, _, hm, _⟩ := callStep_finish h
    rw [hm]; simp

/-! ## The counters of a call -/

/-- The call has been counted in `total_writes`, and its result has not been counted. -/
def Pc.unsettled : Pc → Bool
  | .entered => false
  | .returned _ => false
  | _ => true

/-- The call has been counted in `total_writes`, and may still be in `filtered_writes`. -/
def Pc.undecided : Pc → Bool
  | .gate => true
  | .tableCheck => true
  | .skipCount => true
  | _ => false

/-- The counters a step of a call touches. -/
inductive CountMove (m m' : Writer) (pc pc' : Pc) : Prop where
  | total (hpc : pc = .entered) (hpc' : pc' = .gate)
      (hstats : m'.stats = { m.stats with totalWrites := m.stats.totalWrites + 1 })
  | filtered (hpc : pc = .skipCount) (hpc' : pc' = .sourceOnly)
      (hstats : m'.stats = { m.stats with filteredWrites := m.stats.filteredWrites + 1 })
  | result (r : WriteResult) (hpc : pc = .finish r) (hpc' : pc' = .returned r)
      (hstats : m'.stats =
        { m.stats with successfulWrites := m.stats.successfulWrites + 1 } ∨
          m'.stats = { m.stats with failedWrites := m.stats.failedWrites + 1 })
  | stay (hpc : pc.unsettled) (hpc' : pc'.unsettled) (hundecided : pc'.undecided → pc.undecided)
      (hstats : m'.stats = m.stats)

theorem callStep_countMove {b : CallAction}
    (hstep : callStep generateId w m c b = some (m', c')) : CountMove m m' c.pc c'.pc := by
  cases b with
  | countTotal =>
    obtain ⟨hpc, hm, hc⟩ := callStep_countTotal hstep
    exact .total hpc (by rw [hc]) (by rw [hm]; rfl)
  | isEnabled =>
    obtain ⟨hpc, hm, hc⟩ := callStep_isEnabled hstep
    rw [hc, hm, hpc]
    split
    · exact .stay rfl rfl (fun _ => rfl) rfl
    · exact .stay rfl rfl (fun _ => rfl) rfl
  | shouldSkipTable =>
    obtain ⟨hpc, hm, hc⟩ := callStep_shouldSkipTable hstep
    have hstats : m'.stats = m.stats := by rw [hm, Writer.stats_shouldSkipTable]
    rw [hc, hpc]
    split
    · exact .stay rfl rfl (fun _ => rfl) hstats
    · exact .stay rfl rfl (fun _ => rfl) hstats
  | countFiltered =>
    obtain ⟨hpc, hm, hc⟩ := callStep_countFiltered hstep
    exact .filtered hpc (by rw [hc]) (by rw [hm]; rfl)
  | sourceExecute q o =>
    obtain ⟨_, hm, ⟨hpc, hc⟩ | ⟨hpc, hc⟩⟩ := callStep_sourceExecute hstep
    · rw [hc, hm, hpc]
      exact .stay rfl rfl (by simp [Pc.undecided]) rfl
    · rw [hc, hm, hpc]
      cases o with
      | ok => exact .stay rfl rfl (by simp [Pc.undecided, afterSource]) rfl
      | syncError e => exact .stay rfl rfl (by simp [Pc.undecided, afterSource]) rfl
  | targetExecute q o =>
    obtain ⟨_, hpc, hm, hc⟩ := callStep_targetExecute hstep
    rw [hc, hm, hpc]
    cases o with
    | ok => exact .stay rfl rfl (by simp [Pc.undecided, afterTarget]) rfl
    | syncError e => exact .stay rfl rfl (by simp [Pc.undecided, afterTarget]) rfl
  | enqueue =>
    obtain ⟨e, hpc, hm, hc⟩ := callStep_enqueue hstep
    rw [hc, hm, hpc]
    exact .stay rfl rfl (by simp [Pc.undecided]) rfl
  | finish =>
    obtain ⟨r, hpc, hm, hc⟩ := callStep_finish hstep
    refine .result r hpc (by rw [hc]) ?_
    rw [hm, Writer.countResult]
    split
    · exact Or.inl rfl
    · exact Or.inr rfl

/-! ## Steps of the retry thread -/

theorem Writer.headAt_eq_some {stage : RetryStage} {id : String} {r : RetryCycle}
    {fw : FailedWrite} (h : m.headAt stage id = some (r, fw)) :
    m.retry = some r ∧ r.stage = stage ∧ ∃ rest, r.todo = (id, fw) :: rest := by
  unfold Writer.headAt at h
  split at h
  · simp at h
  next r' hr =>
    split at h
    · simp at h
    next id' fw' rest hrest =>
      simp only [Option.ite_none_right_eq_some, Option.some.injEq, Prod.mk.injEq] at h
      obtain ⟨⟨hstage, hid⟩, hr', hfw⟩ := h
      subst hr' hfw hid
      exact ⟨hr, hstage, rest, hrest⟩

/-- The entry a step of the retry thread disposes of for good: abandoned, dropped as
blacklisted, or executed on the target. -/
def RetryAction.closed : RetryAction → Option String
  | .abandon id => some id
  | .drop id => some id
  | .execute id _ .ok => some id
  | _ => none

/-- What a step of the retry thread does to the queue and to its local variables. -/
inductive QueueMove (m m' : Writer) (a : RetryAction) : Prop where
  | snapshot (order : List String) (hidle : m.retry = none)
      (hperm : order.Perm m.failedWrites.keys) (hclosed : a.closed = none)
      (hqueue : m'.failedWrites = m.failedWrites)
      (hretry : m'.retry = some { todo := KVMap.entriesAt m.failedWrites order })
  | stay (r : RetryCycle) (stage : RetryStage) (hcycle : m.retry = some r)
      (hclosed : a.closed = none) (hqueue : m'.failedWrites = m.failedWrites)
      (hretry : m'.retry = some { r with stage := stage })
  | close (r : RetryCycle) (id : String) (fw : FailedWrite) (rest : List (String × FailedWrite))
      (hcycle : m.retry = some r) (htodo : r.todo = (id, fw) :: rest)
      (hclosed : a.closed = some id) (hqueue : m'.failedWrites = m.failedWrites)
      (hretry : m'.retry = some (r.remove id))
  | fail (r : RetryCycle) (id : String) (fw : FailedWrite) (rest : List (String × FailedWrite))
      (e : String) (hcycle : m.retry = some r) (htodo : r.todo = (id, fw) :: rest)
      (ha : a = .execute id fw.cql (.syncError e)) (hqueue : m'.failedWrites = m.failedWrites)
      (hretry : m'.retry = some (r.update id fw e))
  | apply (r : RetryCycle) (hcycle : m.retry = some r) (htodo : r.todo = [])
      (hclosed : a.closed = none)
      (hqueue : m'.failedWrites =
        KVMap.insertAll (KVMap.eraseAll m.failedWrites r.toRemove) r.toUpdate)
      (hretry : m'.retry = none)

theorem retryStep_snapshot {order : List String}
    (h : retryStep maxRetries m (.snapshot order) = some m') :
    m.retry = none ∧ order ≠ [] ∧ order.Perm m.failedWrites.keys ∧
      m' = { m with retry := some { todo := KVMap.entriesAt m.failedWrites order } } := by
  simp only [retryStep, Option.ite_none_right_eq_some, Option.some.injEq] at h
  exact ⟨h.1.1, h.1.2.1, h.1.2.2, h.2.symm⟩

theorem retryStep_abandon {id : String} (h : retryStep maxRetries m (.abandon id) = some m') :
    ∃ r fw rest, m.retry = some r ∧ r.stage = .maxAttempts ∧ r.todo = (id, fw) :: rest ∧
      maxRetries ≤ fw.attempts ∧
      m' = { m with
        stats.abandonedWrites := m.stats.abandonedWrites + 1
        retry := some (r.remove id) } := by
  simp only [retryStep, Option.bind_eq_some_iff, Prod.exists, Option.ite_none_right_eq_some,
    Option.some.injEq] at h
  obtain ⟨r, fw, hhead, hmax, hm⟩ := h
  obtain ⟨hr, hstage, rest, hrest⟩ := Writer.headAt_eq_some hhead
  exact ⟨r, fw, rest, hr, hstage, hrest, hmax, hm.symm⟩

theorem retryStep_keep {id : String} (h : retryStep maxRetries m (.keep id) = some m') :
    ∃ r fw rest, m.retry = some r ∧ r.stage = .maxAttempts ∧ r.todo = (id, fw) :: rest ∧
      fw.attempts < maxRetries ∧ m' = { m with retry := some { r with stage := .gate } } := by
  simp only [retryStep, Option.bind_eq_some_iff, Prod.exists, Option.ite_none_right_eq_some,
    Option.some.injEq] at h
  obtain ⟨r, fw, hhead, hmax, hm⟩ := h
  obtain ⟨hr, hstage, rest, hrest⟩ := Writer.headAt_eq_some hhead
  exact ⟨r, fw, rest, hr, hstage, hrest, hmax, hm.symm⟩

theorem retryStep_isEnabled (h : retryStep maxRetries m .isEnabled = some m') :
    ∃ r, m.retry = some r ∧ r.stage = .gate ∧
      m' = { m with
        retry := some { r with stage := if m.filterEnabled then .tableCheck else .execute } } := by
  simp only [retryStep, Option.bind_eq_some_iff, Option.ite_none_right_eq_some,
    Option.some.injEq] at h
  obtain ⟨r, hr, hstage, hm⟩ := h
  exact ⟨r, hr, hstage, hm.symm⟩

theorem retryStep_drop {id : String} (h : retryStep maxRetries m (.drop id) = some m') :
    ∃ r fw rest, m.retry = some r ∧ r.stage = .tableCheck ∧ r.todo = (id, fw) :: rest ∧
      (m.shouldSkipTable fw.keyspace).1 = .skipTable ∧
      m' = { (m.shouldSkipTable fw.keyspace).2 with retry := some (r.remove id) } := by
  simp only [retryStep, Option.bind_eq_some_iff, Prod.exists, Option.ite_none_right_eq_some,
    Option.some.injEq] at h
  obtain ⟨r, fw, hhead, hskip, hm⟩ := h
  obtain ⟨hr, hstage, rest, hrest⟩ := Writer.headAt_eq_some hhead
  exact ⟨r, fw, rest, hr, hstage, hrest, hskip, hm.symm⟩

theorem retryStep_pass {id : String} (h : retryStep maxRetries m (.pass id) = some m') :
    ∃ r fw rest, m.retry = some r ∧ r.stage = .tableCheck ∧ r.todo = (id, fw) :: rest ∧
      (m.shouldSkipTable fw.keyspace).1 ≠ .skipTable ∧
      m' = { (m.shouldSkipTable fw.keyspace).2 with
        retry := some { r with stage := .execute } } := by
  simp only [retryStep, Option.bind_eq_some_iff, Prod.exists, Option.ite_none_right_eq_some,
    Option.some.injEq] at h
  obtain ⟨r, fw, hhead, hskip, hm⟩ := h
  obtain ⟨hr, hstage, rest, hrest⟩ := Writer.headAt_eq_some hhead
  exact ⟨r, fw, rest, hr, hstage, hrest, hskip, hm.symm⟩

theorem retryStep_execute {id cql : String} {o : Outcome}
    (h : retryStep maxRetries m (.execute id cql o) = some m') :
    ∃ r fw rest, m.retry = some r ∧ r.stage = .execute ∧ r.todo = (id, fw) :: rest ∧
      cql = fw.cql ∧
      ((o = .ok ∧ m' = { m with
          stats.retriedWrites := m.stats.retriedWrites + 1
          retry := some (r.remove id) }) ∨
        ∃ e, o = .syncError e ∧ m' = { m with retry := some (r.update id fw e) }) := by
  simp only [retryStep, Option.bind_eq_some_iff, Prod.exists, Option.ite_none_right_eq_some] at h
  obtain ⟨r, fw, hhead, hcql, hm⟩ := h
  obtain ⟨hr, hstage, rest, hrest⟩ := Writer.headAt_eq_some hhead
  refine ⟨r, fw, rest, hr, hstage, hrest, hcql, ?_⟩
  cases o with
  | ok => exact Or.inl ⟨rfl, (Option.some.inj hm).symm⟩
  | syncError e => exact Or.inr ⟨e, rfl, (Option.some.inj hm).symm⟩

theorem retryStep_apply (h : retryStep maxRetries m .apply = some m') :
    ∃ r, m.retry = some r ∧ r.todo = [] ∧
      m' = { m with
        failedWrites := KVMap.insertAll (KVMap.eraseAll m.failedWrites r.toRemove) r.toUpdate
        retry := none } := by
  simp only [retryStep, Option.bind_eq_some_iff, Option.ite_none_right_eq_some,
    Option.some.injEq] at h
  obtain ⟨r, hr, htodo, hm⟩ := h
  exact ⟨r, hr, htodo, hm.symm⟩

/-- Every step of the retry thread is one of the five moves. -/
theorem retryStep_move {a : RetryAction} (h : retryStep maxRetries m a = some m') :
    QueueMove m m' a := by
  cases a with
  | snapshot order =>
    obtain ⟨hidle, _, hperm, hm⟩ := retryStep_snapshot h
    subst hm
    exact .snapshot order hidle hperm rfl rfl rfl
  | abandon id =>
    obtain ⟨r, fw, rest, hr, _, hrest, _, hm⟩ := retryStep_abandon h
    subst hm
    exact .close r id fw rest hr hrest rfl rfl rfl
  | keep id =>
    obtain ⟨r, fw, rest, hr, _, _, _, hm⟩ := retryStep_keep h
    subst hm
    exact .stay r .gate hr rfl rfl rfl
  | isEnabled =>
    obtain ⟨r, hr, _, hm⟩ := retryStep_isEnabled h
    subst hm
    exact .stay r _ hr rfl rfl rfl
  | drop id =>
    obtain ⟨r, fw, rest, hr, _, hrest, _, hm⟩ := retryStep_drop h
    subst hm
    exact .close r id fw rest hr hrest rfl (Writer.failedWrites_shouldSkipTable m fw.keyspace) rfl
  | pass id =>
    obtain ⟨r, fw, rest, hr, _, _, _, hm⟩ := retryStep_pass h
    subst hm
    exact .stay r .execute hr rfl (Writer.failedWrites_shouldSkipTable m fw.keyspace) rfl
  | execute id cql o =>
    obtain ⟨r, fw, rest, hr, _, hrest, hcql, hm⟩ := retryStep_execute h
    rcases hm with ⟨ho, hm⟩ | ⟨e, ho, hm⟩
    · subst hm ho
      exact .close r id fw rest hr hrest rfl rfl rfl
    · subst hm ho hcql
      exact .fail r id fw rest e hr hrest rfl rfl rfl
  | apply =>
    obtain ⟨r, hr, htodo, hm⟩ := retryStep_apply h
    subst hm
    exact .apply r hr htodo rfl rfl rfl

end DualWriter
end ScyllaClusterSync
