import ScyllaClusterSync.Lib.Overlay
import ScyllaClusterSync.DualWriter.WriterCountersTheorems

/-!
# The metrics of `write`

At its end, after its own counters, `write` records the operation in the metrics registry: a
write that the filter gate kept from the target by what the source said, any other by what
both clusters said. The registry is an overlay of the service: each call records once it has
counted its result, and nothing in the service reads the registry.

The retry thread records nothing. A shadow write that was queued stays a failed row of the
metrics, whatever becomes of it (`metrics_count_queued_as_failed`).
-/

namespace ScyllaClusterSync
namespace DualWriter

open Svckit Lib

/-! ## `svckit/src/metrics.cpp` -/

/-- The two counters of `MetricsRegistry` that `record_operation` increments. -/
structure MetricsRegistry where
  rowsMigrated : ℕ := 0
  rowsFailed : ℕ := 0
deriving DecidableEq, Repr

/-- `record_operation`. -/
def MetricsRegistry.recordOperation (m : MetricsRegistry) (success : Bool) : MetricsRegistry :=
  if success then { m with rowsMigrated := m.rowsMigrated + 1 }
  else { m with rowsFailed := m.rowsFailed + 1 }

/-! ## The last part of `write` -/

/-- `fully_successful`. -/
def WriteResult.fullySuccessful (r : WriteResult) : Bool := r.sourceOk && r.targetOk

/-- What is known of a call besides the step it is at: that it went through the branch of the
filter gate, and that it has recorded its operation. -/
structure WriteNotes where
  filtered : Bool := false
  recorded : Bool := false
deriving DecidableEq, Repr

/-- The `success` a call passes to `record_operation`. -/
def WriteNotes.success (n : WriteNotes) (r : WriteResult) : Bool :=
  if n.filtered then r.sourceOk else r.fullySuccessful

inductive MetricsAction where
  | recordOperation
deriving DecidableEq, Repr

/-- What `write` does with the registry. -/
def writeMetrics : Overlay WriteCall MetricsRegistry WriteNotes CallAction MetricsAction where
  fresh := {}
  note a n := if a = .countFiltered then { n with filtered := true } else n
  act m c n _ :=
    match c.pc with
    | .returned r =>
      if n.recorded then none
      else some (m.recordOperation (n.success r), { n with recorded := true })
    | _ => none

abbrev MeteredAction := PoolAction WriteRequest (CallAction ⊕ MetricsAction) EnvAction

abbrev MeteredState := Pool (Writer × MetricsRegistry) (WriteCall × WriteNotes)

/-- The service and its metrics. -/
abbrev meteredRuns (generateId : ℕ → String) (maxRetries : UInt32)
    (filter : Option BlacklistFilterGovernor) (h : List MeteredAction) : Option MeteredState :=
  run (Pool.step (writeMetrics.program (program generateId maxRetries)))
    (Pool.init ({ filter := filter }, {})) h

/-- The history of the service itself. -/
def serviceHistory (h : List MeteredAction) : List Action := h.filterMap Overlay.eraseAction

/-! ## The calls, by what they have counted -/

/-- The call has counted its result. -/
def Pc.counted : Pc → Option WriteResult
  | .returned r => some r
  | _ => none

/-- The call knows its result. -/
def Pc.result : Pc → Option WriteResult
  | .finish r => some r
  | .returned r => some r
  | _ => none

def countsSuccessful (t : WriteCall × WriteNotes) : Bool := t.1.pc.counted.any (·.sourceOk)

def countsFailed (t : WriteCall × WriteNotes) : Bool := t.1.pc.counted.any (!·.sourceOk)

/-- The shadow write of the call was queued. -/
def queuedShadow (t : WriteCall × WriteNotes) : Bool :=
  !t.2.filtered && t.1.pc.result.any fun r => r.sourceOk && !r.targetOk

def metersMigrated (t : WriteCall × WriteNotes) : Bool :=
  t.2.recorded && t.1.pc.counted.any t.2.success

def metersFailed (t : WriteCall × WriteNotes) : Bool :=
  t.2.recorded && t.1.pc.counted.any (!t.2.success ·)

/-- What the notes of a call say about where it stands. -/
structure NotesInv (t : WriteCall × WriteNotes) : Prop where
  recorded : t.2.recorded → t.1.pc.counted.isSome
  sourceOnly : t.1.pc = .sourceOnly → t.2.filtered
  filtered : t.2.filtered → t.1.pc = .sourceOnly ∨ t.1.pc.result.isSome

/-! ## One step -/

variable {generateId : ℕ → String} {maxRetries : UInt32} {w : ℕ} {m m' : Writer}
  {c c' : WriteCall} {n n' : WriteNotes}

/-- A step of a call moves each of its counters together with what it says of the call. -/
structure CallBalance (m m' : Writer) (b : CallAction) (t t' : WriteCall × WriteNotes) : Prop where
  notes : NotesInv t'
  successful : m'.stats.successfulWrites + (if countsSuccessful t then 1 else 0) =
    m.stats.successfulWrites + if countsSuccessful t' then 1 else 0
  failed : m'.stats.failedWrites + (if countsFailed t then 1 else 0) =
    m.stats.failedWrites + if countsFailed t' then 1 else 0
  queued : (if queuedShadow t' then 1 else 0) =
    (if queuedShadow t then 1 else 0) + if b = .enqueue then 1 else 0
  migratedRows : metersMigrated t' = metersMigrated t
  failedRows : metersFailed t' = metersFailed t

theorem Pc.counted_eq_none {pc : Pc} (h : pc.result = none) : pc.counted = none := by
  cases pc <;> first | rfl | exact absurd h (by simp [Pc.result])

/-- A call that has no result yet has recorded nothing. -/
theorem NotesInv.not_recorded (hinv : NotesInv (c, n)) (hpc : c.pc.counted = none) :
    n.recorded = false := by
  rw [Bool.eq_false_iff]
  intro h
  have hsome := hinv.recorded h
  rw [hpc] at hsome
  exact absurd hsome (by simp)

/-- Nor has it been filtered, before the source is asked. -/
theorem NotesInv.not_filtered (hinv : NotesInv (c, n)) (hpc : c.pc.result = none)
    (hsource : c.pc ≠ .sourceOnly) : n.filtered = false := by
  rw [Bool.eq_false_iff]
  intro h
  rcases hinv.filtered h with h | h
  · exact hsource h
  · rw [hpc] at h
    exact absurd h (by simp)

/-- A step on the way to the result that leaves the two counters alone. -/
theorem CallBalance.of_stats {b : CallAction} (hinv : NotesInv (c, n)) (hpc : c.pc.result = none)
    (hpc' : c'.pc.result = none) (hc : c.pc ≠ .sourceOnly) (hc' : c'.pc ≠ .sourceOnly)
    (hb : b ≠ .enqueue) (hsuccessful : m'.stats.successfulWrites = m.stats.successfulWrites)
    (hfailed : m'.stats.failedWrites = m.stats.failedWrites) :
    CallBalance m m' b (c, n) (c', n) := by
  have hfiltered := hinv.not_filtered hpc hc
  have hrecorded := hinv.not_recorded (Pc.counted_eq_none hpc)
  refine ⟨⟨?_, fun h => absurd h hc', ?_⟩, ?_, ?_, ?_, ?_, ?_⟩
  · intro h
    exact absurd h (by simp [hrecorded])
  · intro h
    exact absurd h (by simp [hfiltered])
  · simp [countsSuccessful, Pc.counted_eq_none hpc, Pc.counted_eq_none hpc', hsuccessful]
  · simp [countsFailed, Pc.counted_eq_none hpc, Pc.counted_eq_none hpc', hfailed]
  · simp [queuedShadow, hpc, hpc', hb]
  · simp [metersMigrated, hrecorded]
  · simp [metersFailed, hrecorded]

/-- A step that gives a call its result `r`, and counts nothing yet. -/
theorem CallBalance.of_finish {b : CallAction} {r : WriteResult} (hinv : NotesInv (c, n))
    (hpc : c.pc.result = none) (hc' : c'.pc = .finish r) (hm : m'.stats = m.stats)
    (hqueued : (!n.filtered && (r.sourceOk && !r.targetOk)) = decide (b = .enqueue)) :
    CallBalance m m' b (c, n) (c', n) := by
  have hcounted := Pc.counted_eq_none hpc
  have hcounted' : c'.pc.counted = none := by rw [hc']; rfl
  have hresult' : c'.pc.result = some r := by rw [hc']; rfl
  have hrecorded := hinv.not_recorded hcounted
  refine ⟨⟨?_, ?_, ?_⟩, ?_, ?_, ?_, ?_, ?_⟩
  · intro h
    exact absurd h (by simp [hrecorded])
  · intro h
    exact absurd (hc'.symm.trans h) (by simp)
  · intro _
    exact Or.inr (by rw [hresult']; rfl)
  · simp [countsSuccessful, hcounted, hcounted', hm]
  · simp [countsFailed, hcounted, hcounted', hm]
  · simp only [queuedShadow, hpc, hresult', Option.any_some, Option.any_none, Bool.and_false,
      Bool.false_eq_true, if_false, Nat.zero_add]
    rw [hqueued]
    simp
  · simp [metersMigrated, hrecorded]
  · simp [metersFailed, hrecorded]

theorem callBalance {b : CallAction} (hinv : NotesInv (c, n))
    (hstep : callStep generateId w m c b = some (m', c')) :
    CallBalance m m' b (c, n) (c', writeMetrics.note b n) := by
  cases b with
  | countTotal =>
    obtain ⟨hpc, hm, hc⟩ := callStep_countTotal hstep
    refine .of_stats hinv ?_ ?_ ?_ ?_ (by simp) ?_ ?_ <;> simp [hpc, hc, hm, Pc.result,
      Writer.countTotal]
  | isEnabled =>
    obtain ⟨hpc, hm, hc⟩ := callStep_isEnabled hstep
    refine .of_stats hinv ?_ ?_ ?_ ?_ (by simp) ?_ ?_ <;>
      (try simp only [hc, hpc, hm]) <;> (try split) <;> simp [Pc.result]
  | shouldSkipTable =>
    obtain ⟨hpc, hm, hc⟩ := callStep_shouldSkipTable hstep
    refine .of_stats hinv ?_ ?_ ?_ ?_ (by simp) ?_ ?_ <;>
      (try simp only [hc, hpc, hm, Writer.stats_shouldSkipTable]) <;> (try split) <;>
        simp [Pc.result]
  | countFiltered =>
    -- the call takes the branch of the filter gate
    obtain ⟨hpc, hm, hc⟩ := callStep_countFiltered hstep
    have hrecorded := hinv.not_recorded (by rw [hpc]; rfl)
    have hnote : writeMetrics.note .countFiltered n = { n with filtered := true } := rfl
    rw [hnote]
    refine ⟨⟨?_, fun _ => rfl, fun _ => Or.inl (by rw [hc])⟩, ?_, ?_, ?_, ?_, ?_⟩
    · intro h
      exact absurd h (by simp [hrecorded])
    · simp [countsSuccessful, hpc, hc, hm, Pc.counted, Writer.countFiltered]
    · simp [countsFailed, hpc, hc, hm, Pc.counted, Writer.countFiltered]
    · simp [queuedShadow, hpc, Pc.result]
    · simp [metersMigrated, hrecorded]
    · simp [metersFailed, hrecorded]
  | sourceExecute cql o =>
    obtain ⟨_, hm, hmove⟩ := callStep_sourceExecute hstep
    rcases hmove with ⟨hpc, hc⟩ | ⟨hpc, hc⟩
    · have hfiltered := hinv.sourceOnly hpc
      refine .of_finish hinv (by rw [hpc]; rfl) (by rw [hc]) (by rw [hm]) ?_
      simp only at hfiltered
      simp [hfiltered]
    · cases o with
      | ok =>
        refine .of_stats hinv ?_ ?_ ?_ ?_ (by simp) ?_ ?_ <;>
          simp [hpc, hc, hm, Pc.result, afterSource]
      | syncError e =>
        refine .of_finish hinv (by rw [hpc]; rfl) (by rw [hc]; rfl) (by rw [hm]) ?_
        simp
  | targetExecute cql o =>
    obtain ⟨_, hpc, hm, hc⟩ := callStep_targetExecute hstep
    cases o with
    | ok =>
      refine .of_finish hinv (by rw [hpc]; rfl) (by rw [hc]; rfl) (by rw [hm]) ?_
      simp
    | syncError e =>
      refine .of_stats hinv ?_ ?_ ?_ ?_ (by simp) ?_ ?_ <;>
        simp [hpc, hc, hm, Pc.result, afterTarget]
  | enqueue =>
    obtain ⟨e, hpc, hm, hc⟩ := callStep_enqueue hstep
    have hfiltered := hinv.not_filtered (by rw [hpc]; rfl) (by rw [hpc]; simp)
    refine .of_finish hinv (by rw [hpc]; rfl) (by rw [hc]) (by rw [hm]; rfl) ?_
    simp [hfiltered, Writer.shadowFailed]
  | finish =>
    obtain ⟨r, hpc, hm, hc⟩ := callStep_finish hstep
    have hrecorded := hinv.not_recorded (by rw [hpc]; rfl)
    refine ⟨⟨?_, ?_, ?_⟩, ?_, ?_, ?_, ?_, ?_⟩
    · intro _
      simp [hc, Pc.counted]
    · intro h
      exact absurd h (by simp [hc])
    · intro _
      exact Or.inr (by simp [hc, Pc.result])
    · cases hr : r.sourceOk <;> simp [countsSuccessful, hpc, hc, hm, Pc.counted, hr,
        Writer.countResult]
    · cases hr : r.sourceOk <;> simp [countsFailed, hpc, hc, hm, Pc.counted, hr,
        Writer.countResult]
    · simp [queuedShadow, hpc, hc, Pc.result, writeMetrics]
    · simp [metersMigrated, hrecorded, writeMetrics]
    · simp [metersFailed, hrecorded, writeMetrics]

/-! ## Runs -/

/-- What the counters, the queue and the registry hold, read off the calls. -/
structure MetricsInv (h : List MeteredAction) (p : MeteredState) : Prop where
  notes : ∀ t ∈ p.threads, NotesInv t
  successful : p.mem.1.stats.successfulWrites = p.threads.countP countsSuccessful
  failed : p.mem.1.stats.failedWrites = p.threads.countP countsFailed
  queued : (serviceHistory h).countP isEnqueue = p.threads.countP queuedShadow
  migratedRows : p.mem.2.rowsMigrated = p.threads.countP metersMigrated
  failedRows : p.mem.2.rowsFailed = p.threads.countP metersFailed

variable {h : List MeteredAction} {p p' : MeteredState} {filter : Option BlacklistFilterGovernor}

theorem countP_serviceHistory_concat (h : List MeteredAction) (a : MeteredAction) :
    (serviceHistory (h ++ [a])).countP isEnqueue =
      (serviceHistory h).countP isEnqueue + (Overlay.eraseAction a).toList.countP isEnqueue := by
  rw [serviceHistory, List.filterMap_append, List.countP_append, serviceHistory]
  congr 2

/-- A call that has just been made. -/
def newCall (k : WriteRequest) : WriteCall × WriteNotes :=
  ({ cql := k.cql, keyspace := k.keyspace }, {})

/-- It has nothing in any of the counts. -/
theorem MetricsInv.spawn (hinv : MetricsInv h p) (k : WriteRequest) :
    MetricsInv (h ++ [.spawn k]) { p with threads := p.threads ++ [newCall k] } := by
  have hnew : ∀ f : WriteCall × WriteNotes → Bool, f (newCall k) = false →
      (p.threads ++ [newCall k]).countP f = p.threads.countP f := by
    intro f hf
    rw [List.countP_append, List.countP_singleton, hf]
    rfl
  refine ⟨?_, ?_, ?_, ?_, ?_, ?_⟩
  · intro t ht
    rcases List.mem_append.mp ht with ht | ht
    · exact hinv.notes t ht
    · obtain rfl := List.mem_singleton.mp ht
      exact ⟨by simp [newCall], by simp [newCall], by simp [newCall]⟩
  · rw [hnew _ rfl]
    exact hinv.successful
  · rw [hnew _ rfl]
    exact hinv.failed
  · rw [hnew _ rfl, countP_serviceHistory_concat]
    exact hinv.queued
  · rw [hnew _ rfl]
    exact hinv.migratedRows
  · rw [hnew _ rfl]
    exact hinv.failedRows

/-- The notes of the calls after a step of one of them. -/
theorem notes_set {ts : List (WriteCall × WriteNotes)} {t' : WriteCall × WriteNotes}
    (hinv : ∀ t ∈ ts, NotesInv t) (ht' : NotesInv t') (i : ℕ) :
    ∀ t ∈ ts.set i t', NotesInv t := by
  intro t ht
  rcases List.mem_or_eq_of_mem_set ht with ht | rfl
  · exact hinv t ht
  · exact ht'

theorem MetricsInv.call {t t' : WriteCall × WriteNotes} {b : CallAction}
    {m' : Writer × MetricsRegistry} (hinv : MetricsInv h p) (ht : p.threads[w]? = some t)
    (hstep : callStep generateId w p.mem.1 t.1 b = some (m'.1, t'.1)) (hmetrics : m'.2 = p.mem.2)
    (hnotes : t'.2 = writeMetrics.note b t.2) :
    MetricsInv (h ++ [.act w (.inl b)]) { mem := m', threads := p.threads.set w t' } := by
  have hbal : CallBalance p.mem.1 m'.1 b t t' := by
    have hcall := callBalance (hinv.notes t (List.mem_of_getElem? ht)) hstep
    rw [← hnotes] at hcall
    exact hcall
  have hsuccessful := Pool.countP_set_add ht countsSuccessful t'
  have hfailed := Pool.countP_set_add ht countsFailed t'
  have hqueued := Pool.countP_set_add ht queuedShadow t'
  have hmigratedRows := Pool.countP_set_add ht metersMigrated t'
  have hfailedRows := Pool.countP_set_add ht metersFailed t'
  have hone : (Overlay.eraseAction (.act w (.inl b) : MeteredAction)).toList.countP isEnqueue =
      if b = .enqueue then 1 else 0 := by
    cases b <;> rfl
  refine ⟨notes_set hinv.notes hbal.notes w, ?_, ?_, ?_, ?_, ?_⟩
  · have hb := hbal.successful
    have hold := hinv.successful
    show m'.1.stats.successfulWrites = (p.threads.set w t').countP countsSuccessful
    omega
  · have hb := hbal.failed
    have hold := hinv.failed
    show m'.1.stats.failedWrites = (p.threads.set w t').countP countsFailed
    omega
  · have hb := hbal.queued
    have hold := hinv.queued
    rw [countP_serviceHistory_concat, hone]
    show _ = (p.threads.set w t').countP queuedShadow
    omega
  · have hb := hbal.migratedRows
    have hold := hinv.migratedRows
    show m'.2.rowsMigrated = (p.threads.set w t').countP metersMigrated
    rw [hb] at hmigratedRows
    rw [hmetrics]
    omega
  · have hb := hbal.failedRows
    have hold := hinv.failedRows
    show m'.2.rowsFailed = (p.threads.set w t').countP metersFailed
    rw [hb] at hfailedRows
    rw [hmetrics]
    omega

/-- A call that has counted its result records it once. -/
theorem MetricsInv.record {t t' : WriteCall × WriteNotes} {b : MetricsAction}
    {m' : Writer × MetricsRegistry} (hinv : MetricsInv h p) (ht : p.threads[w]? = some t)
    (hstep : writeMetrics.act p.mem.2 t.1 t.2 b = some (m'.2, t'.2)) (hwriter : m'.1 = p.mem.1)
    (hcall : t'.1 = t.1) :
    MetricsInv (h ++ [.act w (.inr b)]) { mem := m', threads := p.threads.set w t' } := by
  obtain ⟨c, n⟩ := t
  obtain ⟨c', n'⟩ := t'
  obtain rfl : c' = c := hcall
  have hnotes := hinv.notes _ (List.mem_of_getElem? ht)
  simp only [writeMetrics] at hstep
  split at hstep
  next r hpc =>
    split at hstep
    · exact absurd hstep (by simp)
    next hrecorded =>
      simp only [Option.some.injEq, Prod.mk.injEq] at hstep
      obtain ⟨hmetrics, rfl⟩ := hstep
      have hcounted : c'.pc.counted = some r := by rw [hpc]; rfl
      have hsuccessful := Pool.countP_set_add ht countsSuccessful (c', { n with recorded := true })
      have hfailed := Pool.countP_set_add ht countsFailed (c', { n with recorded := true })
      have hqueued := Pool.countP_set_add ht queuedShadow (c', { n with recorded := true })
      have hmigrated := Pool.countP_set_add ht metersMigrated (c', { n with recorded := true })
      have hfailedRows := Pool.countP_set_add ht metersFailed (c', { n with recorded := true })
      have hold := hinv.migratedRows
      have holdFailed := hinv.failedRows
      simp only [countsSuccessful, countsFailed, queuedShadow] at hsuccessful hfailed hqueued
      have hsuccess : ({ n with recorded := true } : WriteNotes).success = n.success := rfl
      simp only [metersMigrated, metersFailed, hcounted, hrecorded, hsuccess, Option.any_some,
        Bool.true_and, Bool.false_and, Bool.false_eq_true, if_false, Nat.add_zero]
        at hmigrated hfailedRows
      have hnotes' : NotesInv (c', { n with recorded := true }) :=
        ⟨fun _ => by rw [hcounted]; rfl, hnotes.sourceOnly, hnotes.filtered⟩
      refine ⟨notes_set hinv.notes hnotes' w, ?_, ?_, ?_, ?_, ?_⟩
      · rw [hwriter, hinv.successful]
        exact (Nat.add_right_cancel hsuccessful).symm
      · rw [hwriter, hinv.failed]
        exact (Nat.add_right_cancel hfailed).symm
      · rw [countP_serviceHistory_concat, hinv.queued]
        exact (Nat.add_right_cancel hqueued).symm
      · show m'.2.rowsMigrated = _
        rw [← hmetrics, hmigrated, MetricsRegistry.recordOperation, ← hold]
        cases n.success r <;> rfl
      · show m'.2.rowsFailed = _
        rw [← hmetrics, hfailedRows, MetricsRegistry.recordOperation, ← holdFailed]
        cases n.success r <;> rfl
  · exact absurd hstep (by simp)

theorem metricsInv_of_runs (hrun : meteredRuns generateId maxRetries filter h = some p) :
    MetricsInv h p := by
  refine @run_invariant _ _ (Pool.step (writeMetrics.program (program generateId maxRetries)))
    (Pool.init ({ filter := filter }, {})) (fun h p => MetricsInv h p) ?_ ?_ h p hrun
  · exact ⟨by simp [Pool.init], rfl, rfl, rfl, rfl, rfl⟩
  · intro h p a p' hinv hstep
    cases a with
    | spawn k =>
      obtain rfl := Pool.step_spawn hstep
      exact hinv.spawn k
    | act w b =>
      obtain ⟨t, m, t', ht, hthread, rfl⟩ := Pool.step_act hstep
      cases b with
      | inl b =>
        obtain ⟨hcall, hmetrics, hnotes⟩ := Overlay.thread_inl hthread
        exact hinv.call ht hcall hmetrics hnotes
      | inr b =>
        obtain ⟨hact, hwriter, hcall⟩ := Overlay.thread_inr hthread
        exact hinv.record ht hact hwriter hcall
    | env e =>
      obtain ⟨m, henv, rfl⟩ := Pool.step_env hstep
      obtain ⟨hwriter, hmetrics⟩ := Overlay.env_eq_some henv
      have hstats : m.1.stats.successfulWrites = p.mem.1.stats.successfulWrites ∧
          m.1.stats.failedWrites = p.mem.1.stats.failedWrites := by
        cases e with
        | reload =>
          obtain hm := Option.some.inj hwriter
          rw [← hm]
          exact ⟨rfl, rfl⟩
        | retry a => exact ⟨(results_retryStep hwriter).2.1, (results_retryStep hwriter).2.2.1⟩
      refine ⟨hinv.notes, ?_, ?_, ?_, ?_, ?_⟩
      · exact hstats.1.trans hinv.successful
      · exact hstats.2.trans hinv.failed
      · rw [countP_serviceHistory_concat]
        exact hinv.queued
      · show m.2.rowsMigrated = _
        rw [hmetrics]
        exact hinv.migratedRows
      · show m.2.rowsFailed = _
        rw [hmetrics]
        exact hinv.failedRows

/-! ## The result -/

/-- Two kinds of calls that make up a third one. -/
theorem countP_eq_add {α : Type*} {f f₁ f₂ : α → Bool} {l : List α}
    (h : ∀ t ∈ l, (if f t then 1 else 0) = (if f₁ t then 1 else 0) + if f₂ t then 1 else 0) :
    l.countP f = l.countP f₁ + l.countP f₂ := by
  induction l with
  | nil => rfl
  | cons t l ih =>
    have hhead := h t List.mem_cons_self
    have htail := ih fun u hu => h u (List.mem_cons_of_mem t hu)
    rw [List.countP_cons, List.countP_cons, List.countP_cons]
    omega

/-- Once every call has recorded its operation, and between the retry cycles, the metrics
count as failed what the source did not take and every shadow write that was ever queued:
retried with success, abandoned or still waiting. -/
theorem metrics_count_queued_as_failed (generateId : ℕ → String) (maxRetries : UInt32)
    (filter : Option BlacklistFilterGovernor) (h : List MeteredAction) (p : MeteredState)
    (hgen : Function.Injective generateId)
    (hrun : meteredRuns generateId maxRetries filter h = some p)
    (hrecorded : ∀ t ∈ p.threads, t.2.recorded) (hidle : p.mem.1.retry = none) :
    p.mem.2.rowsFailed = p.mem.1.stats.failedWrites + p.mem.1.stats.retriedWrites +
        p.mem.1.stats.abandonedWrites + p.mem.1.pendingRetryCount ∧
      p.mem.2.rowsMigrated + p.mem.1.stats.retriedWrites + p.mem.1.stats.abandonedWrites +
        p.mem.1.pendingRetryCount = p.mem.1.stats.successfulWrites ∧
      p.mem.2.rowsMigrated + p.mem.2.rowsFailed = p.mem.1.stats.totalWrites := by
  have hinv := metricsInv_of_runs hrun
  have hservice := Overlay.run_erase hrun
  have hcounters := countersInv_of_runs hgen hservice
  -- every call has its result, so each is successful or not, and its metric follows from that
  have hcounted : ∀ t ∈ p.threads, ∃ r, t.1.pc = .returned r := by
    intro t ht
    have hsome := (hinv.notes t ht).recorded (hrecorded t ht)
    cases hpc : t.1.pc with
    | returned r => exact ⟨r, rfl⟩
    | _ => rw [hpc] at hsome; exact absurd hsome (by simp [Pc.counted])
  have hfailed : p.threads.countP metersFailed =
      p.threads.countP countsFailed + p.threads.countP queuedShadow := by
    refine countP_eq_add fun t ht => ?_
    obtain ⟨r, hr⟩ := hcounted t ht
    simp only [metersFailed, countsFailed, queuedShadow, hrecorded t ht, hr, Pc.counted, Pc.result,
      WriteNotes.success, WriteResult.fullySuccessful, Option.any_some]
    cases t.2.filtered <;> cases r.sourceOk <;> cases r.targetOk <;> rfl
  have hmigrated : p.threads.countP countsSuccessful =
      p.threads.countP metersMigrated + p.threads.countP queuedShadow := by
    refine countP_eq_add fun t ht => ?_
    obtain ⟨r, hr⟩ := hcounted t ht
    simp only [metersMigrated, countsSuccessful, queuedShadow, hrecorded t ht, hr, Pc.counted,
      Pc.result, WriteNotes.success, WriteResult.fullySuccessful, Option.any_some]
    cases t.2.filtered <;> cases r.sourceOk <;> cases r.targetOk <;> rfl
  have hsettled : (Overlay.erase p).threads.countP (·.pc.unsettled) = 0 := by
    rw [List.countP_eq_zero]
    intro c hc
    obtain ⟨t, ht, rfl⟩ := List.mem_map.mp hc
    obtain ⟨r, hr⟩ := hcounted t ht
    simp [hr, Pc.unsettled]
  have hqueue := hcounters.queue
  have hresults := hcounters.results
  have hmem : (Overlay.erase p).mem = p.mem.1 := rfl
  rw [QueueBalance, hmem, Writer.toRemove, hidle, WriterStats.retired] at hqueue
  rw [hsettled, hmem] at hresults
  have hqueued : (h.filterMap Overlay.eraseAction).countP isEnqueue = _ := hinv.queued
  have hsuccessful := hinv.successful
  have hfailedWrites := hinv.failed
  have hrowsMigrated := hinv.migratedRows
  have hrowsFailed := hinv.failedRows
  simp only [List.length_nil] at hqueue
  refine ⟨?_, ?_, ?_⟩ <;> omega

/-- An action of the service. -/
def metered : Action → MeteredAction
  | .spawn k => .spawn k
  | .act w b => .act w (.inl b)
  | .env e => .env e

/-- `filteredAndRetried`, after which the two calls record their operations. -/
def filteredAndRetriedRecorded : List MeteredAction :=
  filteredAndRetried.map metered ++
    [.act 0 (.inr .recordOperation), .act 1 (.inr .recordOperation)]

def filteredAndRetriedRecordedState : MeteredState where
  mem := (filteredAndRetriedState.mem, { rowsMigrated := 1, rowsFailed := 1 })
  threads := filteredAndRetriedState.threads.zip
    [{ filtered := true, recorded := true }, { recorded := true }]

theorem metrics_count_queued_as_failed_retried :
    filteredAndRetriedRecordedState.mem.2.rowsFailed =
        filteredAndRetriedRecordedState.mem.1.stats.failedWrites +
          filteredAndRetriedRecordedState.mem.1.stats.retriedWrites +
          filteredAndRetriedRecordedState.mem.1.stats.abandonedWrites +
          filteredAndRetriedRecordedState.mem.1.pendingRetryCount ∧
      filteredAndRetriedRecordedState.mem.2.rowsMigrated +
          filteredAndRetriedRecordedState.mem.1.stats.retriedWrites +
          filteredAndRetriedRecordedState.mem.1.stats.abandonedWrites +
          filteredAndRetriedRecordedState.mem.1.pendingRetryCount =
        filteredAndRetriedRecordedState.mem.1.stats.successfulWrites ∧
      filteredAndRetriedRecordedState.mem.2.rowsMigrated +
          filteredAndRetriedRecordedState.mem.2.rowsFailed =
        filteredAndRetriedRecordedState.mem.1.stats.totalWrites :=
  metrics_count_queued_as_failed unaryId 3 (some (.ofConfig gcpOnlyTenant))
    filteredAndRetriedRecorded filteredAndRetriedRecordedState unaryId_injective (by rfl)
    (by simp [filteredAndRetriedRecordedState, filteredAndRetriedState]) rfl

end DualWriter
end ScyllaClusterSync
