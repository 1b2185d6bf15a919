import ScyllaClusterSync.DualWriter.ShadowWriteTheorems
import ScyllaClusterSync.DualWriter.FilterGateTheorems

/-!
# What the counters add up to

`CountersInv` balances the six counters at every point of a run: a call that has been
counted in `total_writes` and not in `successful_writes` or `failed_writes` is under way,
and a queued write that is neither in `retried_writes` nor in `abandoned_writes` is still
in the map or about to be put aside. The branch of the retry loop that removes an entry
without counting it is never taken: the governor is reloaded with the sets it had when
the entry was let through.
-/

namespace ScyllaClusterSync
namespace DualWriter

open Svckit Lib

variable {generateId : ℕ → String} {maxRetries : UInt32} {w : ℕ} {m m' : Writer}
  {c c' : WriteCall} {h : List Action} {p p' : State} {filter : Option BlacklistFilterGovernor}

/-! ## Entries that are dropped -/

theorem filterConfig_of_runs (hrun : runs generateId maxRetries filter h = some p) :
    filterConfig p.mem = filter.map fun g => g.config := by
  have hstep : ∀ (h : List Action) (p : State) (a : Action) (p' : State),
      filterConfig p.mem = (filter.map fun g => g.config) →
      Pool.step (program generateId maxRetries) p a = some p' →
      filterConfig p'.mem = filter.map fun g => g.config := by
    intro h p a p' hp hstep
    rw [← hp]
    cases a with
    | spawn k => rw [Pool.step_spawn hstep]
    | act i b =>
      obtain ⟨c, m, c', _, hthread, rfl⟩ := Pool.step_act hstep
      exact filterConfig_callStep hthread
    | env e =>
      obtain ⟨m, henv, rfl⟩ := Pool.step_env hstep
      exact filterConfig_envStep henv
  exact @run_invariant _ _ (Pool.step (program generateId maxRetries)) (initial filter)
    (fun _ p => filterConfig p.mem = filter.map fun g => g.config) rfl hstep h p hrun

/-- No entry in the queue or in the retry thread's hands is blacklisted. -/
theorem copy_not_blacklisted (hrun : runs generateId maxRetries filter h = some p) {id : String}
    {fw : FailedWrite} (hcopy : p.mem.HasCopy id fw) : ¬ p.mem.tableBlacklisted fw.keyspace := by
  cases filter with
  | none =>
    have hnone := filterConfig_of_runs hrun
    simp only [filterConfig, Option.map_none, Option.map_eq_none_iff] at hnone
    simp [Writer.tableBlacklisted, hnone]
  | some g =>
    have hinv := gateInv_of_runs rfl hrun (K := Set.univ) fun k _ => Set.mem_univ k
    rw [hinv.1.tableBlacklisted]
    exact (hinv.1.copies id fw hcopy).2

/-- So the retry thread never drops one. -/
theorem not_drop (hrun : runs generateId maxRetries filter h = some p) {id : String} :
    retryStep maxRetries p.mem (.drop id) ≠ some m' := by
  intro hstep
  obtain ⟨r, fw, rest, hr, _, htodo, hskip, _⟩ := retryStep_drop hstep
  exact copy_not_blacklisted hrun (Writer.hasCopy_of_head hr htodo)
    (Writer.tableBlacklisted_of_shouldSkipTable.mp hskip)

/-! ## Steps of the retry thread -/

/-- The queued writes that have been counted as done with. -/
def WriterStats.retired (s : WriterStats) : ℕ := s.retriedWrites + s.abandonedWrites

/-- The retry thread leaves the counters of the calls alone. -/
theorem results_retryStep {a : RetryAction} (hstep : retryStep maxRetries m a = some m') :
    m'.stats.totalWrites = m.stats.totalWrites ∧
      m'.stats.successfulWrites = m.stats.successfulWrites ∧
      m'.stats.failedWrites = m.stats.failedWrites ∧
      m'.stats.filteredWrites = m.stats.filteredWrites := by
  cases a with
  | snapshot order => rw [(retryStep_snapshot hstep).2.2.2]; simp
  | abandon id =>
    obtain ⟨r, fw, rest, _, _, _, _, hm⟩ := retryStep_abandon hstep
    rw [hm]; simp
  | keep id =>
    obtain ⟨r, fw, rest, _, _, _, _, hm⟩ := retryStep_keep hstep
    rw [hm]; simp
  | isEnabled =>
    obtain ⟨r, _, _, hm⟩ := retryStep_isEnabled hstep
    rw [hm]; simp
  | drop id =>
    obtain ⟨r, fw, rest, _, _, _, _, hm⟩ := retryStep_drop hstep
    rw [hm]; simp
  | pass id =>
    obtain ⟨r, fw, rest, _, _, _, _, hm⟩ := retryStep_pass hstep
    rw [hm]; simp
  | execute id cql o =>
    obtain ⟨r, fw, rest, _, _, _, _, hm⟩ := retryStep_execute hstep
    rcases hm with ⟨_, hm⟩ | ⟨e, _, hm⟩ <;> rw [hm] <;> simp
  | apply =>
    obtain ⟨r, _, _, hm⟩ := retryStep_apply hstep
    rw [hm]; simp

/-- It counts every entry it disposes of, unless it drops it. -/
theorem retired_retryStep {a : RetryAction} (hstep : retryStep maxRetries m a = some m')
    (hdrop : ∀ id, a ≠ .drop id) :
    m'.stats.retired = m.stats.retired + if a.closed.isSome then 1 else 0 := by
  cases a with
  | snapshot order => rw [(retryStep_snapshot hstep).2.2.2]; simp [RetryAction.closed]
  | abandon id =>
    obtain ⟨r, fw, rest, _, _, _, _, hm⟩ := retryStep_abandon hstep
    rw [hm]
    simp only [RetryAction.closed, WriterStats.retired, Option.isSome_some, if_true]
    omega
  | keep id =>
    obtain ⟨r, fw, rest, _, _, _, _, hm⟩ := retryStep_keep hstep
    rw [hm]; simp [RetryAction.closed]
  | isEnabled =>
    obtain ⟨r, _, _, hm⟩ := retryStep_isEnabled hstep
    rw [hm]; simp [RetryAction.closed]
  | drop id => exact absurd rfl (hdrop id)
  | pass id =>
    obtain ⟨r, fw, rest, _, _, _, _, hm⟩ := retryStep_pass hstep
    rw [hm]; simp [RetryAction.closed]
  | execute id cql o =>
    obtain ⟨r, fw, rest, _, _, _, _, hm⟩ := retryStep_execute hstep
    rcases hm with ⟨ho, hm⟩ | ⟨e, ho, hm⟩
    · rw [hm, ho]
      simp only [RetryAction.closed, WriterStats.retired, Option.isSome_some, if_true]
      omega
    · rw [hm, ho]; simp [RetryAction.closed]
  | apply =>
    obtain ⟨r, _, _, hm⟩ := retryStep_apply hstep
    rw [hm]; simp [RetryAction.closed]

/-! ## The balance of the results -/

/-- Every write counted in `total_writes` is in one of the two results or under way, and no
write is filtered that is not counted. -/
structure ResultsBalance (p : State) : Prop where
  results : p.mem.stats.totalWrites = p.mem.stats.successfulWrites + p.mem.stats.failedWrites +
    p.threads.countP (·.pc.unsettled)
  filtered : p.mem.stats.filteredWrites + p.threads.countP (·.pc.undecided) ≤
    p.mem.stats.totalWrites

theorem ResultsBalance.act {b : CallAction} (hbal : ResultsBalance p)
    (hc : p.threads[w]? = some c) (hstep : callStep generateId w p.mem c b = some (m', c')) :
    ResultsBalance { mem := m', threads := p.threads.set w c' } := by
  have hunsettled := Pool.countP_set_add hc (·.pc.unsettled) c'
  have hundecided := Pool.countP_set_add hc (·.pc.undecided) c'
  have hresults := hbal.results
  have hfiltered := hbal.filtered
  -- each of the two counts of calls moves with the counter that the step increments
  cases callStep_countMove hstep with
  | total hpc hpc' hstats =>
    have hs : c.pc.unsettled = false := by rw [hpc]; rfl
    have hs' : c'.pc.unsettled = true := by rw [hpc']; rfl
    have hd : c.pc.undecided = false := by rw [hpc]; rfl
    have hd' : c'.pc.undecided = true := by rw [hpc']; rfl
    simp only [hs, hs', hd, hd', Bool.false_eq_true, if_false, if_true] at hunsettled hundecided
    refine ⟨?_, ?_⟩ <;> simp only [hstats] <;> omega
  | filtered hpc hpc' hstats =>
    have hs : c.pc.unsettled = true := by rw [hpc]; rfl
    have hs' : c'.pc.unsettled = true := by rw [hpc']; rfl
    have hd : c.pc.undecided = true := by rw [hpc]; rfl
    have hd' : c'.pc.undecided = false := by rw [hpc']; rfl
    simp only [hs, hs', hd, hd', Bool.false_eq_true, if_false, if_true] at hunsettled hundecided
    refine ⟨?_, ?_⟩ <;> simp only [hstats] <;> omega
  | result r hpc hpc' hstats =>
    have hs : c.pc.unsettled = true := by rw [hpc]; rfl
    have hs' : c'.pc.unsettled = false := by rw [hpc']; rfl
    have hd : c.pc.undecided = false := by rw [hpc]; rfl
    have hd' : c'.pc.undecided = false := by rw [hpc']; rfl
    simp only [hs, hs', hd, hd', Bool.false_eq_true, if_false, if_true] at hunsettled hundecided
    rcases hstats with hstats | hstats <;> refine ⟨?_, ?_⟩ <;> simp only [hstats] <;> omega
  | stay hpc hpc' hdecided hstats =>
    -- nothing is counted, and no call gets back before its filter decision
    simp only [hpc, hpc', if_true] at hunsettled
    have hle : (if c'.pc.undecided then 1 else 0) ≤ if c.pc.undecided then 1 else 0 := by
      by_cases hd : c'.pc.undecided
      · rw [if_pos hd, if_pos (hdecided hd)]
      · rw [if_neg hd]
        exact Nat.zero_le _
    refine ⟨?_, ?_⟩ <;> simp only [hstats] <;> omega

theorem ResultsBalance.step {a : Action} (hbal : ResultsBalance p)
    (hstep : Pool.step (program generateId maxRetries) p a = some p') : ResultsBalance p' := by
  cases a with
  | spawn k =>
    obtain rfl := Pool.step_spawn hstep
    -- a call that has just been made has not been counted anywhere
    have hnew : ∀ f : WriteCall → Bool, f ⟨k.cql, k.keyspace, .entered⟩ = false →
        (p.threads ++ [(⟨k.cql, k.keyspace, .entered⟩ : WriteCall)]).countP f =
          p.threads.countP f := by
      intro f hf
      rw [List.countP_append, List.countP_singleton, hf]
      rfl
    refine ⟨?_, ?_⟩
    · show _ = _ + (p.threads ++ [(⟨k.cql, k.keyspace, .entered⟩ : WriteCall)]).countP _
      rw [hnew _ rfl]
      exact hbal.results
    · show _ + (p.threads ++ [(⟨k.cql, k.keyspace, .entered⟩ : WriteCall)]).countP _ ≤ _
      rw [hnew _ rfl]
      exact hbal.filtered
  | act w b =>
    obtain ⟨c, m, c', hc, hthread, rfl⟩ := Pool.step_act hstep
    exact hbal.act hc hthread
  | env e =>
    obtain ⟨m, henv, rfl⟩ := Pool.step_env hstep
    cases e with
    | reload =>
      obtain rfl := Option.some.inj henv
      exact ⟨hbal.results, hbal.filtered⟩
    | retry a =>
      obtain ⟨htotal, hsuccess, hfailed, hfiltered⟩ := results_retryStep henv
      refine ⟨?_, ?_⟩
      · rw [htotal, hsuccess, hfailed]
        exact hbal.results
      · rw [htotal, hfiltered]
        exact hbal.filtered

theorem resultsBalance_of_runs (hrun : runs generateId maxRetries filter h = some p) :
    ResultsBalance p :=
  @run_invariant _ _ (Pool.step (program generateId maxRetries)) (initial filter)
    (fun _ p => ResultsBalance p) ⟨rfl, le_refl 0⟩ (fun _ _ _ _ hbal hstep => hbal.step hstep) h p hrun

/-! ## The balance of the queue -/

/-- The balance of the queue: `n` writes have been put in. -/
def QueueBalance (n : ℕ) (m : Writer) : Prop :=
  n + m.toRemove.length = m.stats.retired + m.pendingRetryCount

theorem QueueBalance.move {n : ℕ} {a : RetryAction} (hbal : QueueBalance n m)
    (hinv : QueueInv generateId h m) (hmove : QueueMove m m' a)
    (hstats : m'.stats.retired = m.stats.retired + if a.closed.isSome then 1 else 0) :
    QueueBalance n m' := by
  unfold QueueBalance at hbal ⊢
  rw [hstats]
  cases hmove with
  | snapshot order hidle hperm hclosed hqueue hretry =>
    simp only [Writer.toRemove, hidle, Writer.pendingRetryCount] at hbal
    simp only [Writer.toRemove, hretry, Writer.pendingRetryCount, hqueue, hclosed]
    exact hbal
  | stay r stage hcycle hclosed hqueue hretry =>
    simp only [Writer.toRemove, hcycle, Writer.pendingRetryCount] at hbal
    simp only [Writer.toRemove, hretry, Writer.pendingRetryCount, hqueue, hclosed]
    exact hbal
  | close r id fw rest hcycle htodo hclosed hqueue hretry =>
    simp only [Writer.toRemove, hcycle, Writer.pendingRetryCount] at hbal
    -- one more entry to remove, and one more write retired: the map is not touched yet
    simp only [Writer.toRemove, hretry, Writer.pendingRetryCount, hqueue, hclosed,
      RetryCycle.remove, List.length_append, List.length_singleton, Option.isSome_some, if_true]
    omega
  | fail r id fw rest e hcycle htodo ha hqueue hretry =>
    simp only [Writer.toRemove, hcycle, Writer.pendingRetryCount] at hbal
    simp only [Writer.toRemove, hretry, Writer.pendingRetryCount, hqueue, ha, RetryAction.closed,
      RetryCycle.update]
    exact hbal
  | apply r hcycle htodo hclosed hqueue hretry =>
    -- the entries to remove leave the map, all at once
    have hlength := hinv.length_apply hcycle htodo hqueue
    simp only [Writer.toRemove, hcycle] at hbal
    simp only [Writer.toRemove, hretry, hclosed, List.length_nil, Option.isSome_none,
      Bool.false_eq_true, if_false]
    omega

/-- A write is put in `failed_writes_`. -/
def isEnqueue : Action → Bool
  | .act _ .enqueue => true
  | _ => false

theorem countP_isEnqueue_concat {a : Action} (ha : isEnqueue a = false) :
    (h ++ [a]).countP isEnqueue = h.countP isEnqueue := by
  rw [List.countP_append, List.countP_singleton, ha]
  rfl

/-- The queue keeps its balance while a call takes a step. -/
theorem QueueBalance.call {b : CallAction} (hbal : QueueBalance (h.countP isEnqueue) m)
    (hgen : Function.Injective generateId) (hinv : QueueInv generateId h m) (hc : CallInv h w c)
    (hstep : callStep generateId w m c b = some (m', c')) :
    QueueBalance ((h ++ [PoolAction.act w b]).countP isEnqueue) m' := by
  have hretired : m'.stats.retired = m.stats.retired := by
    cases callStep_countMove hstep with
    | total _ _ hstats => rw [hstats]; rfl
    | filtered _ _ hstats => rw [hstats]; rfl
    | result r _ _ hstats => rcases hstats with hstats | hstats <;> rw [hstats] <;> rfl
    | stay _ _ _ hstats => rw [hstats]
  unfold QueueBalance at hbal ⊢
  rw [hretired]
  by_cases hb : b = .enqueue
  · subst hb
    obtain ⟨e, hpc, hm, _⟩ := callStep_enqueue hstep
    have hst := hc.stage
    rw [stageInv, hpc] at hst
    -- the one step of a call that touches the queue: one entry more, under a fresh id
    have hfresh : generateId w ∉ m.failedWrites :=
      AList.lookup_eq_none.mp (hinv.fresh hgen hst.1.2)
    have hlen : m'.pendingRetryCount = m.pendingRetryCount + 1 := by
      rw [hm]
      exact KVMap.length_keys_emplace hfresh
    have hone : (h ++ [(.act w .enqueue : Action)]).countP isEnqueue = h.countP isEnqueue + 1 := by
      rw [List.countP_append]
      rfl
    have hrem : m'.toRemove = m.toRemove := by
      rw [hm]
      rfl
    rw [hlen, hone, hrem]
    omega
  · obtain ⟨hqueue, hretry⟩ := callStep_queue hstep hb
    have hno : isEnqueue (.act w b) = false := by
      cases b <;> first | rfl | exact absurd rfl hb
    have hrem : m'.toRemove = m.toRemove := by
      simp only [Writer.toRemove, hretry]
    rw [countP_isEnqueue_concat hno, hrem, Writer.pendingRetryCount, hqueue]
    exact hbal

theorem QueueBalance.env {n : ℕ} {e : EnvAction} (hbal : QueueBalance n p.mem)
    (hrun : runs generateId maxRetries filter h = some p) (hqueue : QueueInv generateId h p.mem)
    (hstep : envStep maxRetries p.mem e = some m') : QueueBalance n m' := by
  cases e with
  | reload =>
    obtain rfl := Option.some.inj hstep
    exact hbal
  | retry a =>
    -- the retry thread never drops an entry: what the governor skips was not queued
    have hdrop : ∀ id, a ≠ .drop id := by
      intro id ha
      rw [ha] at hstep
      exact not_drop hrun hstep
    exact hbal.move hqueue (retryStep_move hstep) (retired_retryStep hstep hdrop)

theorem queueBalance_of_runs (hgen : Function.Injective generateId)
    (hrun : runs generateId maxRetries filter h = some p) :
    QueueBalance (h.countP isEnqueue) p.mem := by
  refine @run_invariant_of_run _ _ (Pool.step (program generateId maxRetries)) (initial filter)
    (fun h p => QueueBalance (h.countP isEnqueue) p.mem) rfl ?_ h p hrun
  intro h p a p' hrun hbal hstep
  have hshadow := shadowInv_of_runs hgen hrun
  cases a with
  | spawn k =>
    obtain rfl := Pool.step_spawn hstep
    rw [countP_isEnqueue_concat rfl]
    exact hbal
  | act w b =>
    obtain ⟨c, m, c', hc, hthread, rfl⟩ := Pool.step_act hstep
    exact hbal.call hgen hshadow.1.queue (hshadow.2 w c hc) hthread
  | env e =>
    obtain ⟨m, henv, rfl⟩ := Pool.step_env hstep
    rw [countP_isEnqueue_concat rfl]
    exact hbal.env hrun hshadow.1.queue henv

/-! ## The result -/

structure CountersInv (h : List Action) (p : State) : Prop where
  results : p.mem.stats.totalWrites = p.mem.stats.successfulWrites + p.mem.stats.failedWrites +
    p.threads.countP (·.pc.unsettled)
  filtered : p.mem.stats.filteredWrites + p.threads.countP (·.pc.undecided) ≤
    p.mem.stats.totalWrites
  queue : QueueBalance (h.countP isEnqueue) p.mem

theorem countersInv_of_runs (hgen : Function.Injective generateId)
    (hrun : runs generateId maxRetries filter h = some p) : CountersInv h p := by
  have hbal := resultsBalance_of_runs hrun
  exact ⟨hbal.results, hbal.filtered, queueBalance_of_runs hgen hrun⟩

/-- Between calls and between retry cycles every write is accounted for: its result in
`successful_writes` or `failed_writes`, and every write ever put in the retry queue in
`retried_writes`, in `abandoned_writes` or still in the queue. -/
theorem counters_account_for_every_write (generateId : ℕ → String) (maxRetries : UInt32)
    (filter : Option BlacklistFilterGovernor) (h : List Action) (p : State)
    (hgen : Function.Injective generateId)
    (hrun : runs generateId maxRetries filter h = some p)
    (hreturned : ∀ c ∈ p.threads, ∃ r, c.pc = .returned r) (hidle : p.mem.retry = none) :
    p.mem.stats.totalWrites = p.mem.stats.successfulWrites + p.mem.stats.failedWrites ∧
      p.mem.stats.filteredWrites ≤ p.mem.stats.totalWrites ∧
      h.countP isEnqueue =
        p.mem.stats.retriedWrites + p.mem.stats.abandonedWrites + p.mem.pendingRetryCount := by
  have hinv := countersInv_of_runs hgen hrun
  have hsettled : p.threads.countP (·.pc.unsettled) = 0 := by
    rw [List.countP_eq_zero]
    intro c hc
    obtain ⟨r, hr⟩ := hreturned c hc
    simp [hr, Pc.unsettled]
  have hresults := hinv.results
  have hfiltered := hinv.filtered
  have hqueue := hinv.queue
  rw [QueueBalance, Writer.toRemove, hidle] at hqueue
  refine ⟨?_, ?_, ?_⟩
  · rw [hresults, hsettled, Nat.add_zero]
  · omega
  · exact hqueue

/-- One write that is filtered, one whose shadow write is queued and retried. -/
def filteredAndRetried : List Action :=
  [.spawn ⟨"INSERT INTO app.migrations (id) VALUES (1)", "app.migrations"⟩,
    .act 0 .countTotal, .act 0 .isEnabled, .act 0 .shouldSkipTable, .act 0 .countFiltered,
    .act 0 (.sourceExecute "INSERT INTO app.migrations (id) VALUES (1)" .ok), .act 0 .finish,
    .spawn ⟨"INSERT INTO app.files (id) VALUES (2)", "app.files"⟩,
    .act 1 .countTotal, .act 1 .isEnabled, .act 1 .shouldSkipTable,
    .act 1 (.sourceExecute "INSERT INTO app.files (id) VALUES (2)" .ok),
    .act 1 (.targetExecute "INSERT INTO app.files (id) VALUES (2)" (.syncError "timeout")),
    .act 1 .enqueue, .act 1 .finish, .env .reload, .env (.retry (.snapshot ["x"])),
    .env (.retry (.keep "x")), .env (.retry .isEnabled), .env (.retry (.pass "x")),
    .env (.retry (.execute "x" "INSERT INTO app.files (id) VALUES (2)" .ok)), .env (.retry .apply)]

/-- The state it leads to. -/
def filteredAndRetriedState : State where
  mem :=
    { filter := some { BlacklistFilterGovernor.ofConfig gcpOnlyTenant with
        stats := { tablesSkipped := 1 } }
      stats :=
        { totalWrites := 2, successfulWrites := 2, retriedWrites := 1, filteredWrites := 1 } }
  threads :=
    [{ cql := "INSERT INTO app.migrations (id) VALUES (1)", keyspace := "app.migrations"
       pc := .returned { sourceOk := true } },
      { cql := "INSERT INTO app.files (id) VALUES (2)", keyspace := "app.files"
        pc := .returned (Writer.shadowFailed "timeout") }]

theorem runs_filteredAndRetried :
    runs unaryId 3 (some (.ofConfig gcpOnlyTenant)) filteredAndRetried =
      some filteredAndRetriedState := by
  rfl

theorem counters_account_for_every_write_retried :
    filteredAndRetriedState.mem.stats.totalWrites =
        filteredAndRetriedState.mem.stats.successfulWrites +
          filteredAndRetriedState.mem.stats.failedWrites ∧
      filteredAndRetriedState.mem.stats.filteredWrites ≤
        filteredAndRetriedState.mem.stats.totalWrites ∧
      filteredAndRetried.countP isEnqueue = filteredAndRetriedState.mem.stats.retriedWrites +
        filteredAndRetriedState.mem.stats.abandonedWrites +
          filteredAndRetriedState.mem.pendingRetryCount :=
  counters_account_for_every_write unaryId 3 (some (.ofConfig gcpOnlyTenant))
    filteredAndRetried filteredAndRetriedState unaryId_injective runs_filteredAndRetried
    (by simp [filteredAndRetriedState]) rfl

end DualWriter
end ScyllaClusterSync
