import ScyllaClusterSync.DualWriter.RetryQueue
import ScyllaClusterSync.DualWriter.WriteTheorems

/-!
# What the filter gate lets through to the target

The gate of `write()` and the re-check of the retry loop ask `should_skip_table` and
nothing else. So what reaches the target, directly or from the queue, is the statements
of the calls whose keyspace argument is not blacklisted (`target_of_runs`), whatever
tenants they are about: `blacklisted_tenant_iff`.
-/

namespace ScyllaClusterSync
namespace DualWriter

open Svckit Lib

variable {generateId : ℕ → String} {maxRetries : UInt32} {config : FilterConfig}
  {K : Set WriteRequest} {h : List Action} {m m' : Writer}

/-! ## Copies of an entry keep its statement and its keyspace -/

theorem copy_of_enqueue {id cql keyspace e id' : String} {fw : FailedWrite}
    (hcopy : (m.enqueueFailedWrite id cql keyspace e).HasCopy id' fw) :
    m.HasCopy id' fw ∨ (id' = id ∧ fw.cql = cql ∧ fw.keyspace = keyspace) := by
  rcases hcopy with hl | hl
  · rcases KVMap.of_lookup_emplace hl with hl | ⟨hid, hfw⟩
    · exact Or.inl (Or.inl hl)
    · rw [hfw]
      exact Or.inr ⟨hid, rfl, rfl⟩
  · exact Or.inl (Or.inr hl)

theorem copy_of_move {a : RetryAction} (hmove : QueueMove m m' a) {id : String} {fw : FailedWrite}
    (hcopy : m'.HasCopy id fw) :
    ∃ fw', m.HasCopy id fw' ∧ fw'.cql = fw.cql ∧ fw'.keyspace = fw.keyspace := by
  cases hmove with
  -- no step of the cycle changes the text or the keyspace of an entry, in any of its copies
  | snapshot order hidle _ _ hqueue hretry =>
    simp only [Writer.HasCopy, Writer.todo, Writer.toUpdate, hqueue, hretry, KVMap.mem_entriesAt,
      List.not_mem_nil, or_false] at hcopy
    rcases hcopy with hl | ⟨_, hl⟩
    · exact ⟨fw, Or.inl hl, rfl, rfl⟩
    · exact ⟨fw, Or.inl hl, rfl, rfl⟩
  | stay r stage hcycle _ hqueue hretry =>
    refine ⟨fw, ?_, rfl, rfl⟩
    simpa only [Writer.HasCopy, Writer.todo, Writer.toUpdate, hqueue, hretry, hcycle] using hcopy
  | close r id' fw' rest hcycle htodo _ hqueue hretry =>
    refine ⟨fw, ?_, rfl, rfl⟩
    simp only [Writer.HasCopy, Writer.todo, Writer.toUpdate, hqueue, hretry, hcycle,
      RetryCycle.remove, htodo, List.tail_cons, List.mem_cons] at hcopy ⊢
    tauto
  | fail r id' fw' rest e hcycle htodo _ hqueue hretry =>
    simp only [Writer.HasCopy, Writer.todo, Writer.toUpdate, hqueue, hretry, RetryCycle.update,
      htodo, List.tail_cons, List.mem_append, List.mem_singleton, Prod.mk.injEq] at hcopy
    rcases hcopy with hl | hl | hl | ⟨hid, hfw⟩
    · exact ⟨fw, Or.inl hl, rfl, rfl⟩
    · refine ⟨fw, Or.inr (Or.inl ?_), rfl, rfl⟩
      simp only [Writer.todo, hcycle, htodo]
      exact List.mem_cons_of_mem _ hl
    · refine ⟨fw, Or.inr (Or.inr ?_), rfl, rfl⟩
      simpa only [Writer.toUpdate, hcycle] using hl
    · subst hid hfw
      refine ⟨fw', Or.inr (Or.inl ?_), rfl, rfl⟩
      simp only [Writer.todo, hcycle, htodo]
      exact List.mem_cons_self
  | apply r hcycle _ _ hqueue hretry =>
    simp only [Writer.HasCopy, Writer.todo, Writer.toUpdate, hqueue, hretry, List.not_mem_nil,
      or_false] at hcopy
    refine ⟨fw, ?_, rfl, rfl⟩
    rcases KVMap.of_lookup_insertAll hcopy with hl | hl
    · exact Or.inl (KVMap.of_lookup_eraseAll hl)
    · refine Or.inr (Or.inr ?_)
      simpa only [Writer.toUpdate, hcycle] using hl

/-! ## The gate -/

/-- A request of `K` whose keyspace argument is not blacklisted. -/
def Admitted (config : FilterConfig) (K : Set WriteRequest) (k : WriteRequest) : Prop :=
  k ∈ K ∧ ¬ (Blacklists.load config).skipsTable k.keyspace

/-- The call has been let through to the target. -/
def Pc.pastGate : Pc → Bool
  | .dualSource => true
  | .dualTarget => true
  | .enqueue _ => true
  | _ => false

/-- The governor in place was built from this configuration. -/
def Configured (config : FilterConfig) (m : Writer) : Prop :=
  ∃ g, m.filter = some g ∧ g.config = config

structure GateInv (config : FilterConfig) (K : Set WriteRequest) (h : List Action) (m : Writer) :
    Prop where
  configured : Configured config m
  copies : ∀ id fw, m.HasCopy id fw → Admitted config K ⟨fw.cql, fw.keyspace⟩
  target : ∀ a ∈ h, ∀ cql o, clusterCall a = some (.target cql o) →
    ∃ keyspace, Admitted config K ⟨cql, keyspace⟩

structure GateCallInv (config : FilterConfig) (K : Set WriteRequest) (c : WriteCall) : Prop where
  request : ⟨c.cql, c.keyspace⟩ ∈ K
  gate : c.pc.pastGate → ¬ (Blacklists.load config).skipsTable c.keyspace

theorem GateInv.tableBlacklisted (hinv : GateInv config K h m) (keyspace : String) :
    m.tableBlacklisted keyspace = (Blacklists.load config).skipsTable keyspace := by
  obtain ⟨g, hg, hconfig⟩ := hinv.configured
  rw [Writer.tableBlacklisted, hg]
  show (Blacklists.load g.config).skipsTable keyspace = _
  rw [hconfig]

/-- What the governor in place is configured with, if there is one. -/
def filterConfig (m : Writer) : Option FilterConfig := m.filter.map fun g => g.config

theorem configured_iff : Configured config m ↔ filterConfig m = some config := by
  rw [Configured, filterConfig, Option.map_eq_some_iff]

theorem filterConfig_shouldSkipTable (m : Writer) (keyspace : String) :
    filterConfig (m.shouldSkipTable keyspace).2 = filterConfig m := by
  unfold Writer.shouldSkipTable filterConfig
  cases hf : m.filter with
  | none => simp [hf]
  | some g => simp

/-- Checks and reloads replace the governor, but not what it is configured with. -/
theorem filterConfig_callStep {w : ℕ} {c c' : WriteCall} {b : CallAction}
    (hstep : callStep generateId w m c b = some (m', c')) : filterConfig m' = filterConfig m := by
  cases b with
  | countTotal => rw [(callStep_countTotal hstep).2.1]; rfl
  | isEnabled => rw [(callStep_isEnabled hstep).2.1]
  | shouldSkipTable => rw [(callStep_shouldSkipTable hstep).2.1, filterConfig_shouldSkipTable]
  | countFiltered => rw [(callStep_countFiltered hstep).2.1]; rfl
  | sourceExecute q o => rw [(callStep_sourceExecute hstep).2.1]
  | targetExecute q o => rw [(callStep_targetExecute hstep).2.2.1]
  | enqueue =>
    obtain ⟨e, _, heq, _⟩ := callStep_enqueue hstep
    rw [heq]; rfl
  | finish =>
    obtain ⟨r, _, heq, _⟩ := callStep_finish hstep
    rw [heq, filterConfig, Writer.filter_countResult]; rfl

theorem filterConfig_retryStep {a : RetryAction} (hstep : retryStep maxRetries m a = some m') :
    filterConfig m' = filterConfig m := by
  cases a with
  | snapshot order => rw [(retryStep_snapshot hstep).2.2.2]; rfl
  | abandon id =>
    obtain ⟨r, fw, rest, _, _, _, _, heq⟩ := retryStep_abandon hstep
    rw [heq]; rfl
  | keep id =>
    obtain ⟨r, fw, rest, _, _, _, _, heq⟩ := retryStep_keep hstep
    rw [heq]; rfl
  | isEnabled =>
    obtain ⟨r, _, _, heq⟩ := retryStep_isEnabled hstep
    rw [heq]; rfl
  | drop id =>
    obtain ⟨r, fw, rest, _, _, _, _, heq⟩ := retryStep_drop hstep
    rw [heq]; exact filterConfig_shouldSkipTable m fw.keyspace
  | pass id =>
    obtain ⟨r, fw, rest, _, _, _, _, heq⟩ := retryStep_pass hstep
    rw [heq]; exact filterConfig_shouldSkipTable m fw.keyspace
  | execute id cql o =>
    obtain ⟨r, fw, rest, _, _, _, _, hor⟩ := retryStep_execute hstep
    rcases hor with ⟨_, heq⟩ | ⟨e, _, heq⟩ <;> rw [heq] <;> rfl
  | apply =>
    obtain ⟨r, _, _, heq⟩ := retryStep_apply hstep
    rw [heq]; rfl

theorem filterConfig_envStep {e : EnvAction} (hstep : envStep maxRetries m e = some m') :
    filterConfig m' = filterConfig m := by
  cases e with
  | retry a => exact filterConfig_retryStep hstep
  | reload =>
    obtain rfl := Option.some.inj hstep
    unfold filterConfig
    cases m.filter <;> rfl

/-! ## One step -/

/-- A call gets past the gate only when its keyspace argument is not blacklisted. -/
theorem GateCallInv.step {w : ℕ} {c c' : WriteCall} {b : CallAction} (hc : GateCallInv config K c)
    (hinv : GateInv config K h m) (hstep : callStep generateId w m c b = some (m', c')) :
    GateCallInv config K c' := by
  obtain ⟨hcql, hks⟩ := callStep_request hstep
  refine ⟨?_, ?_⟩
  · rw [hcql, hks]
    exact hc.request
  rw [hks]
  intro hpast
  cases b with
  | countTotal =>
    rw [(callStep_countTotal hstep).2.2] at hpast
    exact absurd hpast (by simp [Pc.pastGate])
  | isEnabled =>
    rw [(callStep_isEnabled hstep).2.2] at hpast
    intro hskip
    -- a governor with a rule for the table is enabled
    have henabled := Writer.filterEnabled_of_tableBlacklisted
      ((hinv.tableBlacklisted c.keyspace).trans hskip)
    simp [henabled, Pc.pastGate] at hpast
  | shouldSkipTable =>
    rw [(callStep_shouldSkipTable hstep).2.2] at hpast
    intro hskip
    have hdecision := Writer.tableBlacklisted_of_shouldSkipTable.mpr
      ((hinv.tableBlacklisted c.keyspace).trans hskip)
    simp [hdecision, Pc.pastGate] at hpast
  | countFiltered =>
    rw [(callStep_countFiltered hstep).2.2] at hpast
    exact absurd hpast (by simp [Pc.pastGate])
  | sourceExecute q o =>
    rcases (callStep_sourceExecute hstep).2.2 with ⟨_, heq⟩ | ⟨hpc, _⟩
    · rw [heq] at hpast
      exact absurd hpast (by simp [Pc.pastGate])
    · -- past the gate the source execute leads on to the target
      exact hc.gate (by rw [hpc]; rfl)
  | targetExecute q o =>
    have hpc := (callStep_targetExecute hstep).2.1
    exact hc.gate (by rw [hpc]; rfl)
  | enqueue =>
    obtain ⟨e, hpc, _, _⟩ := callStep_enqueue hstep
    exact hc.gate (by rw [hpc]; rfl)
  | finish =>
    obtain ⟨r, _, _, heq⟩ := callStep_finish hstep
    rw [heq] at hpast
    exact absurd hpast (by simp [Pc.pastGate])

theorem mem_concat_target {a : Action}
    (htarget : ∀ b ∈ h, ∀ cql o, clusterCall b = some (.target cql o) →
      ∃ keyspace, Admitted config K ⟨cql, keyspace⟩)
    (ha : ∀ cql o, clusterCall a = some (.target cql o) →
      ∃ keyspace, Admitted config K ⟨cql, keyspace⟩) :
    ∀ b ∈ h ++ [a], ∀ cql o, clusterCall b = some (.target cql o) →
      ∃ keyspace, Admitted config K ⟨cql, keyspace⟩ := by
  intro b hb cql o hcall
  rcases List.mem_append.mp hb with hb | hb
  · exact htarget b hb cql o hcall
  · rw [List.mem_singleton.mp hb] at hcall
    exact ha cql o hcall

theorem GateInv.call {w : ℕ} {c c' : WriteCall} {b : CallAction} (hinv : GateInv config K h m)
    (hc : GateCallInv config K c) (hstep : callStep generateId w m c b = some (m', c')) :
    GateInv config K (h ++ [PoolAction.act w b]) m' := by
  have hconfig : Configured config m' := by
    rw [configured_iff, filterConfig_callStep hstep]
    exact configured_iff.mp hinv.configured
  refine ⟨hconfig, ?_, mem_concat_target hinv.target ?_⟩
  · intro id fw hcopy
    by_cases hb : b = .enqueue
    · subst hb
      obtain ⟨e, hpc, hm, _⟩ := callStep_enqueue hstep
      rw [hm] at hcopy
      -- only a call that is past the gate enqueues
      rcases copy_of_enqueue hcopy with hold | ⟨_, hcql, hks⟩
      · exact hinv.copies id fw hold
      · rw [hcql, hks]
        exact ⟨hc.request, hc.gate (by rw [hpc]; rfl)⟩
    · obtain ⟨hqueue, hretry⟩ := callStep_queue hstep hb
      apply hinv.copies id fw
      simpa only [Writer.HasCopy, Writer.todo, Writer.toUpdate, hqueue, hretry] using hcopy
  · intro cql o hcall
    cases b with
    | targetExecute q o' =>
      obtain ⟨hq, hpc, _, _⟩ := callStep_targetExecute hstep
      simp only [clusterCall, Option.some.injEq, ClusterCall.target.injEq] at hcall
      rw [← hcall.1, hq]
      exact ⟨c.keyspace, hc.request, hc.gate (by rw [hpc]; rfl)⟩
    | _ => simp [clusterCall] at hcall

theorem GateInv.env {e : EnvAction} (hinv : GateInv config K h m)
    (hstep : envStep maxRetries m e = some m') : GateInv config K (h ++ [PoolAction.env e]) m' := by
  have hconfig : Configured config m' := by
    rw [configured_iff, filterConfig_envStep hstep]
    exact configured_iff.mp hinv.configured
  cases e with
  | reload =>
    obtain rfl := Option.some.inj hstep
    exact ⟨hconfig, hinv.copies, mem_concat_target hinv.target (by simp [clusterCall])⟩
  | retry a =>
    have hret : retryStep maxRetries m a = some m' := hstep
    refine ⟨hconfig, ?_, mem_concat_target hinv.target ?_⟩
    · intro id fw hcopy
      -- the cycle passes on the text and the keyspace it was given
      obtain ⟨fw', hold, hcql, hks⟩ := copy_of_move (retryStep_move hret) hcopy
      rw [← hcql, ← hks]
      exact hinv.copies id fw' hold
    · intro cql o hcall
      cases a with
      | execute id q o' =>
        obtain ⟨r, fw, rest, hr, _, htodo, hq, _⟩ := retryStep_execute hret
        simp only [clusterCall, Option.some.injEq, ClusterCall.target.injEq] at hcall
        rw [← hcall.1, hq]
        exact ⟨fw.keyspace, hinv.copies id fw (Writer.hasCopy_of_head hr htodo)⟩
      | _ => simp [clusterCall] at hcall

/-! ## Whole runs -/

theorem gateInv_of_runs {g : BlacklistFilterGovernor} (hg : g.config = config) {p : State}
    (hrun : runs generateId maxRetries (some g) h = some p) (hK : ∀ k, .spawn k ∈ h → k ∈ K) :
    Pool.Holds (GateInv config K) (fun _ _ _ c => GateCallInv config K c) h p := by
  have hmem : ∀ a ∈ h, ∀ k, a = .spawn k → k ∈ K := fun a ha k heq => hK k (heq ▸ ha)
  refine Pool.invariant_of_meets ?_ ?_ ?_ ?_ h p ((Pool.meets_true h).and_of_mem hmem) hrun
  · refine ⟨⟨g, rfl, hg⟩, ?_, by simp⟩
    intro id fw hcopy
    simp [Writer.HasCopy, Writer.todo, Writer.toUpdate] at hcopy
  · intro h p k hp hC _
    refine ⟨⟨hp.1.configured, hp.1.copies, mem_concat_target hp.1.target (by simp [clusterCall])⟩,
      ⟨hC.2 k rfl, ?_⟩, fun j u hu => hu⟩
    simp [program, Pc.pastGate]
  · intro h p i b c m' c' hp _ hc hstep
    have hlocal := hp.2 i c hc
    exact ⟨hp.1.call hlocal hstep, hlocal.step hp.1 hstep, fun j u _ hu => hu⟩
  · intro h p e m' hp _ hstep
    exact ⟨hp.1.env hstep, fun j u hu => hu⟩

/-- In every run whose calls are all in `K`, what the target is asked to execute are the
statements of calls in `K` with a keyspace argument that is not blacklisted. -/
theorem target_of_runs {p : State}
    (hrun : runs generateId maxRetries (some (.ofConfig config)) h = some p)
    (hK : ∀ k, .spawn k ∈ h → k ∈ K) {a : Action} (ha : a ∈ h) {cql : String} {o : Outcome}
    (hcall : clusterCall a = some (.target cql o)) :
    ∃ keyspace, Admitted config K ⟨cql, keyspace⟩ :=
  (gateInv_of_runs rfl hrun hK).1.target a ha cql o hcall

/-- A call that is not blacklisted reaches the target when it runs alone and the source
accepts it. -/
theorem exists_run_target (generateId : ℕ → String) (maxRetries : UInt32) {k : WriteRequest}
    (hskip : ¬ (Blacklists.load config).skipsTable k.keyspace) :
    ∃ h p, runs generateId maxRetries (some (.ofConfig config)) h = some p ∧
      (∀ k', .spawn k' ∈ h → k' = k) ∧ .act 0 (.targetExecute k.cql .ok) ∈ h := by
  let m : Writer := { filter := some (.ofConfig config) }
  let p : State := { mem := m, threads := [{ cql := k.cql, keyspace := k.keyspace }] }
  have hthread : p.threads[0]? = some { cql := k.cql, keyspace := k.keyspace } := rfl
  have hrun := (runs_write generateId maxRetries 0 k.cql k.keyspace .ok .ok hthread).1
  have hdecision : (m.shouldSkipTable k.keyspace).1 ≠ .skipTable := by
    intro hskip'
    exact hskip (Writer.tableBlacklisted_of_shouldSkipTable.mp hskip')
  -- an allowed call takes the branch with both executes
  have hmem : .targetExecute k.cql .ok ∈ writeActions m k.cql k.keyspace .ok .ok := by
    unfold writeActions
    rw [if_neg hdecision]
    split <;> simp [dualActions]
  refine ⟨.spawn k :: (writeActions m k.cql k.keyspace .ok .ok).map (.act 0), _, hrun, ?_, ?_⟩
  · intro k' hk'
    simpa using hk'
  · exact List.mem_cons_of_mem _ (List.mem_map_of_mem hmem)

/-! ## Tenants -/

/-- The statement gives a tenant-id column a value that `check_tenant_id` skips.
`columnValues` is how the clusters read an INSERT, UPDATE or DELETE: the columns it gives
values to, with the values. -/
def carriesBlacklistedTenant (columnValues : String → List (String × String))
    (config : FilterConfig) (cql : String) : Bool :=
  (columnValues cql).any fun cv => config.tenantIdColumns.contains cv.1 &&
    ((BlacklistFilterGovernor.ofConfig config).checkTenantId cv.2).1 == .skipTenant

/-- Whatever requests `K` the clients issue: no run executes a statement that carries a
blacklisted tenant on the target exactly when every such statement of `K` comes with a
keyspace argument that the table blacklist matches. -/
theorem blacklisted_tenant_iff (columnValues : String → List (String × String))
    (generateId : ℕ → String) (maxRetries : UInt32) (config : FilterConfig)
    (K : Set WriteRequest) :
    (∀ h p, runs generateId maxRetries (some (.ofConfig config)) h = some p →
      (∀ k, .spawn k ∈ h → k ∈ K) →
      ∀ a ∈ h, ∀ cql o, clusterCall a = some (.target cql o) →
        ¬ carriesBlacklistedTenant columnValues config cql) ↔
    ∀ k ∈ K, carriesBlacklistedTenant columnValues config k.cql →
      (Blacklists.load config).skipsTable k.keyspace := by
  constructor
  · intro hsafe k hk hcarries
    by_contra hskip
    obtain ⟨h, p, hrun, hspawn, hmem⟩ := exists_run_target generateId maxRetries hskip
    exact hsafe h p hrun (fun k' hk' => hspawn k' hk' ▸ hk) _ hmem k.cql .ok rfl hcarries
  · intro hcond h p hrun hK a ha cql o hcall hcarries
    obtain ⟨keyspace, hk, hskip⟩ := target_of_runs hrun hK ha hcall
    exact hskip (hcond ⟨cql, keyspace⟩ hk hcarries)

/-- The text between the first `(` and the `)` after it, and what follows. -/
def parenthesised (s : List Char) : List Char × List Char :=
  let inner := (s.dropWhile (· != '(')).tail
  (inner.takeWhile (· != ')'), inner.dropWhile (· != ')'))

/-- The items of a comma-separated list, without blanks and quotes. -/
def listItems (s : List Char) : List String :=
  (s.splitOn ',').map fun item => String.ofList (item.filter fun c => c != ' ' && c != '\'')

/-- How `INSERT INTO t (c, ...) VALUES (v, ...)` with constants for values is read. -/
def insertColumnValues (cql : String) : List (String × String) :=
  let columns := parenthesised cql.toList
  (listItems columns.1).zip (listItems (parenthesised columns.2).1)

/-- The rules file's first tenant, on the column its comment names. -/
def gcpOnlyTenant : FilterConfig where
  tenantBlacklist := ["e19206ba-c584-11e8-882a-0a580a30028e"]
  tableBlacklist := ["*.migrations"]
  tenantIdColumns := ["system_domain_id"]

/-- An INSERT for that tenant, into a table that is not blacklisted. -/
def blockedInsert : WriteRequest where
  cql := "INSERT INTO app.files (system_domain_id, id) VALUES (e19206ba-c584-11e8-882a-0a580a30028e, 7)"
  keyspace := "app.files"

/-- The governor would skip the tenant, but nobody asks it: the write is executed on the
target. -/
theorem blacklisted_tenant_reaches_target :
    ¬ ∀ (h : List Action) (p : State),
      runs (fun _ => "") 3 (some (.ofConfig gcpOnlyTenant)) h = some p →
      ∀ a ∈ h, ∀ cql o, clusterCall a = some (.target cql o) →
        ¬ carriesBlacklistedTenant insertColumnValues gcpOnlyTenant cql := by
  intro hall
  have hrun : runs (fun _ => "") 3 (some (.ofConfig gcpOnlyTenant))
      [.spawn blockedInsert, .act 0 .countTotal, .act 0 .isEnabled, .act 0 .shouldSkipTable,
        .act 0 (.sourceExecute blockedInsert.cql .ok),
        .act 0 (.targetExecute blockedInsert.cql .ok), .act 0 .finish] = some _ := rfl
  exact hall _ _ hrun (.act 0 (.targetExecute blockedInsert.cql .ok)) (by decide)
    blockedInsert.cql .ok rfl (by decide +kernel)

end DualWriter
end ScyllaClusterSync
