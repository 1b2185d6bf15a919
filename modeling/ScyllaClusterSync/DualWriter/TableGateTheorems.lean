import ScyllaClusterSync.DualWriter.FilterGateTheorems

/-!
# Blacklisted tables never reach the target

Every `execute` on the target is made for one particular call: by the call itself, or by
the retry thread for the entry that call has queued. `TableGateInv` says so of every
reachable state, and that the keyspace argument of that call matches no entry of the
table blacklist. Reloading puts the same sets back, so what was let through once would be
let through again.
-/

namespace ScyllaClusterSync
namespace DualWriter

open Svckit Lib

variable {generateId : ℕ → String} {maxRetries : UInt32} {config : FilterConfig}
  {h : List Action} {p p' : State}

/-- The table is on the blacklist, or an entry `*.suffix` matches it. -/
def MatchesBlacklist (config : FilterConfig) (table : String) : Prop :=
  table ∈ config.tableBlacklist ∨ ∃ pattern ∈ config.tableBlacklist, wildcardMatches table pattern

theorem skipsTable_load {table : String} :
    (Blacklists.load config).skipsTable table ↔ MatchesBlacklist config table := by
  simp only [Blacklists.skipsTable, Blacklists.load, MatchesBlacklist, Bool.or_eq_true,
    List.contains_iff_mem, List.any_eq_true, StringSet.mem_ofList]

/-! ## Calls with a statement that may reach the target -/

/-- Call `w` is about the statement `cql`, and its keyspace argument is not blacklisted. -/
def AllowedCall (config : FilterConfig) (p : State) (w : ℕ) (cql : String) : Prop :=
  ∃ c, p.threads[w]? = some c ∧ c.cql = cql ∧ ¬ MatchesBlacklist config c.keyspace

theorem AllowedCall.step {w : ℕ} {cql : String} {a : Action} (hcall : AllowedCall config p w cql)
    (hstep : Pool.step (program generateId maxRetries) p a = some p') :
    AllowedCall config p' w cql := by
  obtain ⟨c, hc, hcql, hallowed⟩ := hcall
  rcases Pool.getElem?_of_step hstep hc with hsame | ⟨b, c', _, hthread, hc'⟩
  · exact ⟨c, hsame, hcql, hallowed⟩
  · obtain ⟨hcql', hks'⟩ := callStep_request hthread
    exact ⟨c', hc', hcql'.trans hcql, hks' ▸ hallowed⟩

/-- The entry `id` was queued by an allowed call for the statement `cql`. -/
def AllowedEntry (generateId : ℕ → String) (config : FilterConfig) (h : List Action) (p : State)
    (id cql : String) : Prop :=
  ∃ w, generateId w = id ∧ Enqueued h w ∧ AllowedCall config p w cql

theorem AllowedEntry.step {id cql : String} {a : Action}
    (hentry : AllowedEntry generateId config h p id cql)
    (hstep : Pool.step (program generateId maxRetries) p a = some p') :
    AllowedEntry generateId config (h ++ [a]) p' id cql := by
  obtain ⟨w, hid, henq, hcall⟩ := hentry
  exact ⟨w, hid, List.mem_append_left _ henq, hcall.step hstep⟩

/-! ## The invariant -/

structure TableGateInv (generateId : ℕ → String) (config : FilterConfig) (h : List Action)
    (p : State) : Prop where
  queued : ∀ id fw, p.mem.HasCopy id fw → AllowedEntry generateId config h p id fw.cql
  enqueued : ∀ w, Enqueued h w → ∃ cql, AllowedCall config p w cql
  direct : ∀ w cql o, .act w (.targetExecute cql o) ∈ h → AllowedCall config p w cql
  retried : ∀ pre id cql o post, h = pre ++ .env (.retry (.execute id cql o)) :: post →
    AllowedEntry generateId config pre p id cql

/-- A call past the gate is an allowed call. -/
theorem allowedCall_of_pastGate
    (hrun : runs generateId maxRetries (some (.ofConfig config)) h = some p) {w : ℕ} {c : WriteCall}
    (hc : p.threads[w]? = some c) (hpast : c.pc.pastGate) : AllowedCall config p w c.cql := by
  have hinv := gateInv_of_runs rfl hrun fun k _ => Set.mem_univ k
  refine ⟨c, hc, rfl, ?_⟩
  rw [← skipsTable_load]
  exact (hinv.2 w c hc).gate hpast

/-- A copy of an entry was there before the step, or the step is the enqueue of its call. -/
theorem copy_of_step {a : Action} {id : String} {fw : FailedWrite}
    (hstep : Pool.step (program generateId maxRetries) p a = some p')
    (hcopy : p'.mem.HasCopy id fw) :
    (∃ fw', p.mem.HasCopy id fw' ∧ fw'.cql = fw.cql) ∨
      ∃ w c, a = .act w .enqueue ∧ p.threads[w]? = some c ∧ c.pc.pastGate ∧ generateId w = id ∧
        c.cql = fw.cql := by
  cases a with
  | spawn k =>
    obtain rfl := Pool.step_spawn hstep
    exact Or.inl ⟨fw, hcopy, rfl⟩
  | act w b =>
    obtain ⟨c, m, c', hc, hthread, rfl⟩ := Pool.step_act hstep
    by_cases hb : b = .enqueue
    · subst hb
      obtain ⟨e, hpc, hm, _⟩ := callStep_enqueue hthread
      subst hm
      rcases copy_of_enqueue hcopy with hold | ⟨hid, hcql, _⟩
      · exact Or.inl ⟨fw, hold, rfl⟩
      · exact Or.inr ⟨w, c, rfl, hc, by rw [hpc]; rfl, hid.symm, hcql.symm⟩
    · obtain ⟨hqueue, hretry⟩ := callStep_queue hthread hb
      left
      refine ⟨fw, ?_, rfl⟩
      simpa only [Writer.HasCopy, Writer.todo, Writer.toUpdate, hqueue, hretry] using hcopy
  | env e =>
    obtain ⟨m, henv, rfl⟩ := Pool.step_env hstep
    cases e with
    | retry r =>
      obtain ⟨fw', hold, hcql, _⟩ := copy_of_move (retryStep_move henv) hcopy
      exact Or.inl ⟨fw', hold, hcql⟩
    | reload =>
      obtain rfl := Option.some.inj henv
      exact Or.inl ⟨fw, hcopy, rfl⟩

/-- What the retry thread executes is the statement of an entry it has in hand. -/
theorem copy_of_retryExecute {id cql : String} {o : Outcome}
    (hstep : Pool.step (program generateId maxRetries) p (.env (.retry (.execute id cql o))) =
      some p') :
    ∃ fw, p.mem.HasCopy id fw ∧ fw.cql = cql := by
  obtain ⟨m, henv, _⟩ := Pool.step_env hstep
  have hretry : retryStep maxRetries p.mem (.execute id cql o) = some m := henv
  obtain ⟨r, fw, rest, hr, _, htodo, hcql, _⟩ := retryStep_execute hretry
  exact ⟨fw, Writer.hasCopy_of_head hr htodo, hcql.symm⟩

/-! ## One step -/

theorem TableGateInv.step {a : Action}
    (hrun : runs generateId maxRetries (some (.ofConfig config)) h = some p)
    (hinv : TableGateInv generateId config h p)
    (hstep : Pool.step (program generateId maxRetries) p a = some p') :
    TableGateInv generateId config (h ++ [a]) p' := by
  refine ⟨?_, ?_, ?_, ?_⟩
  · intro id fw hcopy
    -- an entry that was there before, or the one that a call past the gate puts in now
    rcases copy_of_step hstep hcopy with ⟨fw', hold, hcql⟩ | ⟨w, c, ha, hc, hpast, hid, hcql⟩
    · rw [← hcql]
      exact (hinv.queued id fw' hold).step hstep
    · rw [← hcql]
      have hcall := (allowedCall_of_pastGate hrun hc hpast).step hstep
      exact ⟨w, hid, by rw [ha]; simp [Enqueued], hcall⟩
  · intro w henq
    rcases List.mem_append.mp henq with hold | hnew
    · obtain ⟨cql, hcall⟩ := hinv.enqueued w hold
      exact ⟨cql, hcall.step hstep⟩
    · rw [← List.mem_singleton.mp hnew] at hstep
      obtain ⟨c, _, _, hc, hthread, _⟩ := Pool.step_act hstep
      obtain ⟨e, hpc, _, _⟩ := callStep_enqueue hthread
      exact ⟨c.cql, (allowedCall_of_pastGate hrun hc (by rw [hpc]; rfl)).step hstep⟩
  · intro w cql o hmem
    rcases List.mem_append.mp hmem with hold | hnew
    · exact (hinv.direct w cql o hold).step hstep
    · rw [← List.mem_singleton.mp hnew] at hstep
      -- a call that executes on the target is past the gate
      obtain ⟨c, m, c', hc, hthread, _⟩ := Pool.step_act hstep
      have hcall : callStep generateId w p.mem c (.targetExecute cql o) = some (m, c') := hthread
      obtain ⟨hcql, hpc, _, _⟩ := callStep_targetExecute hcall
      rw [hcql]
      exact (allowedCall_of_pastGate hrun hc (by rw [hpc]; rfl)).step hstep
  · intro pre id cql o post heq
    rcases concat_eq_append_cons heq with ⟨rfl, ha, _⟩ | ⟨post', _, hh⟩
    · subst ha
      -- the retry thread executes what it has a copy of
      obtain ⟨fw, hcopy, hcql⟩ := copy_of_retryExecute hstep
      obtain ⟨w, hid, henq, hcall⟩ := hinv.queued id fw hcopy
      exact ⟨w, hid, henq, hcql ▸ hcall.step hstep⟩
    · obtain ⟨w, hid, henq, hcall⟩ := hinv.retried pre id cql o post' hh
      exact ⟨w, hid, henq, hcall.step hstep⟩

/-! ## Whole runs -/

theorem tableGateInv_of_runs
    (hrun : runs generateId maxRetries (some (.ofConfig config)) h = some p) :
    TableGateInv generateId config h p := by
  refine run_invariant_of_run ?_ ?_ h p hrun
  · refine ⟨?_, by simp [Enqueued], by simp, by simp⟩
    intro id fw hcopy
    simp [initial, Pool.init, Writer.HasCopy, Writer.todo, Writer.toUpdate] at hcopy
  · intro h p a p' hrun hinv hstep
    exact hinv.step hrun hstep

/-- In every run, a call whose keyspace argument matches the table blacklist neither
executes on the target nor queues anything, and every execute on the target is made for a
call that matches nothing: by itself, or by the retry thread after it had queued it. -/
theorem blacklisted_table_never_reaches_target (generateId : ℕ → String) (maxRetries : UInt32)
    (config : FilterConfig) (h : List Action) (p : State)
    (hrun : runs generateId maxRetries (some (.ofConfig config)) h = some p) :
    (∀ w c, p.threads[w]? = some c → MatchesBlacklist config c.keyspace →
      (∀ cql o, .act w (.targetExecute cql o) ∉ h) ∧ ¬ Enqueued h w) ∧
    ∀ pre a post, h = pre ++ a :: post → ∀ cql o, clusterCall a = some (.target cql o) →
      ∃ w c, p.threads[w]? = some c ∧ c.cql = cql ∧ ¬ MatchesBlacklist config c.keyspace ∧
        (a = .act w (.targetExecute cql o) ∨
          (a = .env (.retry (.execute (generateId w) cql o)) ∧ Enqueued pre w)) := by
  have hinv := tableGateInv_of_runs hrun
  constructor
  · intro w c hc hmatch
    have hnot : ∀ cql, ¬ AllowedCall config p w cql := by
      intro cql hcall
      obtain ⟨c', hc', _, hallowed⟩ := hcall
      obtain rfl := Option.some.inj (hc.symm.trans hc')
      exact hallowed hmatch
    constructor
    · intro cql o hmem
      exact hnot cql (hinv.direct w cql o hmem)
    · intro henq
      obtain ⟨cql, hcall⟩ := hinv.enqueued w henq
      exact hnot cql hcall
  · intro pre a post heq cql o hcall
    have ha : a ∈ h := by
      rw [heq]
      simp
    -- two actions execute on the target: the shadow write of a call, and a retry
    unfold clusterCall at hcall
    split at hcall
    · simp at hcall
    next w q o' =>
      simp only [Option.some.injEq, ClusterCall.target.injEq] at hcall
      obtain ⟨rfl, rfl⟩ := hcall
      obtain ⟨c, hc, hcql, hallowed⟩ := hinv.direct w q o' ha
      exact ⟨w, c, hc, hcql, hallowed, Or.inl rfl⟩
    next id q o' =>
      simp only [Option.some.injEq, ClusterCall.target.injEq] at hcall
      obtain ⟨rfl, rfl⟩ := hcall
      obtain ⟨w, rfl, henq, c, hc, hcql, hallowed⟩ := hinv.retried pre id q o' post heq
      exact ⟨w, c, hc, hcql, hallowed, Or.inr ⟨rfl, henq⟩⟩
    · simp at hcall

/-- A write to a table that the entry `*.migrations` matches, and another one whose shadow
write fails and is retried. -/
def migrationsRun : List Action :=
  [.spawn ⟨"INSERT INTO app.migrations (id) VALUES (1)", "app.migrations"⟩,
    .act 0 .countTotal, .act 0 .isEnabled, .act 0 .shouldSkipTable,
    .spawn ⟨"INSERT INTO app.files (id) VALUES (2)", "app.files"⟩,
    .act 0 .countFiltered, .act 1 .countTotal, .act 1 .isEnabled, .act 1 .shouldSkipTable,
    .act 0 (.sourceExecute "INSERT INTO app.migrations (id) VALUES (1)" .ok),
    .act 1 (.sourceExecute "INSERT INTO app.files (id) VALUES (2)" .ok),
    .act 1 (.targetExecute "INSERT INTO app.files (id) VALUES (2)" (.syncError "timeout")),
    .act 1 .enqueue, .env .reload, .env (.retry (.snapshot ["b"])), .env (.retry (.keep "b")),
    .env (.retry .isEnabled), .env (.retry (.pass "b")),
    .env (.retry (.execute "b" "INSERT INTO app.files (id) VALUES (2)" .ok))]

theorem blacklisted_table_never_reaches_target_migrations :
    (∀ cql o, .act 0 (.targetExecute cql o) ∉ migrationsRun) ∧ ¬ Enqueued migrationsRun 0 := by
  have hrun : runs (fun w => if w = 0 then "a" else "b") 3 (some (.ofConfig gcpOnlyTenant))
      migrationsRun = some _ := rfl
  have hresult := blacklisted_table_never_reaches_target (fun w => if w = 0 then "a" else "b") 3
    gcpOnlyTenant migrationsRun _ hrun
  refine hresult.1 0 _ rfl ?_
  exact Or.inr ⟨"*.migrations", by decide, by decide⟩

end DualWriter
end ScyllaClusterSync
