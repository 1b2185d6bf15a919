import ScyllaClusterSync.Svckit.Connection

/-!
# Connections own their driver handles

Over any program that constructs, moves, uses and destroys connections, with any answers of
the driver: no handle is used out of its phase, and the handles that are not freed are those
of the objects there are, each in one object.
-/

namespace ScyllaClusterSync
namespace Svckit

open Lib

/-! ## What one function of the class does to the phases -/

/-- The calls are lawful from the phases `d` and lead to `d'`. -/
def Leads (d : ℕ → Phase) (calls : List DriverCall) (d' : ℕ → Phase) : Prop :=
  run (typestep Phase.next) d (usesOfCalls calls) = some d'

theorem Leads.append {d d' d'' : ℕ → Phase} {calls calls' : List DriverCall}
    (h : Leads d calls d') (h' : Leads d' calls' d'') : Leads d (calls ++ calls') d'' := by
  unfold Leads at *
  rw [usesOfCalls, List.flatMap_append, run_append]
  unfold usesOfCalls at h h'
  rw [h, Option.bind_some, h']

theorem leads_nil (d : ℕ → Phase) : Leads d [] d := rfl

variable {d d' : ℕ → Phase} {c p s t f : ℕ}

/-- Calls that take a handle which lives. -/
theorem leads_take {k : ℕ} {kind : HandleKind} (hk : d k = .live kind) {calls : List DriverCall}
    (hcalls : ∀ call ∈ calls, call.uses = [(k, .take kind)]) : Leads d calls d := by
  induction calls with
  | nil => rfl
  | cons call calls ih =>
    have htake : Leads d [call] d := by
      show run (typestep Phase.next) d (call.uses ++ []) = some d
      rw [hcalls call List.mem_cons_self, List.append_nil,
        run_cons_of_eq (p := .live kind) (by rw [hk]; simp [Phase.next]), ← hk,
        Function.update_eq_self]
      rfl
    exact htake.append (ih fun call' hmem => hcalls call' (List.mem_cons_of_mem call hmem))

/-- The settings of `configure` in front of the policy. -/
def clusterSettings (config : DatabaseConfig) : List ClusterSetting :=
  [.contactPoints (",".intercalate config.hosts), .port config.port.toNat,
    .connectTimeout config.connectionTimeoutMs, .requestTimeout config.requestTimeoutMs,
    .numThreadsIo (max config.poolSize 1)] ++
  match config.username, config.password with
  | some username, some password => [.credentials username password]
  | _, _ => []

theorem configureCluster_eq (config : DatabaseConfig) (c p : ℕ) :
    configureCluster config c p = [DriverCall.clusterNew c] ++
      (clusterSettings config).map (.clusterSet c) ++
      if config.speculativeExecution then
        [DriverCall.policyNew p config.speculativeDelayMs 2, .clusterSetPolicy c p, .policyFree p]
      else [] := by
  unfold configureCluster clusterSettings
  cases config.username <;> cases config.password <;> rfl

/-- The cluster is there, and a policy has been freed again. -/
theorem leads_configureCluster (config : DatabaseConfig) (hc : d c = .absent) (hp : d p = .absent)
    (hcp : c ≠ p) : Leads d (configureCluster config c p)
      (if config.speculativeExecution then
        Function.update (Function.update d c (.live .cluster)) p .freed
      else Function.update d c (.live .cluster)) := by
  rw [configureCluster_eq]
  have hnew : Leads d [DriverCall.clusterNew c] (Function.update d c (.live .cluster)) :=
    run_cons_of_eq (by rw [hc]; rfl) []
  have hset : Leads (Function.update d c (.live .cluster))
      ((clusterSettings config).map (.clusterSet c)) (Function.update d c (.live .cluster)) := by
    refine leads_take (Function.update_self c _ d) fun call hmem => ?_
    obtain ⟨setting, _, rfl⟩ := List.mem_map.mp hmem
    rfl
  refine (hnew.append hset).append ?_
  split
  · simp [Leads, usesOfCalls, DriverCall.uses, run, typestep, Phase.next, hp, hcp, hcp.symm]
    funext h
    simp only [Function.update_apply]
    split_ifs <;> simp_all
  · exact leads_nil _

/-- A future is waited for and read, and then freed. -/
theorem leads_future {calls : List DriverCall} (hf : d f = .live .future)
    (hcalls : ∀ call ∈ calls, call.uses = [(f, .take .future)]) :
    Leads d (calls ++ [DriverCall.futureFree f]) (Function.update d f .freed) :=
  (leads_take hf hcalls).append (run_cons_of_eq (by rw [hf]; rfl) [])

theorem leads_statementFree (ht : d t = .live .statement) :
    Leads d [DriverCall.statementFree t] (Function.update d t .freed) :=
  run_cons_of_eq (by rw [ht]; rfl) []

/-- What the driver's answer makes of the session. -/
def Phase.ofAnswer : Except String Unit → Phase
  | .ok _ => .connected
  | .error _ => .live .session

/-- The session is there, connected when the driver says so, and its future is freed. -/
theorem leads_connectSession (config : DatabaseConfig) (answer : Except String Unit)
    (hc : d c = .live .cluster) (hs : d s = .absent) (hf : d f = .absent) (hsf : s ≠ f) :
    Leads d (connectSession config s c f answer)
      (Function.update (Function.update d s (Phase.ofAnswer answer)) f .freed) := by
  have hcs : c ≠ s := by
    rintro rfl
    simp [hs] at hc
  have hconnect : ∀ keyspace ok, Leads d
      [DriverCall.sessionNew s, .sessionConnect s c keyspace f ok]
      (Function.update (Function.update d s (if ok then .connected else .live .session)) f
        (.live .future)) := by
    intro keyspace ok
    have htake : Function.update (Function.update d s (.live .session)) c (.live .cluster) =
        Function.update d s (.live .session) := by
      rw [Function.update_eq_self_iff, Function.update_of_ne hcs, hc]
    simp [Leads, usesOfCalls, DriverCall.uses, run, typestep, Phase.next, hc, hs, hf, hsf.symm,
      hcs, htake]
  have hfuture : ∀ p calls, (∀ call ∈ calls, call.uses = [(f, .take .future)]) →
      Leads (Function.update (Function.update d s p) f (.live .future))
        (calls ++ [DriverCall.futureFree f])
        (Function.update (Function.update d s p) f .freed) := by
    intro p calls hcalls
    have hfree := leads_future (Function.update_self f _ (Function.update d s p)) hcalls
    rwa [Function.update_idem] at hfree
  cases answer with
  | ok =>
    exact (hconnect _ true).append (hfuture _ [DriverCall.futureWait f, .futureErrorCode f] (by
      simp [DriverCall.uses]))
  | error msg =>
    exact (hconnect _ false).append
      (hfuture _ [DriverCall.futureWait f, .futureErrorCode f, .futureErrorMessage f] (by
        simp [DriverCall.uses]))

/-- A connected session is closed once. -/
theorem leads_close {o : ScyllaConnection} (hconn : o.connected = true) (hsess : o.session = some s)
    (hs : d s = .connected) (hf : d f = .absent) :
    Leads d (o.close f).1 (Function.update (Function.update d s .closed) f .freed) := by
  have hsf : s ≠ f := by
    rintro rfl
    simp [hf] at hs
  simp [Leads, ScyllaConnection.close, hconn, hsess, usesOfCalls, DriverCall.uses, run, typestep,
    Phase.next, hs, hf, hsf.symm]

/-- A query leaves the session connected, its statement and its future are freed. -/
theorem leads_execute {o : ScyllaConnection} (cql : String) (answer : Except String Unit)
    (hconn : o.connected = true) (hsess : o.session = some s) (hs : d s = .connected)
    (ht : d t = .absent) (hf : d f = .absent) (htf : t ≠ f) :
    Leads d (o.execute cql t f answer).1
      (Function.update (Function.update d t .freed) f .freed) := by
  have hst : s ≠ t := by
    rintro rfl
    simp [ht] at hs
  have hquery : Leads d [DriverCall.statementNew t cql, .sessionExecute s t f]
      (Function.update (Function.update d t (.live .statement)) f (.live .future)) := by
    have htake : Function.update (Function.update d t (.live .statement)) s .connected =
        Function.update d t (.live .statement) := by
      rw [Function.update_eq_self_iff, Function.update_of_ne hst, hs]
    simp [Leads, usesOfCalls, DriverCall.uses, run, typestep, Phase.next, ht, hf, hs, htf.symm,
      hst, htake]
  have hfree : ∀ calls : List DriverCall, (∀ call ∈ calls, call.uses = [(f, .take .future)]) →
      Leads d ([DriverCall.statementNew t cql, .sessionExecute s t f] ++
        ((calls ++ [DriverCall.futureFree f]) ++ [DriverCall.statementFree t]))
        (Function.update (Function.update d t .freed) f .freed) := by
    intro calls hcalls
    have hfuture := leads_future
      (Function.update_self f _ (Function.update d t (.live .statement))) hcalls
    rw [Function.update_idem] at hfuture
    have hlive : Function.update (Function.update d t (.live .statement)) f .freed t =
        .live .statement := by
      rw [Function.update_of_ne htf, Function.update_self]
    have hstatement := leads_statementFree hlive
    rw [Function.update_comm htf.symm, Function.update_idem] at hstatement
    exact hquery.append (hfuture.append hstatement)
  cases answer with
  | ok =>
    have hcalls : (o.execute cql t f (.ok ())).1 =
        [DriverCall.statementNew t cql, .sessionExecute s t f] ++
          ([DriverCall.futureWait f, .futureErrorCode f] ++ [DriverCall.futureFree f] ++
            [DriverCall.statementFree t]) := by
      simp only [ScyllaConnection.execute, hconn, hsess, List.cons_append, List.nil_append]
    rw [hcalls]
    exact hfree [DriverCall.futureWait f, .futureErrorCode f] (by simp [DriverCall.uses])
  | error msg =>
    have hcalls : (o.execute cql t f (.error msg)).1 =
        [DriverCall.statementNew t cql, .sessionExecute s t f] ++
          ([DriverCall.futureWait f, .futureErrorCode f, .futureErrorMessage f] ++
            [DriverCall.futureFree f] ++ [DriverCall.statementFree t]) := by
      simp only [ScyllaConnection.execute, hconn, hsess, List.cons_append, List.nil_append]
    rw [hcalls]
    exact hfree [DriverCall.futureWait f, .futureErrorCode f, .futureErrorMessage f]
      (by simp [DriverCall.uses])

/-! ## What an object holds -/

/-- An object holds nothing, or a cluster together with a session that is connected. -/
inductive Holds (d : ℕ → Phase) (o : ScyllaConnection) : Prop where
  | nothing (cluster : o.cluster = none) (session : o.session = none)
      (connected : o.connected = false)
  | session (c s : ℕ) (cluster : o.cluster = some c) (session : o.session = some s)
      (connected : o.connected = true) (hc : d c = .live .cluster) (hs : d s = .connected)

/-- The handle needs no owner. -/
def Phase.gone (p : Phase) : Prop := p = .absent ∨ p = .freed

theorem Holds.congr {o : ScyllaConnection} (h : Holds d o) (heq : ∀ k ∈ o.handles, d' k = d k) :
    Holds d' o := by
  cases h with
  | nothing hc hs hconn => exact .nothing hc hs hconn
  | session c s hc hs hconn hdc hds =>
    refine .session c s hc hs hconn ?_ ?_
    · rw [heq c (by simp [ScyllaConnection.handles, hc]), hdc]
    · rw [heq s (by simp [ScyllaConnection.handles, hs]), hds]

/-- What an object holds lives. -/
theorem Holds.not_gone {o : ScyllaConnection} (h : Holds d o) {k : ℕ} (hk : k ∈ o.handles) :
    ¬ (d k).gone := by
  cases h with
  | nothing hc hs _ => simp [ScyllaConnection.handles, hc, hs] at hk
  | session c s hc hs _ hdc hds =>
    simp only [ScyllaConnection.handles, hs, hc, Option.toList_some, List.singleton_append,
      List.mem_cons, List.not_mem_nil, or_false] at hk
    rcases hk with rfl | rfl
    · simp [Phase.gone, hds]
    · simp [Phase.gone, hdc]

/-- The calls free what the object holds, and change no handle of another one but `f`. -/
structure Releases (d : ℕ → Phase) (o : ScyllaConnection) (f : ℕ) (calls : List DriverCall)
    (d' : ℕ → Phase) : Prop where
  leads : Leads d calls d'
  held : ∀ k ∈ o.handles, d' k = .freed
  future : (d' f).gone
  others : ∀ k, k ∉ o.handles → k ≠ f → d' k = d k

/-- A close, and the two handles freed after it in either order. -/
theorem exists_releases {o : ScyllaConnection} {frees : List DriverCall} (hc : o.cluster = some c)
    (hs : o.session = some s) (hconn : o.connected = true) (hdc : d c = .live .cluster)
    (hds : d s = .connected) (hf : d f = .absent)
    (hfrees : frees = [DriverCall.sessionFree s, .clusterFree c] ∨
      frees = [DriverCall.clusterFree c, .sessionFree s]) :
    ∃ d', Releases d o f ((o.close f).1 ++ frees) d' := by
  have hcs : c ≠ s := by
    rintro rfl
    simp [hds] at hdc
  have hcf : c ≠ f := by
    rintro rfl
    simp [hf] at hdc
  have hsf : s ≠ f := by
    rintro rfl
    simp [hf] at hds
  have hhandles : ∀ k, k ∈ o.handles ↔ k = s ∨ k = c := by
    intro k
    simp [ScyllaConnection.handles, hs, hc]
  have hleads : Leads (Function.update (Function.update d s .closed) f .freed) frees
      (Function.update (Function.update (Function.update (Function.update d s .closed) f .freed)
        s .freed) c .freed) := by
    rcases hfrees with rfl | rfl
    · simp [Leads, usesOfCalls, DriverCall.uses, run, typestep, Phase.next, hsf, hcs, hcf, hdc]
    · rw [Function.update_comm hcs.symm]
      simp [Leads, usesOfCalls, DriverCall.uses, run, typestep, Phase.next, hsf, hcs, hcs.symm,
        hcf, hdc]
  refine ⟨_, (leads_close hconn hs hds hf).append hleads, ?_, ?_, ?_⟩
  · intro k hk
    rcases (hhandles k).mp hk with rfl | rfl
    · simp [hcs.symm]
    · simp
  · simp [Phase.gone, hcf.symm, hsf.symm]
  · intro k hk hkf
    rw [hhandles, not_or] at hk
    simp [hk.1, hk.2, hkf]

/-- The calls of an object that holds nothing release it already. -/
theorem releases_nil {o : ScyllaConnection} (hc : o.cluster = none) (hs : o.session = none)
    (hf : d f = .absent) : Releases d o f [] d := by
  refine ⟨leads_nil d, ?_, Or.inl hf, fun _ _ _ => rfl⟩
  simp [ScyllaConnection.handles, hc, hs]

theorem Holds.destroy {o : ScyllaConnection} (h : Holds d o) (hf : d f = .absent) :
    ∃ d', Releases d o f (o.destroy f) d' := by
  cases h with
  | nothing hc hs hconn =>
    have hcalls : o.destroy f = [] := by
      simp [ScyllaConnection.destroy, ScyllaConnection.close, hconn, hs, hc]
    rw [hcalls]
    exact ⟨d, releases_nil hc hs hf⟩
  | session c s hc hs hconn hdc hds =>
    have hcalls : o.destroy f =
        (o.close f).1 ++ [DriverCall.sessionFree s, .clusterFree c] := by
      simp [ScyllaConnection.destroy, ScyllaConnection.close, hconn, hs, hc]
    rw [hcalls]
    exact exists_releases hc hs hconn hdc hds hf (Or.inl rfl)

/-- The move assignment frees the same handles, in the other order. -/
theorem Holds.moveAssign {o : ScyllaConnection} (h : Holds d o) (other : ScyllaConnection)
    (hf : d f = .absent) : ∃ d', Releases d o f (o.moveAssign other f).1 d' := by
  cases h with
  | nothing hc hs hconn =>
    have hcalls : (o.moveAssign other f).1 = [] := by
      simp [ScyllaConnection.moveAssign, ScyllaConnection.close, hconn, hs, hc]
    rw [hcalls]
    exact ⟨d, releases_nil hc hs hf⟩
  | session c s hc hs hconn hdc hds =>
    have hcalls : (o.moveAssign other f).1 =
        (o.close f).1 ++ [DriverCall.clusterFree c, .sessionFree s] := by
      simp [ScyllaConnection.moveAssign, ScyllaConnection.close, hconn, hs, hc]
    rw [hcalls]
    exact exists_releases hc hs hconn hdc hds hf (Or.inr rfl)

/-! ## The constructor -/

/-- What the constructor may leave: an object that holds its handles, or nothing but handles
that are gone. -/
structure Constructs (d : ℕ → Phase) (next : ℕ)
    (r : List DriverCall × Except String ScyllaConnection) (d' : ℕ → Phase) : Prop where
  leads : Leads d r.1 d'
  below : ∀ k, k < next → d' k = d k
  fresh : ∀ k, next + 4 ≤ k → d' k = .absent
  threw : ∀ e, r.2 = .error e → ∀ k, next ≤ k → (d' k).gone
  returned : ∀ o, r.2 = .ok o → Holds d' o ∧ (∀ k ∈ o.handles, next ≤ k) ∧
    ∀ k, next ≤ k → k ∉ o.handles → (d' k).gone

/-- The phases once the cluster is configured. -/
theorem exists_leads_configureCluster (config : DatabaseConfig) {next : ℕ}
    (hfresh : ∀ k, next ≤ k → d k = .absent) :
    ∃ d', Leads d (configureCluster config next (next + 1)) d' ∧ d' next = .live .cluster ∧
      (∀ k, k < next → d' k = d k) ∧ (∀ k, next < k → (d' k).gone) ∧
      ∀ k, next + 2 ≤ k → d' k = .absent := by
  have hleads := leads_configureCluster config (hfresh next le_rfl)
    (hfresh (next + 1) (Nat.le_succ next)) (Nat.ne_of_lt (Nat.lt_succ_self next))
  have hrest : ∀ k, k ≠ next → k ≠ next + 1 →
      (if config.speculativeExecution then
        Function.update (Function.update d next (.live .cluster)) (next + 1) .freed
      else Function.update d next (.live .cluster)) k = d k := by
    intro k hk hk'
    split <;> simp [hk, hk']
  refine ⟨_, hleads, ?_, ?_, ?_, ?_⟩
  · split <;> simp
  · intro k hk
    exact hrest k (by omega) (by omega)
  · intro k hk
    by_cases hkp : k = next + 1
    · subst hkp
      split
      · simp [Phase.gone]
      · simp [Phase.gone, hfresh (next + 1) (Nat.le_succ next)]
    · rw [hrest k (by omega) hkp]
      exact Or.inl (hfresh k (by omega))
  · intro k hk
    rw [hrest k (by omega) (by omega), hfresh k (by omega)]

/-- The session could not be allocated: the cluster is freed again. -/
theorem constructs_noSession {d₁ : ℕ → Phase} {next : ℕ} {calls : List DriverCall}
    (hleads : Leads d calls d₁) (hc : d₁ next = .live .cluster)
    (hbelow : ∀ k, k < next → d₁ k = d k) (hgone : ∀ k, next < k → (d₁ k).gone)
    (habsent : ∀ k, next + 2 ≤ k → d₁ k = .absent) (e : String) :
    ∃ d', Constructs d next (calls ++ [DriverCall.clusterFree next], .error e) d' := by
  have hfree : Leads d₁ [DriverCall.clusterFree next] (Function.update d₁ next .freed) := by
    simp [Leads, usesOfCalls, DriverCall.uses, run, typestep, Phase.next, hc]
  refine ⟨_, hleads.append hfree, ?_, ?_, ?_, ?_⟩
  · intro k hk
    rw [Function.update_of_ne (by omega), hbelow k hk]
  · intro k hk
    rw [Function.update_of_ne (by omega), habsent k (by omega)]
  · intro _ _ k hk
    rcases Nat.eq_or_lt_of_le hk with rfl | hlt
    · simp [Phase.gone]
    · rw [Function.update_of_ne (by omega)]
      exact hgone k hlt
  · rintro o ⟨⟩

/-- The connect failed: both handles are freed again. -/
theorem constructs_notConnected {d₁ : ℕ → Phase} {next : ℕ} {calls : List DriverCall}
    (hleads : Leads d calls (Function.update (Function.update d₁ (next + 2) (.live .session))
      (next + 3) .freed)) (hc : d₁ next = .live .cluster)
    (hbelow : ∀ k, k < next → d₁ k = d k) (hgone : ∀ k, next < k → (d₁ k).gone)
    (habsent : ∀ k, next + 2 ≤ k → d₁ k = .absent) (e : String) :
    ∃ d', Constructs d next
      (calls ++ [DriverCall.sessionFree (next + 2), .clusterFree next], .error e) d' := by
  have hfree : Leads
      (Function.update (Function.update d₁ (next + 2) (.live .session)) (next + 3) .freed)
      [DriverCall.sessionFree (next + 2), .clusterFree next]
      (Function.update (Function.update (Function.update (Function.update d₁ (next + 2)
        (.live .session)) (next + 3) .freed) (next + 2) .freed) next .freed) := by
    simp [Leads, usesOfCalls, DriverCall.uses, run, typestep, Phase.next, hc]
  refine ⟨_, hleads.append hfree, ?_, ?_, ?_, ?_⟩
  · intro k hk
    simp [show k ≠ next by omega, show k ≠ next + 2 by omega, show k ≠ next + 3 by omega,
      hbelow k hk]
  · intro k hk
    simp [show k ≠ next by omega, show k ≠ next + 2 by omega, show k ≠ next + 3 by omega,
      habsent k (by omega)]
  · intro _ _ k hk
    simp only [Function.update_apply]
    split_ifs with h₀ h₂ h₃
    · exact Or.inr rfl
    · exact Or.inr rfl
    · exact Or.inr rfl
    · exact hgone k (by omega)
  · rintro o ⟨⟩

/-- The connect went through: the object holds both handles. -/
theorem constructs_connected {d₁ : ℕ → Phase} {next : ℕ} {calls : List DriverCall}
    (hleads : Leads d calls (Function.update (Function.update d₁ (next + 2) .connected)
      (next + 3) .freed)) (hc : d₁ next = .live .cluster)
    (hbelow : ∀ k, k < next → d₁ k = d k) (hgone : ∀ k, next < k → (d₁ k).gone)
    (habsent : ∀ k, next + 2 ≤ k → d₁ k = .absent) (config : DatabaseConfig) :
    ∃ d', Constructs d next (calls, .ok { config := config, cluster := some next
                                          session := some (next + 2), connected := true }) d' := by
  refine ⟨_, hleads, ?_, ?_, ?_, ?_⟩
  · intro k hk
    simp [show k ≠ next + 2 by omega, show k ≠ next + 3 by omega, hbelow k hk]
  · intro k hk
    simp [show k ≠ next + 2 by omega, show k ≠ next + 3 by omega, habsent k (by omega)]
  · rintro e ⟨⟩
  · rintro o ⟨⟩
    refine ⟨.session next (next + 2) rfl rfl rfl (by simp [hc]) (by simp), ?_, ?_⟩
    · intro k hk
      simp only [ScyllaConnection.handles, Option.toList_some, List.singleton_append,
        List.mem_cons, List.not_mem_nil, or_false] at hk
      omega
    · intro k hk hmem
      simp only [ScyllaConnection.handles, Option.toList_some, List.singleton_append,
        List.mem_cons, List.not_mem_nil, or_false, not_or] at hmem
      simp only [Function.update_apply]
      split_ifs with h₃ h₂
      · exact Or.inr rfl
      · exact absurd h₂ hmem.1
      · exact hgone k (by omega)

theorem exists_constructs (config : DatabaseConfig) {next : ℕ} (answers : ConnectAnswers)
    (hfresh : ∀ k, next ≤ k → d k = .absent) :
    ∃ d', Constructs d next (ScyllaConnection.construct config next answers) d' := by
  obtain ⟨d₁, hleads, hc, hbelow, hgone, habsent⟩ := exists_leads_configureCluster config hfresh
  have hboth := hleads.append (leads_connectSession config answers.connect hc
    (habsent (next + 2) le_rfl) (habsent (next + 3) (Nat.le_succ _)) (by omega))
  unfold ScyllaConnection.construct
  split_ifs with hcluster hsession
  · -- no cluster: no call, nothing to free
    refine ⟨d, leads_nil d, fun _ _ => rfl, fun k hk => hfresh k (by omega), ?_, ?_⟩
    · intro _ _ k hk
      exact Or.inl (hfresh k hk)
    · rintro o ⟨⟩
  · exact constructs_noSession hleads hc hbelow hgone habsent _
  · cases hanswer : answers.connect with
    | error msg =>
      rw [hanswer] at hboth
      exact constructs_notConnected hboth hc hbelow hgone habsent _
    | ok _ =>
      rw [hanswer] at hboth
      exact constructs_connected hboth hc hbelow hgone habsent config

/-! ## The invariant -/

/-- The phases of the handles of a program, and who holds them. -/
structure Owns (s : Connections) (d : ℕ → Phase) : Prop where
  leads : Leads (fun _ => .absent) s.calls d
  fresh : ∀ k, s.next ≤ k → d k = .absent
  holds : ∀ x o, s.objects x = some o → Holds d o
  apart : ∀ x y o o' k, s.objects x = some o → s.objects y = some o' →
    k ∈ o.handles → k ∈ o'.handles → x = y
  owned : ∀ k, ¬ (d k).gone → ∃ x o, s.objects x = some o ∧ k ∈ o.handles

theorem owns_init : Owns {} (fun _ => .absent) where
  leads := leads_nil _
  fresh _ _ := rfl
  holds _ _ h := by cases h
  apart _ _ _ _ _ h := by cases h
  owned _ h := absurd (Or.inl rfl) h

variable {m : Connections}

/-- A handle that an object holds has been returned already. -/
theorem Owns.lt_next (h : Owns m d) {x k : ℕ} {o : ScyllaConnection} (hx : m.objects x = some o)
    (hk : k ∈ o.handles) : k < m.next := by
  by_contra hle
  exact (h.holds x o hx).not_gone hk (Or.inl (h.fresh k (Nat.le_of_not_lt hle)))

/-- Calls that leave the objects as they are. -/
theorem Owns.called (h : Owns m d) {calls : List DriverCall} (hleads : Leads d calls d')
    (hold : ∀ k, k < m.next → d' k = d k) (hnew : ∀ k, m.next ≤ k → (d' k).gone)
    (hfresh : ∀ k, m.next + 4 ≤ k → d' k = .absent) : Owns (m.called calls) d' where
  leads := h.leads.append hleads
  fresh := hfresh
  holds x o hx := (h.holds x o hx).congr fun k hk => hold k (h.lt_next hx hk)
  apart := h.apart
  owned k hk := by
    have hlt : k < m.next := by
      by_contra hle
      exact hk (hnew k (Nat.le_of_not_lt hle))
    rw [hold k hlt] at hk
    exact h.owned k hk

/-- An object that is released is gone, and so are its handles. -/
theorem Owns.release (h : Owns m d) {x : ℕ} {o : ScyllaConnection} (hx : m.objects x = some o)
    {calls : List DriverCall} (hrel : Releases d o m.next calls d') :
    Owns ((m.called calls).setObject x none) d' := by
  have hother : ∀ y o', y ≠ x → m.objects y = some o' → ∀ k ∈ o'.handles, d' k = d k := by
    intro y o' hy ho' k hk
    refine hrel.others k ?_ (Nat.ne_of_lt (h.lt_next ho' hk))
    intro hko
    exact hy (h.apart y x o' o k ho' hx hk hko)
  have hobj : ∀ y o', ((m.called calls).setObject x none).objects y = some o' →
      y ≠ x ∧ m.objects y = some o' := by
    intro y o' hy
    simp only [Connections.setObject, Connections.called, Function.update_apply] at hy
    split at hy
    · cases hy
    · exact ⟨‹_›, hy⟩
  refine ⟨h.leads.append hrel.leads, ?_, ?_, ?_, ?_⟩
  · intro k hk
    have hk' : m.next + 4 ≤ k := hk
    rw [hrel.others k ?_ (by omega), h.fresh k (by omega)]
    intro hko
    have hlt := h.lt_next hx hko
    omega
  · intro y o' hy
    obtain ⟨hne, hy⟩ := hobj y o' hy
    exact (h.holds y o' hy).congr (hother y o' hne hy)
  · intro y z o' o'' k hy hz
    exact h.apart y z o' o'' k (hobj y o' hy).2 (hobj z o'' hz).2
  · intro k hk
    have hko : k ∉ o.handles := fun hko => hk (Or.inr (hrel.held k hko))
    have hkf : k ≠ m.next := by
      rintro rfl
      exact hk hrel.future
    rw [hrel.others k hko hkf] at hk
    obtain ⟨y, o', hy, hmem⟩ := h.owned k hk
    have hyx : y ≠ x := by
      rintro rfl
      obtain rfl := Option.some.inj (hx.symm.trans hy)
      exact hko hmem
    exact ⟨y, o', by simpa [Connections.setObject, Connections.called, hyx] using hy, hmem⟩

/-- A query frees what it has allocated; on an object that holds nothing it is no call. -/
theorem Owns.execute (h : Owns m d) {o : ScyllaConnection} (ho : Holds d o) (cql : String)
    (answer : Except String Unit) :
    ∃ d', Owns (m.called (o.execute cql m.next (m.next + 1) answer).1) d' := by
  cases ho with
  | nothing hc hs hconn =>
    have hcalls : (o.execute cql m.next (m.next + 1) answer).1 = [] := by
      simp [ScyllaConnection.execute, hconn]
    rw [hcalls]
    exact ⟨d, h.called (leads_nil d) (fun _ _ => rfl) (fun k hk => Or.inl (h.fresh k hk))
      fun k hk => h.fresh k (by omega)⟩
  | session c s hc hs hconn hdc hds =>
    have hleads := leads_execute cql answer hconn hs hds (h.fresh m.next le_rfl)
      (h.fresh (m.next + 1) (Nat.le_succ _)) (Nat.ne_of_lt (Nat.lt_succ_self _))
    refine ⟨_, h.called hleads ?_ ?_ ?_⟩
    · intro k hk
      rw [Function.update_of_ne (by omega), Function.update_of_ne (by omega)]
    · intro k hk
      simp only [Function.update_apply]
      split_ifs
      · exact Or.inr rfl
      · exact Or.inr rfl
      · exact Or.inl (h.fresh k hk)
    · intro k hk
      rw [Function.update_of_ne (by omega), Function.update_of_ne (by omega),
        h.fresh k (by omega)]

/-- `ping` makes the calls of its query. -/
theorem calls_ping {o : ScyllaConnection} (ho : Holds d o) (t f : ℕ) (answer : Except String Unit) :
    (o.ping t f answer).1 = (o.execute "SELECT now() FROM system.local" t f answer).1 := by
  cases ho with
  | nothing hc hs hconn => simp [ScyllaConnection.ping, ScyllaConnection.execute, hconn]
  | session c s hc hs hconn hdc hds =>
    cases answer <;> simp [ScyllaConnection.ping, ScyllaConnection.execute, hconn, hs]

/-- A new object, with the handles its constructor has got. -/
theorem Owns.construct (h : Owns m d) {x : ℕ} (hx : m.objects x = none) {calls : List DriverCall}
    {o : ScyllaConnection} (hcon : Constructs d m.next (calls, .ok o) d') :
    Owns ((m.called calls).setObject x (some o)) d' := by
  obtain ⟨hholds, hfrom, hgone⟩ := hcon.returned o rfl
  have hobj : ∀ y o', ((m.called calls).setObject x (some o)).objects y = some o' →
      (y = x ∧ o' = o) ∨ (y ≠ x ∧ m.objects y = some o') := by
    intro y o' hy
    simp only [Connections.setObject, Connections.called, Function.update_apply] at hy
    split at hy
    · exact Or.inl ⟨‹_›, (Option.some.inj hy).symm⟩
    · exact Or.inr ⟨‹_›, hy⟩
  refine ⟨h.leads.append hcon.leads, hcon.fresh, ?_, ?_, ?_⟩
  · intro y o' hy
    rcases hobj y o' hy with ⟨_, rfl⟩ | ⟨_, hy'⟩
    · exact hholds
    · exact (h.holds y o' hy').congr fun k hk => hcon.below k (h.lt_next hy' hk)
  · intro y z o' o'' k hy hz hk hk'
    rcases hobj y o' hy with ⟨rfl, rfl⟩ | ⟨_, hy'⟩
    · rcases hobj z o'' hz with ⟨rfl, _⟩ | ⟨_, hz'⟩
      · rfl
      · exact absurd (h.lt_next hz' hk') (Nat.not_lt.mpr (hfrom k hk))
    · rcases hobj z o'' hz with ⟨rfl, rfl⟩ | ⟨_, hz'⟩
      · exact absurd (h.lt_next hy' hk) (Nat.not_lt.mpr (hfrom k hk'))
      · exact h.apart y z o' o'' k hy' hz' hk hk'
  · intro k hk
    rcases Nat.lt_or_ge k m.next with hlt | hge
    · rw [hcon.below k hlt] at hk
      obtain ⟨y, o', hy, hmem⟩ := h.owned k hk
      have hyx : y ≠ x := by
        rintro rfl
        rw [hx] at hy
        cases hy
      exact ⟨y, o', by simpa [Connections.setObject, Connections.called, hyx] using hy, hmem⟩
    · refine ⟨x, o, by simp [Connections.setObject], ?_⟩
      by_contra hmem
      exact hk (hgone k hge hmem)

/-- The handles go from one object to a new one. -/
theorem Owns.move (h : Owns m d) {x y : ℕ} {other : ScyllaConnection} (hx : m.objects x = none)
    (hy : m.objects y = some other) (leftover : DatabaseConfig) :
    Owns ((m.setObject y (some (.movedFrom leftover))).setObject x (some other)) d := by
  have hxy : x ≠ y := by
    rintro rfl
    rw [hx] at hy
    cases hy
  have hobj : ∀ z o', ((m.setObject y (some (.movedFrom leftover))).setObject x
      (some other)).objects z = some o' → (z = x ∧ o' = other) ∨
        (z = y ∧ o' = .movedFrom leftover) ∨ (z ≠ x ∧ z ≠ y ∧ m.objects z = some o') := by
    intro z o' hz
    simp only [Connections.setObject, Function.update_apply] at hz
    split_ifs at hz with hzx hzy
    · exact Or.inl ⟨hzx, (Option.some.inj hz).symm⟩
    · exact Or.inr (Or.inl ⟨hzy, (Option.some.inj hz).symm⟩)
    · exact Or.inr (Or.inr ⟨hzx, hzy, hz⟩)
  have hnone : ∀ k, k ∉ (ScyllaConnection.movedFrom leftover).handles := by
    intro k hk
    simp [ScyllaConnection.movedFrom, ScyllaConnection.handles] at hk
  -- where an object stood before the move
  have hfrom : ∀ z o' k, ((m.setObject y (some (.movedFrom leftover))).setObject x
      (some other)).objects z = some o' → k ∈ o'.handles →
        (z = x ∧ o' = other) ∨ (z ≠ x ∧ z ≠ y ∧ m.objects z = some o') := by
    intro z o' k hz hk
    rcases hobj z o' hz with hzx | ⟨_, rfl⟩ | hold
    · exact Or.inl hzx
    · exact absurd hk (hnone k)
    · exact Or.inr hold
  refine ⟨h.leads, h.fresh, ?_, ?_, ?_⟩
  · intro z o' hz
    rcases hobj z o' hz with ⟨_, rfl⟩ | ⟨_, rfl⟩ | ⟨_, _, hz'⟩
    · exact h.holds y o' hy
    · exact .nothing rfl rfl rfl
    · exact h.holds z o' hz'
  · intro z w o' o'' k hz hw hk hk'
    rcases hfrom z o' k hz hk with ⟨rfl, rfl⟩ | ⟨_, hzy, hz'⟩
    · rcases hfrom w o'' k hw hk' with ⟨rfl, _⟩ | ⟨_, hwy, hw'⟩
      · rfl
      · exact absurd (h.apart y w o' o'' k hy hw' hk hk').symm hwy
    · rcases hfrom w o'' k hw hk' with ⟨rfl, rfl⟩ | ⟨_, _, hw'⟩
      · exact absurd (h.apart z y o' o'' k hz' hy hk hk') hzy
      · exact h.apart z w o' o'' k hz' hw' hk hk'
  · intro k hk
    obtain ⟨z, o', hz, hmem⟩ := h.owned k hk
    by_cases hzy : z = y
    · subst hzy
      obtain rfl := Option.some.inj (hy.symm.trans hz)
      exact ⟨x, other, by simp [Connections.setObject], hmem⟩
    · have hzx : z ≠ x := by
        rintro rfl
        rw [hx] at hz
        cases hz
      exact ⟨z, o', by simpa [Connections.setObject, hzx, hzy] using hz, hmem⟩

/-! ## One operation, and whole programs -/

theorem Owns.step {m' : Connections} (h : Owns m d) {op : ConnectionOp}
    (hstep : connectionStep m op = some m') : ∃ d', Owns m' d' := by
  cases op with
  | construct x config answers =>
    obtain ⟨d', hcon⟩ := exists_constructs config answers h.fresh
    cases hx : m.objects x with
    | some o => simp [connectionStep, hx] at hstep
    | none =>
      rcases hr : ScyllaConnection.construct config m.next answers with ⟨calls, result⟩
      rw [hr] at hcon
      cases result with
      | ok o =>
        simp only [connectionStep, hx, hr, Option.some.injEq] at hstep
        exact ⟨d', hstep ▸ h.construct hx hcon⟩
      | error e =>
        simp only [connectionStep, hx, hr, Option.some.injEq] at hstep
        exact ⟨d', hstep ▸ h.called hcon.leads hcon.below (hcon.threw e rfl) hcon.fresh⟩
  | moveConstruct x y leftover =>
    cases hx : m.objects x with
    | some o => simp [connectionStep, hx] at hstep
    | none =>
      cases hy : m.objects y with
      | none => simp [connectionStep, hx, hy] at hstep
      | some other =>
        simp only [connectionStep, hx, hy, Option.some.injEq] at hstep
        exact ⟨d, hstep ▸ h.move hx hy leftover⟩
  | moveAssign x y leftover =>
    cases hx : m.objects x with
    | none => simp [connectionStep, hx] at hstep
    | some o =>
      cases hy : m.objects y with
      | none => simp [connectionStep, hx, hy] at hstep
      | some other =>
        simp only [connectionStep, hx, hy] at hstep
        split_ifs at hstep with hxy
        · exact ⟨d, Option.some.inj hstep ▸ h⟩
        · -- the old handles are released first, then those of `other` move into the gap
          obtain ⟨d', hrel⟩ := (h.holds x o hx).moveAssign other (h.fresh m.next le_rfl)
          have hgap := h.release hx hrel
          have hmove := @Owns.move _ _ hgap x y other
            (by simp [Connections.setObject])
            (by simp [Connections.setObject, Connections.called, Ne.symm hxy, hy]) leftover
          refine ⟨d', ?_⟩
          rw [← Option.some.inj hstep]
          convert hmove using 1
          simp only [Connections.setObject, ScyllaConnection.moveAssign, Connections.called]
          congr 1
          rw [Function.update_comm hxy, Function.update_idem, Function.update_comm (Ne.symm hxy)]
  | destroy x =>
    obtain ⟨o, hx, rfl⟩ := Option.map_eq_some_iff.mp hstep
    obtain ⟨d', hrel⟩ := (h.holds x o hx).destroy (h.fresh m.next le_rfl)
    exact ⟨d', h.release hx hrel⟩
  | execute x cql answer =>
    obtain ⟨o, hx, rfl⟩ := Option.map_eq_some_iff.mp hstep
    exact h.execute (h.holds x o hx) cql answer
  | ping x answer =>
    obtain ⟨o, hx, rfl⟩ := Option.map_eq_some_iff.mp hstep
    rw [calls_ping (h.holds x o hx)]
    exact h.execute (h.holds x o hx) _ answer

theorem exists_owns (ops : List ConnectionOp) (m : Connections)
    (hrun : run connectionStep {} ops = some m) : ∃ d, Owns m d := by
  refine @run_invariant _ _ _ _ (fun _ m => ∃ d, Owns m d) ⟨_, owns_init⟩ ?_ ops m hrun
  intro _ m op m' hinv hstep
  obtain ⟨d, h⟩ := hinv
  exact h.step hstep

/-- The phase of a handle after a program is the one the invariant speaks of. -/
theorem Owns.run_usesOf (h : Owns m d) (k : ℕ) :
    run Phase.next .absent (usesOf k m.uses) = some (d k) :=
  run_usesOf_of_run h.leads k

/-- Two connections, the first moved over the second, and everything destroyed but one. -/
def moveOver : List ConnectionOp :=
  [.construct 0 {} ⟨true, true, .ok ()⟩, .construct 1 { keyspace := "ks" } ⟨true, true, .ok ()⟩,
    .moveAssign 1 0 {}, .execute 1 "SELECT now() FROM system.local" (.error "timeout"),
    .destroy 0]

def movedOver : Connections := (run connectionStep {} moveOver).getD {}

/-- Every handle is used as the driver allows it, in every program and with any answers. -/
theorem handles_used_lawfully (ops : List ConnectionOp) (m : Connections)
    (hrun : run connectionStep {} ops = some m) (k : ℕ) :
    ∃ p, run Phase.next .absent (usesOf k m.uses) = some p := by
  obtain ⟨d, h⟩ := exists_owns ops m hrun
  exact ⟨d k, h.run_usesOf k⟩

theorem moveOver_lawful : ∃ p, run Phase.next .absent (usesOf 4 movedOver.uses) = some p :=
  handles_used_lawfully moveOver movedOver rfl 4

/-- The handles that have been returned and not freed are those the objects hold, each in
exactly one of them. -/
theorem live_handle_owned_once (ops : List ConnectionOp) (m : Connections)
    (hrun : run connectionStep {} ops = some m) (k : ℕ) (p : Phase)
    (hp : run Phase.next .absent (usesOf k m.uses) = some p) :
    ¬ p.gone ↔ ∃! x, ∃ o, m.objects x = some o ∧ k ∈ o.handles := by
  obtain ⟨d, h⟩ := exists_owns ops m hrun
  obtain rfl := Option.some.inj ((h.run_usesOf k).symm.trans hp)
  constructor
  · intro hgone
    obtain ⟨x, o, hx, hmem⟩ := h.owned k hgone
    refine ⟨x, ⟨o, hx, hmem⟩, ?_⟩
    intro y hy
    obtain ⟨o', hy, hmem'⟩ := hy
    exact h.apart y x o' o k hy hx hmem' hmem
  · intro hex
    obtain ⟨x, ⟨o, hx, hmem⟩, _⟩ := hex
    exact (h.holds x o hx).not_gone hmem

theorem moveOver_owned : ¬ Phase.connected.gone ↔
    ∃! x, ∃ o, movedOver.objects x = some o ∧ 2 ∈ o.handles :=
  live_handle_owned_once moveOver movedOver rfl 2 .connected (by decide +kernel)

/-- A connection says it is connected when its session is open, and then the session is its
own; any other connection has been moved from and has nothing the driver could be asked with. -/
theorem isConnected_iff_session_open (ops : List ConnectionOp) (m : Connections)
    (hrun : run connectionStep {} ops = some m) (x : ℕ) (o : ScyllaConnection)
    (hx : m.objects x = some o) :
    (o.connected = true ↔ ∃ s, o.session = some s ∧
      run Phase.next .absent (usesOf s m.uses) = some .connected) ∧
    (o.connected = false → o.handles = [] ∧ ∀ cql t f answer, (o.execute cql t f answer).1 = [] ∧
      o.ping t f answer = ([], false)) := by
  obtain ⟨d, h⟩ := exists_owns ops m hrun
  cases h.holds x o hx with
  | nothing hc hs hconn =>
    refine ⟨by simp [hconn, hs], fun _ => ⟨by simp [ScyllaConnection.handles, hc, hs], ?_⟩⟩
    intro cql t f answer
    simp [ScyllaConnection.execute, ScyllaConnection.ping, hconn]
  | session c s hc hs hconn hdc hds =>
    refine ⟨⟨fun _ => ⟨s, hs, ?_⟩, fun _ => hconn⟩, fun hnot => by simp [hconn] at hnot⟩
    rw [h.run_usesOf s, hds]

theorem moveOver_open : ∃ s, some 2 = some s ∧
    run Phase.next .absent (usesOf s movedOver.uses) = some .connected :=
  (isConnected_iff_session_open moveOver movedOver rfl 1
    { config := {}, cluster := some 0, session := some 2, connected := true } rfl).1.mp rfl

end Svckit
end ScyllaClusterSync
