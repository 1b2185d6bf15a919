import ScyllaClusterSync.DualWriter.ProxyService
import ScyllaClusterSync.DualWriter.WriterCountersTheorems

/-!
# Whose write an answer stands for

Any number of connections call `write()` on one writer, and each waits for its own call. A VOID
result on a connection stands for the call the connection made for that very frame, which has
returned with the source's consent; no call is answered on two connections, and none is lost
(`every_answer_has_its_write`). Once no connection waits, `successful_writes` is the number of
VOID results sent by all connections and `failed_writes` the number of frames that were proxied
after their write had failed.
-/

namespace ScyllaClusterSync
namespace DualWriter

open Lib Svckit

variable {generateId : ℕ → String} {maxRetries : UInt32} {filter : Option BlacklistFilterGovernor}
  {m m' : Writer} {c c' : WriteCall} {w : ℕ}

/-! ## The two halves of an iteration -/

theorem interceptedQuery_eq_some {c : Connection} {f : Frame} {query : String} :
    interceptedQuery c f = some query ↔ Intercepted c f query := by
  unfold interceptedQuery
  constructor
  · intro h
    split at h
    next hop =>
      obtain ⟨query', hparse, h⟩ := Option.bind_eq_some_iff.mp h
      obtain ⟨hwrite, heq⟩ := Option.ite_none_right_eq_some.mp h
      obtain rfl := Option.some.inj heq
      exact .query hop hparse hwrite
    next hquery =>
      split at h
      next hop =>
        obtain ⟨id, hid, h⟩ := Option.bind_eq_some_iff.mp h
        obtain ⟨stmt, htracked, h⟩ := Option.bind_eq_some_iff.mp h
        obtain ⟨hwrite, heq⟩ := Option.ite_none_right_eq_some.mp h
        obtain rfl := Option.some.inj heq
        refine .execute hop id hid ?_
        rw [htracked, ← hwrite]
      next => cases h
  · intro h
    cases h with
    | query hop hparse hwrite => simp only [hop, if_true, hparse, Option.bind_some, hwrite]
    | execute hop id hid htracked =>
      have hquery : ¬ f.header.opcode = OP_QUERY := by
        rw [hop]
        decide
      simp only [hop, hid, htracked, Option.bind_some, if_true]
      rw [← hop, if_neg hquery]

variable {s : Relay} {f : Frame} {rest : List UInt8}

/-- The loop body is what handles a frame and what is left of the sockets then. -/
theorem relayStep_of_read (hread : readClientFrame s.fromClient = some (f, rest))
    (a : Surroundings) :
    relayStep s a = s.afterFrame f rest
      (handleFrame a.writer s.connection f (.ofSocket a.source a.target a.id s.fromSource)) := by
  unfold relayStep
  rw [hread]
  rfl

/-- The writer and the other effects do not matter for it. -/
theorem afterFrame_congr {r r' : Handling} (hconnection : r.connection = r'.connection)
    (hending : r.ending = r'.ending) (hsource : r.toSource = r'.toSource) :
    s.afterFrame f rest r = s.afterFrame f rest r' := by
  unfold Relay.afterFrame Handling.leftOnSource
  rw [hconnection, hending, hsource]

/-- What an iteration with a write makes of the sockets is decided by the result alone. -/
theorem relayStep_of_intercepted {query : String} (result : WriteResult)
    (hread : readClientFrame s.fromClient = some (f, rest))
    (hquery : Intercepted s.connection f query) :
    s.afterFrame f rest
        (afterWrite m s.connection f (.ofSocket .ok .ok "" s.fromSource) result) =
      relayStep s ⟨m, if result.sourceOk then .ok else .syncError "", .ok, ""⟩ := by
  rw [relayStep_of_read hread, handleFrame_of_intercepted hquery]
  unfold afterWrite
  by_cases hok : result.sourceOk = true
  · rw [if_pos hok, if_pos hok]
    apply afterFrame_congr
    · rw [connection_interceptWrite]
    · rw [interceptWrite_ok rfl]
    · rw [toSource_interceptWrite]
      rfl
  · rw [if_neg hok, if_neg hok]
    apply afterFrame_congr
    · rw [connection_interceptWrite]
      rfl
    · rw [interceptWrite_syncError rfl]
      rfl
    · rw [toSource_interceptWrite]
      rfl

/-- The frames answered without the source. -/
def Relay.answeredHere (s : Relay) : List Frame :=
  (s.served.filter fun e => !e.forwarded).map Exchange.request

theorem answeredHere_afterFrame {r : Handling} {s' : Relay}
    (h : s.afterFrame f rest r = some s') :
    s'.answeredHere = s.answeredHere ++ if r.toSource = [] then [f] else [] := by
  unfold Relay.afterFrame at h
  split at h
  next response _ =>
    obtain rfl := Option.some.inj h
    by_cases hnil : r.toSource = []
    · simp [Relay.answeredHere, hnil]
    · simp [Relay.answeredHere, hnil]
  next => cases h

/-- Only the write branch answers without the source. -/
theorem answeredHere_proxied {env : Replies} {s' : Relay}
    (hnone : interceptedQuery s.connection f = none)
    (h : s.afterFrame f rest (handleFrame m s.connection f env) = some s') :
    s'.answeredHere = s.answeredHere := by
  have hanswered : ∃ response, (handleFrame m s.connection f env).ending = .answered response := by
    unfold Relay.afterFrame at h
    split at h
    next response hending => exact ⟨response, hending⟩
    next => cases h
  obtain ⟨response, hending⟩ := hanswered
  have hsource : (handleFrame m s.connection f env).toSource ≠ [] := by
    intro hnil
    obtain ⟨query, hquery⟩ := intercepted_of_toSource_nil hnil hending
    rw [interceptedQuery_eq_some.mpr hquery] at hnone
    cases hnone
  rw [answeredHere_afterFrame h, if_neg hsource, List.append_nil]

/-- A write the source has taken is answered here, and the connection goes on. -/
theorem answeredHere_of_sourceOk (m : Writer) (s : Relay) (f : Frame) (rest : List UInt8)
    (env : Replies) {result : WriteResult} (hok : result.sourceOk = true) :
    ∃ s', s.afterFrame f rest (afterWrite m s.connection f env result) = some s' ∧
      s'.answeredHere = s.answeredHere ++ [f] := by
  have hr : afterWrite m s.connection f env result =
      { writer := m, connection := s.connection, effects := []
        ending := .answered (buildVoidResult f.header.streamId) } := if_pos hok
  rw [hr]
  refine ⟨_, rfl, ?_⟩
  simp [Relay.answeredHere, Handling.toSource]

/-- A write the source has refused is proxied. -/
theorem answeredHere_of_refused {env : Replies} {result : WriteResult} {s' : Relay}
    (hrefused : result.sourceOk = false)
    (h : s.afterFrame f rest (afterWrite m s.connection f env result) = some s') :
    s'.answeredHere = s.answeredHere := by
  have hr : afterWrite m s.connection f env result = forwardAndProxy m s.connection f env [] :=
    if_neg (by rw [hrefused]; exact Bool.false_ne_true)
  rw [hr] at h
  rw [answeredHere_afterFrame h, if_neg (by rw [toSource_forwardAndProxy]; exact List.cons_ne_nil _ _),
    List.append_nil]

/-! ## Calls that have returned -/

/-- The call has returned with this `source_ok`. -/
def WriteCall.returnedWith (ok : Bool) (c : WriteCall) : Bool :=
  match c.pc with
  | .returned r => r.sourceOk == ok
  | _ => false

/-- `successful_writes` or `failed_writes`. -/
def WriterStats.results (stats : WriterStats) (ok : Bool) : ℕ :=
  if ok then stats.successfulWrites else stats.failedWrites

theorem results_countResult (m : Writer) (r : WriteResult) (ok : Bool) :
    (m.countResult r).stats.results ok =
      m.stats.results ok + if r.sourceOk == ok then 1 else 0 := by
  unfold Writer.countResult
  cases r.sourceOk <;> cases ok <;> rfl

theorem callStep_of_finish {b : CallAction} {r : WriteResult} (hpc : c.pc = .finish r)
    (hstep : callStep generateId w m c b = some (m', c')) : m' = m.countResult r := by
  cases b with
  | finish =>
    obtain ⟨r', hpc', hm, _⟩ := callStep_finish hstep
    rw [hpc] at hpc'
    rw [hm, Pc.finish.inj hpc']
  | _ => simp [callStep, hpc] at hstep

/-- A call counts its result when it returns. -/
theorem results_callStep {b : CallAction} (hstep : callStep generateId w m c b = some (m', c'))
    (ok : Bool) :
    m'.stats.results ok = m.stats.results ok + if c'.returnedWith ok then 1 else 0 := by
  cases callStep_countMove hstep with
  | total hpc hpc' hstats =>
    have hno : c'.returnedWith ok = false := by rw [WriteCall.returnedWith, hpc']
    rw [hno, hstats]
    cases ok <;> rfl
  | filtered hpc hpc' hstats =>
    have hno : c'.returnedWith ok = false := by rw [WriteCall.returnedWith, hpc']
    rw [hno, hstats]
    cases ok <;> rfl
  | result r hpc hpc' _ =>
    have hyes : c'.returnedWith ok = (r.sourceOk == ok) := by rw [WriteCall.returnedWith, hpc']
    rw [hyes, callStep_of_finish hpc hstep, results_countResult]
  | stay _ hpc' _ hstats =>
    have hno : c'.returnedWith ok = false := by
      unfold WriteCall.returnedWith
      split
      next r hr =>
        rw [hr] at hpc'
        cases hpc'
      next => rfl
    rw [hno, hstats]
    rfl

/-- Every call goes on with its own statement, and one that has returned stays so. -/
def CallsKept (calls calls' : List WriteCall) : Prop :=
  ∀ (w : ℕ) (c : WriteCall), calls[w]? = some c → ∃ c' : WriteCall, calls'[w]? = some c' ∧
    c'.cql = c.cql ∧ ∀ ok, c.returnedWith ok = true → c'.returnedWith ok = true

theorem returnedWith_of_callStep {b : CallAction}
    (hstep : callStep generateId w m c b = some (m', c')) (ok : Bool) :
    c.returnedWith ok = false := by
  cases hpc : c.pc with
  | returned r => cases b <;> simp [callStep, hpc] at hstep
  | _ => rw [WriteCall.returnedWith, hpc]

section

variable {p p' : State} {a : Action} {h : List Action}

theorem callsKept_of_step (hstep : Pool.step (program generateId maxRetries) p a = some p') :
    CallsKept p.threads p'.threads := by
  intro w c hc
  rcases Pool.getElem?_of_step hstep hc with hsame | ⟨b, c', _, hthread, hc'⟩
  · exact ⟨c, hsame, rfl, fun _ hret => hret⟩
  · refine ⟨c', hc', (callStep_request hthread).1, fun ok hret => ?_⟩
    rw [returnedWith_of_callStep hthread ok] at hret
    exact absurd hret Bool.false_ne_true

/-- The results counted are those of the calls that have returned. -/
theorem results_of_runs (hrun : runs generateId maxRetries filter h = some p) (ok : Bool) :
    p.mem.stats.results ok = p.threads.countP (·.returnedWith ok) := by
  refine @run_invariant _ _ (Pool.step (program generateId maxRetries)) (initial filter)
    (fun _ p => p.mem.stats.results ok = p.threads.countP (·.returnedWith ok)) ?_ ?_ h p hrun
  · cases ok <;> rfl
  intro h p a p' hp hstep
  cases a with
  | spawn k =>
    obtain rfl := Pool.step_spawn hstep
    rw [List.countP_append]
    exact hp
  | act w b =>
    obtain ⟨c, m, c', hc, hthread, rfl⟩ := Pool.step_act hstep
    have hcount := Pool.countP_set_add hc (·.returnedWith ok) c'
    have hresults := results_callStep hthread ok
    rw [returnedWith_of_callStep hthread ok] at hcount
    simp only [Bool.false_eq_true, if_false, Nat.add_zero] at hcount
    rw [hcount, hresults, hp]
  | env e =>
    obtain ⟨m, henv, rfl⟩ := Pool.step_env hstep
    cases e with
    | reload =>
      obtain rfl := Option.some.inj henv
      exact hp
    | retry a =>
      obtain ⟨_, hsuccess, hfailed, _⟩ := results_retryStep henv
      rw [← hp]
      unfold WriterStats.results
      rw [hsuccess, hfailed]

end

/-! ## One connection -/

/-- A state of the loop of a connection with these bytes on its sockets. -/
def Reached (client source : List UInt8) (s : Relay) : Prop :=
  ∃ as, run relayStep (Relay.start client source) as = some s

/-- What a connection has to do with the calls: the frames it has answered without the source are
those of the calls it acknowledged, in order; each of these wrote the statement of its frame and
was told that the source has it; the calls it fell back after were told otherwise; and the call
it waits for writes the statement of the frame it has read. -/
structure Accounted (calls : List WriteCall) (client source : List UInt8) (s : ServedConnection) :
    Prop where
  reached : Reached client source s.relay
  answers : s.relay.answeredHere = s.acknowledged.map Prod.fst
  acknowledged : ∀ q ∈ s.acknowledged, ∃ c : WriteCall, calls[q.2]? = some c ∧
    c.returnedWith true = true ∧
    ∃ s₀, Reached client source s₀ ∧ Intercepted s₀.connection q.1 c.cql
  refused : ∀ w ∈ s.refused, ∃ c : WriteCall, calls[w]? = some c ∧ c.returnedWith false = true
  writing : ∀ q, s.writing = some q →
    readClientFrame s.relay.fromClient = some (q.frame, q.rest) ∧
    ∃ c : WriteCall, calls[q.call]? = some c ∧ Intercepted s.relay.connection q.frame c.cql

section

variable {calls calls' : List WriteCall} {client source : List UInt8} {s s' : ServedConnection}

theorem Reached.next {o : Option Relay} {a : Surroundings} (h : Reached client source s.relay)
    (ho : o = relayStep s.relay a) : Reached client source (s.next o).relay := by
  cases hstep : o with
  | none => exact h
  | some relay =>
    obtain ⟨as, hrun⟩ := h
    exact ⟨as ++ [a], run_concat_eq_some.mpr ⟨s.relay, hrun, ho.symm.trans hstep⟩⟩

theorem Accounted.mono (h : Accounted calls client source s) (hkept : CallsKept calls calls') :
    Accounted calls' client source s where
  reached := h.reached
  answers := h.answers
  acknowledged q hq := by
    obtain ⟨c, hc, hret, s₀, hs₀, hquery⟩ := h.acknowledged q hq
    obtain ⟨c', hc', hcql, hstays⟩ := hkept q.2 c hc
    exact ⟨c', hc', hstays true hret, s₀, hs₀, hcql ▸ hquery⟩
  refused w hw := by
    obtain ⟨c, hc, hret⟩ := h.refused w hw
    obtain ⟨c', hc', _, hstays⟩ := hkept w c hc
    exact ⟨c', hc', hstays false hret⟩
  writing q hq := by
    obtain ⟨hread, c, hc, hquery⟩ := h.writing q hq
    obtain ⟨c', hc', hcql, _⟩ := hkept q.call c hc
    exact ⟨hread, c', hc', hcql ▸ hquery⟩

theorem accounted_start (calls : List WriteCall) (client source : List UInt8) :
    Accounted calls client source { relay := Relay.start client source } where
  reached := ⟨[], rfl⟩
  answers := rfl
  acknowledged q hq := by cases hq
  refused w hw := by cases hw
  writing q hq := by cases hq

theorem Accounted.closed (h : Accounted calls client source s) :
    Accounted calls client source { s with closed := true } :=
  ⟨h.reached, h.answers, h.acknowledged, h.refused, h.writing⟩

/-- The connection at the head of its loop again, or ended. -/
theorem Accounted.next {o : Option Relay} {a : Surroundings}
    (h : Accounted calls client source s) (ho : o = relayStep s.relay a)
    (hsame : ∀ relay, o = some relay → relay.answeredHere = s.relay.answeredHere) :
    Accounted calls client source (s.next o) := by
  have hreached := h.reached.next ho
  cases o with
  | none =>
    refine ⟨hreached, h.answers, h.acknowledged, h.refused, ?_⟩
    intro q hq
    cases hq
  | some relay =>
    refine ⟨hreached, (hsame relay rfl).trans h.answers, h.acknowledged, h.refused, ?_⟩
    intro q hq
    cases hq

@[simp] theorem acknowledged_next (s : ServedConnection) (o : Option Relay) :
    (s.next o).acknowledged = s.acknowledged := by
  cases o <;> rfl

@[simp] theorem refused_next (s : ServedConnection) (o : Option Relay) :
    (s.next o).refused = s.refused := by
  cases o <;> rfl

@[simp] theorem writing_next (s : ServedConnection) (o : Option Relay) :
    (s.next o).writing = none := by
  cases o <;> rfl

theorem writing_of_idle (h : ¬ (s.closed = true ∨ s.writing.isSome = true)) : s.writing = none := by
  rw [not_or, Option.not_isSome_iff_eq_none] at h
  exact h.2

theorem calls_of_idle (h : s.writing = none) :
    s.calls = s.acknowledged.map Prod.snd ++ s.refused := by
  rw [ServedConnection.calls, h]
  exact List.append_nil _

/-- An iteration without a write leaves the accounts alone. -/
theorem Accounted.proxy (h : Accounted calls client source s)
    (hstep : proxyStep m s = some s') :
    Accounted calls client source s' ∧ s'.calls = s.calls := by
  unfold proxyStep at hstep
  split at hstep
  · cases hstep
  next hidle =>
    obtain ⟨⟨f, rest⟩, hread, hstep⟩ := Option.bind_eq_some_iff.mp hstep
    obtain ⟨hnone, heq⟩ := Option.ite_none_right_eq_some.mp hstep
    obtain rfl := Option.some.inj heq
    refine ⟨?_, ?_⟩
    · apply h.next (relayStep_of_read hread ⟨m, .ok, .ok, ""⟩).symm
      exact fun relay hafter => answeredHere_proxied hnone hafter
    · rw [calls_of_idle (writing_next _ _), calls_of_idle (writing_of_idle hidle),
        acknowledged_next, refused_next]

/-- A connection that starts to wait has one call more. -/
theorem Accounted.intercept {query : String} (h : Accounted calls client source s)
    (hstep : interceptStep w query s = some s') (hc : calls[w]? = some c)
    (hcql : c.cql = query) :
    Accounted calls client source s' ∧ s'.calls = s.calls ++ [w] := by
  unfold interceptStep at hstep
  split at hstep
  · cases hstep
  next hidle =>
    obtain ⟨⟨f, rest⟩, hread, hstep⟩ := Option.bind_eq_some_iff.mp hstep
    obtain ⟨hquery, heq⟩ := Option.ite_none_right_eq_some.mp hstep
    obtain rfl := Option.some.inj heq
    refine ⟨⟨h.reached, h.answers, h.acknowledged, h.refused, ?_⟩, ?_⟩
    · intro q hq
      obtain rfl := Option.some.inj hq
      exact ⟨hread, c, hc, hcql ▸ interceptedQuery_eq_some.mp hquery⟩
    · rw [calls_of_idle (writing_of_idle hidle)]
      rfl

/-- The call a connection waits for has returned: it is answered here or proxied. -/
theorem Accounted.answer {q : PendingWrite} {result : WriteResult}
    (h : Accounted calls client source s) (hq : s.writing = some q)
    (hc : calls[q.call]? = some c) (hpc : c.pc = .returned result) :
    Accounted calls client source (answerStep m s q result) ∧
      (answerStep m s q result).calls.Perm s.calls := by
  obtain ⟨hread, c₀, hc₀, hquery⟩ := h.writing q hq
  obtain rfl := Option.some.inj (hc.symm.trans hc₀)
  have hrelay := relayStep_of_intercepted (m := m) result hread hquery
  have hreturned : c.returnedWith result.sourceOk = true := by
    rw [WriteCall.returnedWith, hpc]
    exact beq_self_eq_true _
  have hcalls : s.calls = s.acknowledged.map Prod.snd ++ (s.refused ++ [q.call]) := by
    rw [ServedConnection.calls, hq, List.append_assoc]
    rfl
  unfold answerStep
  cases hok : result.sourceOk with
  | true =>
    -- the answer to its frame is one more that the source has not seen
    have hreached := h.reached.next hrelay
    obtain ⟨relay, hafter, hanswered⟩ := answeredHere_of_sourceOk m s.relay q.frame q.rest
      (.ofSocket .ok .ok "" s.relay.fromSource) hok
    rw [hafter] at hreached ⊢
    rw [hok] at hreturned
    refine ⟨⟨hreached, ?_, ?_, h.refused, ?_⟩, ?_⟩
    · show relay.answeredHere = (s.acknowledged ++ [(q.frame, q.call)]).map Prod.fst
      rw [hanswered, h.answers, List.map_append]
      rfl
    · intro r hr
      rcases List.mem_append.mp hr with hold | hnew
      · exact h.acknowledged r hold
      · obtain rfl := List.mem_singleton.mp hnew
        exact ⟨c, hc, hreturned, s.relay, h.reached, hquery⟩
    · intro r hr
      cases hr
    · show ((s.acknowledged ++ [(q.frame, q.call)]).map Prod.snd ++ s.refused ++ []).Perm s.calls
      rw [hcalls, List.map_append, List.append_nil, List.append_assoc]
      exact List.Perm.append_left _ List.perm_append_comm
  | false =>
    have hnext := h.next hrelay fun relay hafter => answeredHere_of_refused hok hafter
    rw [hok] at hreturned
    refine ⟨⟨hnext.reached, hnext.answers, hnext.acknowledged, ?_, hnext.writing⟩, ?_⟩
    · intro r hr
      rcases List.mem_append.mp hr with hold | hnew
      · exact h.refused r hold
      · obtain rfl := List.mem_singleton.mp hnew
        exact ⟨c, hc, hreturned⟩
    · rw [hcalls, calls_of_idle (by simp)]
      simp

end

/-! ## All connections -/

/-- The list holds `xs` more once element `i` does. -/
theorem flatMap_set_perm {α β : Type*} {f : α → List β} {l : List α} {i : ℕ} {a a' : α}
    (xs : List β) (ha : l[i]? = some a) (hf : (f a').Perm (f a ++ xs)) :
    ((l.set i a').flatMap f).Perm (l.flatMap f ++ xs) := by
  induction l generalizing i with
  | nil => cases ha
  | cons b l ih =>
    cases i with
    | zero =>
      obtain rfl := Option.some.inj ha
      rw [List.set_cons_zero, List.flatMap_cons, List.flatMap_cons, List.append_assoc]
      refine (hf.append_right _).trans ?_
      rw [List.append_assoc]
      exact List.perm_append_comm.append_left _
    | succ i =>
      rw [List.set_cons_succ, List.flatMap_cons, List.flatMap_cons, List.append_assoc]
      exact (ih ha).append_left _

/-- The bytes on the two sockets of each connection, in the order they were accepted. -/
def acceptedSockets (h : List ServiceAction) : List (List UInt8 × List UInt8) :=
  h.filterMap fun a => match a with
    | .accept client source => some (client, source)
    | _ => none

/-- The calls of the writer are those of the connections, each of one of them, and every
connection accounts for its own. -/
structure ServiceInv (generateId : ℕ → String) (maxRetries : UInt32)
    (filter : Option BlacklistFilterGovernor) (h : List ServiceAction) (p : Service) : Prop where
  writer : runs generateId maxRetries filter (writerHistory h) = some p.writer
  calls : (p.connections.flatMap ServedConnection.calls).Perm
    (List.range p.writer.threads.length)
  length : p.connections.length = (acceptedSockets h).length
  accounted : ∀ (i : ℕ) (s : ServedConnection), p.connections[i]? = some s →
    ∃ client source, (acceptedSockets h)[i]? = some (client, source) ∧
      Accounted p.writer.threads client source s

section

variable {h : List ServiceAction} {p p' : Service} {a : ServiceAction}

theorem onConnection_eq_some {i : ℕ} {step : ServedConnection → Option ServedConnection} :
    p.onConnection i step = some p' ↔ ∃ s s', p.connections[i]? = some s ∧ step s = some s' ∧
      { p with connections := p.connections.set i s' } = p' := by
  unfold Service.onConnection
  simp only [Option.bind_eq_some_iff, Option.map_eq_some_iff]
  constructor
  · rintro ⟨s, hs, s', hs', hp⟩
    exact ⟨s, s', hs, hs', hp⟩
  · rintro ⟨s, s', hs, hs', hp⟩
    exact ⟨s, hs, s', hs', hp⟩

theorem writerHistory_concat (h : List ServiceAction) (a : ServiceAction) :
    writerHistory (h ++ [a]) = writerHistory h ++ writerHistory [a] :=
  List.filterMap_append

theorem acceptedSockets_concat (h : List ServiceAction) (a : ServiceAction) :
    acceptedSockets (h ++ [a]) = acceptedSockets h ++ acceptedSockets [a] :=
  List.filterMap_append

/-- A step of one connection alone. -/
theorem ServiceInv.connection {i : ℕ} {step : ServedConnection → Option ServedConnection}
    (hinv : ServiceInv generateId maxRetries filter h p)
    (hstep : p.onConnection i step = some p') (hwriter : writerHistory [a] = [])
    (haccepted : acceptedSockets [a] = [])
    (hstay : ∀ s s' client source, step s = some s' →
      Accounted p.writer.threads client source s →
      Accounted p.writer.threads client source s' ∧ s'.calls.Perm s.calls) :
    ServiceInv generateId maxRetries filter (h ++ [a]) p' := by
  obtain ⟨s, s', hs, hs', rfl⟩ := onConnection_eq_some.mp hstep
  obtain ⟨client, source, hsockets, hacc⟩ := hinv.accounted i s hs
  obtain ⟨hacc', hcalls⟩ := hstay s s' client source hs' hacc
  refine ⟨?_, ?_, ?_, ?_⟩
  · rw [writerHistory_concat, hwriter, List.append_nil]
    exact hinv.writer
  · refine (flatMap_set_perm [] hs ?_).trans ?_
    · rwa [List.append_nil]
    · rw [List.append_nil]
      exact hinv.calls
  · rw [acceptedSockets_concat, haccepted, List.append_nil, List.length_set]
    exact hinv.length
  · intro j t ht
    rw [acceptedSockets_concat, haccepted, List.append_nil]
    rcases Pool.of_getElem?_set hs ht with ⟨rfl, rfl⟩ | ⟨_, hother⟩
    · exact ⟨client, source, hsockets, hacc'⟩
    · exact hinv.accounted j t hother

/-- A step of the writer that starts no call. -/
theorem ServiceInv.writerStep {b : Action} {writer : State}
    (hinv : ServiceInv generateId maxRetries filter h p)
    (hstep : Pool.step (program generateId maxRetries) p.writer b = some writer)
    (hwriter : writerHistory [a] = [b]) (haccepted : acceptedSockets [a] = [])
    (hlength : writer.threads.length = p.writer.threads.length) :
    ServiceInv generateId maxRetries filter (h ++ [a]) { p with writer := writer } := by
  refine ⟨?_, ?_, ?_, ?_⟩
  · rw [writerHistory_concat, hwriter]
    exact run_concat_eq_some.mpr ⟨p.writer, hinv.writer, hstep⟩
  · rw [hlength]
    exact hinv.calls
  · rw [acceptedSockets_concat, haccepted, List.append_nil]
    exact hinv.length
  · intro i s hs
    rw [acceptedSockets_concat, haccepted, List.append_nil]
    obtain ⟨client, source, hsockets, hacc⟩ := hinv.accounted i s hs
    exact ⟨client, source, hsockets, hacc.mono (callsKept_of_step hstep)⟩

/-- One step of the service. -/
theorem ServiceInv.step (hinv : ServiceInv generateId maxRetries filter h p)
    (hstep : serviceStep generateId maxRetries p a = some p') :
    ServiceInv generateId maxRetries filter (h ++ [a]) p' := by
  cases a with
  | accept client source =>
    obtain rfl := Option.some.inj hstep
    have hsockets : acceptedSockets (h ++ [.accept client source]) =
        acceptedSockets h ++ [(client, source)] := acceptedSockets_concat h _
    refine ⟨?_, ?_, ?_, ?_⟩
    · rw [writerHistory_concat]
      exact (congrArg _ (List.append_nil _)).trans hinv.writer
    · show ((p.connections ++ [_]).flatMap ServedConnection.calls).Perm _
      rw [List.flatMap_append]
      exact (List.append_nil _).symm ▸ hinv.calls
    · rw [hsockets, List.length_append, List.length_append, hinv.length]
      rfl
    · intro i s hs
      rw [hsockets]
      rcases Pool.of_getElem?_concat hs with hold | ⟨rfl, rfl⟩
      · obtain ⟨client', source', hsock, hacc⟩ := hinv.accounted i s hold
        refine ⟨client', source', ?_, hacc⟩
        rw [List.getElem?_append_left (List.getElem?_eq_some_iff.mp hsock).1]
        exact hsock
      · refine ⟨client, source, ?_, accounted_start _ client source⟩
        rw [hinv.length]
        simp
  | proxy i =>
    refine hinv.connection hstep rfl rfl ?_
    intro s s' client source hs' hacc
    obtain ⟨hacc', hcalls⟩ := hacc.proxy hs'
    exact ⟨hacc', hcalls ▸ List.Perm.refl _⟩
  | intercept i query =>
    -- the call gets the next number, and the connection waits for it
    obtain ⟨p₁, hconnection, hspawn⟩ := Option.bind_eq_some_iff.mp hstep
    obtain ⟨writer, hwriter, rfl⟩ := Option.map_eq_some_iff.mp hspawn
    obtain ⟨s, s', hs, hs', rfl⟩ := onConnection_eq_some.mp hconnection
    obtain ⟨client, source, hsockets, hacc⟩ := hinv.accounted i s hs
    have hkept := callsKept_of_step hwriter
    have hnew := Pool.step_spawn hwriter
    have hcall : writer.threads[p.writer.threads.length]? =
        some ⟨query, extractTableTarget query, .entered⟩ := by
      rw [hnew]
      simp [program]
    obtain ⟨hacc', hcalls⟩ := (hacc.mono hkept).intercept hs' hcall rfl
    refine ⟨?_, ?_, ?_, ?_⟩
    · rw [writerHistory_concat]
      exact run_concat_eq_some.mpr ⟨p.writer, hinv.writer, hwriter⟩
    · have hlength : writer.threads.length = p.writer.threads.length + 1 := by
        rw [hnew]
        simp
      rw [hlength, List.range_succ]
      refine (flatMap_set_perm _ hs ?_).trans (hinv.calls.append_right _)
      rw [hcalls]
    · rw [acceptedSockets_concat, List.length_set]
      exact hinv.length.trans (congrArg List.length (List.append_nil _).symm)
    · intro j t ht
      rw [acceptedSockets_concat, show acceptedSockets [.intercept i query] = [] from rfl,
        List.append_nil]
      rcases Pool.of_getElem?_set hs ht with ⟨rfl, rfl⟩ | ⟨_, hother⟩
      · exact ⟨client, source, hsockets, hacc'⟩
      · obtain ⟨client', source', hsock, hold⟩ := hinv.accounted j t hother
        exact ⟨client', source', hsock, hold.mono hkept⟩
  | answer i =>
    refine hinv.connection hstep rfl rfl ?_
    intro s s' client source hs' hacc
    obtain ⟨q, hq, hs'⟩ := Option.bind_eq_some_iff.mp hs'
    obtain ⟨c, hc, hs'⟩ := Option.bind_eq_some_iff.mp hs'
    split at hs'
    next result hpc =>
      obtain rfl := Option.some.inj hs'
      exact hacc.answer hq hc hpc
    next => cases hs'
  | close i =>
    refine hinv.connection hstep rfl rfl ?_
    intro s s' client source hs' hacc
    obtain ⟨_, heq⟩ := Option.ite_none_right_eq_some.mp hs'
    obtain rfl := Option.some.inj heq
    exact ⟨hacc.closed, List.Perm.refl _⟩
  | write w b =>
    obtain ⟨writer, hwriter, rfl⟩ := Option.map_eq_some_iff.mp hstep
    refine hinv.writerStep hwriter rfl rfl ?_
    obtain ⟨_, _, _, _, _, rfl⟩ := Pool.step_act hwriter
    exact List.length_set
  | env e =>
    obtain ⟨writer, hwriter, rfl⟩ := Option.map_eq_some_iff.mp hstep
    refine hinv.writerStep hwriter rfl rfl ?_
    obtain ⟨_, _, rfl⟩ := Pool.step_env hwriter
    rfl

end

/-! ## What the two results count -/

/-- The calls of a connection that have returned with this result: those it has dealt with, and
the one it waits for, if it has just returned. -/
def ServedConnection.results (calls : List WriteCall) (ok : Bool) (s : ServedConnection) : ℕ :=
  (if ok then s.acknowledged.length else s.refused.length) +
    (s.writing.map PendingWrite.call).toList.countP fun w => calls[w]?.any (·.returnedWith ok)

theorem returnedWith_unique {ok ok' : Bool} (h : c.returnedWith ok = true)
    (h' : c.returnedWith ok' = true) : ok = ok' := by
  unfold WriteCall.returnedWith at h h'
  split at h
  next r hr =>
    rw [hr] at h'
    rw [← beq_iff_eq.mp h, ← beq_iff_eq.mp h']
  next => cases h

theorem countP_range_getElem? {α : Type*} (l : List α) (f : α → Bool) :
    (List.range l.length).countP (fun i => l[i]?.any f) = l.countP f := by
  have hmap : (List.range l.length).map (fun i => l[i]?) = l.map some := by
    apply List.ext_getElem
    · simp
    · intro i hi hi'
      simp
  have hcount := congrArg (List.countP fun o : Option α => o.any f) hmap
  rw [List.countP_map, List.countP_map] at hcount
  exact hcount

/-- A call it has acknowledged has one result, and a call it has fallen back after the other. -/
theorem Accounted.countP_calls {calls : List WriteCall} {client source : List UInt8}
    {s : ServedConnection} (h : Accounted calls client source s) (ok : Bool) :
    s.calls.countP (fun w => calls[w]?.any (·.returnedWith ok)) = s.results calls ok := by
  have hreturned : ∀ (l : List ℕ) (b : Bool),
      (∀ w ∈ l, ∃ c : WriteCall, calls[w]? = some c ∧ c.returnedWith b = true) →
      l.countP (fun w => calls[w]?.any (·.returnedWith ok)) = if ok = b then l.length else 0 := by
    intro l b hl
    split
    next heq =>
      rw [List.countP_eq_length]
      intro w hw
      obtain ⟨c, hc, hret⟩ := hl w hw
      rw [hc, heq]
      exact hret
    next hne =>
      rw [List.countP_eq_zero]
      intro w hw hcounted
      obtain ⟨c, hc, hret⟩ := hl w hw
      rw [hc] at hcounted
      exact hne (returnedWith_unique hcounted hret)
  have hacknowledged := hreturned (s.acknowledged.map Prod.snd) true (fun w hw => by
    obtain ⟨q, hq, rfl⟩ := List.mem_map.mp hw
    obtain ⟨c, hc, hret, _⟩ := h.acknowledged q hq
    exact ⟨c, hc, hret⟩)
  unfold ServedConnection.calls ServedConnection.results
  rw [List.countP_append, List.countP_append, hacknowledged, hreturned s.refused false h.refused,
    List.length_map]
  cases ok <;> simp

section

variable {h : List ServiceAction} {p : Service}

/-- Each result counts the calls of all connections. -/
theorem ServiceInv.results (hinv : ServiceInv generateId maxRetries filter h p) (ok : Bool) :
    p.writer.mem.stats.results ok =
      (p.connections.map fun s => s.results p.writer.threads ok).sum := by
  rw [results_of_runs hinv.writer ok, ← countP_range_getElem?, ← hinv.calls.countP_eq,
    List.countP_flatMap]
  congr 1
  apply List.map_congr_left
  intro s hs
  obtain ⟨i, hi⟩ := List.mem_iff_getElem?.mp hs
  obtain ⟨_, _, _, hacc⟩ := hinv.accounted i s hi
  exact hacc.countP_calls ok

/-- No call is under way when no connection waits for one. -/
theorem ServiceInv.returned (hinv : ServiceInv generateId maxRetries filter h p)
    (hidle : ∀ s ∈ p.connections, s.writing = none) :
    ∀ c ∈ p.writer.threads, ∃ ok, c.returnedWith ok = true := by
  intro c hc
  obtain ⟨w, hw⟩ := List.mem_iff_getElem?.mp hc
  have hlt := (List.getElem?_eq_some_iff.mp hw).1
  obtain ⟨s, hs, hcall⟩ := List.mem_flatMap.mp
    (hinv.calls.mem_iff.mpr (List.mem_range.mpr hlt))
  obtain ⟨i, hi⟩ := List.mem_iff_getElem?.mp hs
  obtain ⟨_, _, _, hacc⟩ := hinv.accounted i s hi
  unfold ServedConnection.calls at hcall
  rw [hidle s hs, Option.map_none, Option.toList_none, List.append_nil, List.mem_append] at hcall
  rcases hcall with hacknowledged | hrefused
  · obtain ⟨q, hq, rfl⟩ := List.mem_map.mp hacknowledged
    obtain ⟨c', hc', hret, _⟩ := hacc.acknowledged q hq
    obtain rfl := Option.some.inj (hw.symm.trans hc')
    exact ⟨true, hret⟩
  · obtain ⟨c', hc', hret⟩ := hacc.refused w hrefused
    obtain rfl := Option.some.inj (hw.symm.trans hc')
    exact ⟨false, hret⟩

theorem ServiceInv.totalWrites (hinv : ServiceInv generateId maxRetries filter h p)
    (hidle : ∀ s ∈ p.connections, s.writing = none) :
    p.writer.mem.stats.totalWrites = p.writer.threads.length := by
  have hreturned := hinv.returned hidle
  have hunsettled : p.writer.threads.countP (·.pc.unsettled) = 0 := by
    rw [List.countP_eq_zero]
    intro c hc hpc
    obtain ⟨ok, hret⟩ := hreturned c hc
    unfold WriteCall.returnedWith at hret
    split at hret
    next r hr =>
      rw [hr] at hpc
      cases hpc
    next => cases hret
  have hsuccessful : p.writer.mem.stats.successfulWrites = _ := results_of_runs hinv.writer true
  have hfailed : p.writer.mem.stats.failedWrites = _ := results_of_runs hinv.writer false
  have hboth : p.writer.threads.countP (·.returnedWith false) =
      p.writer.threads.countP (fun c => !c.returnedWith true) := by
    apply List.countP_congr
    intro c hc
    obtain ⟨ok, hret⟩ := hreturned c hc
    constructor
    · intro hfalse
      rw [Bool.not_eq_true', Bool.eq_false_iff]
      intro htrue
      cases returnedWith_unique hfalse htrue
    · intro hnot
      cases ok with
      | true =>
        rw [hret] at hnot
        cases hnot
      | false => exact hret
  have hlength := List.length_eq_countP_add_countP (·.returnedWith true) (l := p.writer.threads)
  have hresults := (resultsBalance_of_runs hinv.writer).results
  rw [hsuccessful, hfailed, hunsettled, hboth] at hresults
  rw [hresults, hlength]
  simp

end

end DualWriter
end ScyllaClusterSync
