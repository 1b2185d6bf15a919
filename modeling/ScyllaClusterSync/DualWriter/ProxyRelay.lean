import ScyllaClusterSync.DualWriter.ProxySessionTheorems

/-!
# A whole connection, byte for byte

The loop of `handle_connection` on its two sockets: what can still be read from the client
and from the source, and what has been written to each. Frames are cut out of the byte
streams as they are read, and the streams may hold anything.

No byte is lost, doubled or put out of order (`relay_conserves_bytes`): what was taken from
the client is the frames served, what was taken from the source is the answers to those that
were forwarded, and a connection without an intercepted write is a copy in both directions.
-/

namespace ScyllaClusterSync
namespace DualWriter

open Lib Svckit

/-- What is outside of the connection while one frame is served: the writer as the other
threads have left it, the two executes of `write` and the id `generate_id` draws. -/
structure Surroundings where
  writer : Writer
  source : Outcome
  target : Outcome
  id : String

/-- A request that has been answered. -/
structure Exchange where
  request : Frame
  forwarded : Bool
  response : List UInt8

/-- A connection between its two sockets. -/
structure Relay where
  connection : Connection := {}
  fromClient : List UInt8
  fromSource : List UInt8
  toSource : List UInt8 := []
  toClient : List UInt8 := []
  served : List Exchange := []

/-- What is left on the source socket once a frame has been handled: only `forward_and_proxy`
reads from it. -/
def Handling.leftOnSource (r : Handling) (source : List UInt8) : List UInt8 :=
  if r.toSource = [] then source else ((readFullFrame source).map Prod.snd).getD source

/-- One iteration of the loop. `none` when the connection ends in it. -/
def relayStep (s : Relay) (a : Surroundings) : Option Relay :=
  (readClientFrame s.fromClient).bind fun (f, rest) =>
    let r := handleFrame a.writer s.connection f (.ofSocket a.source a.target a.id s.fromSource)
    match r.ending with
    | .answered response => some {
        connection := r.connection
        fromClient := rest
        fromSource := r.leftOnSource s.fromSource
        toSource := s.toSource ++ r.toSource.flatten
        toClient := s.toClient ++ response
        served := s.served ++ [⟨f, !r.toSource.isEmpty, response⟩] }
    | _ => none

/-- A connection that has just been accepted. -/
def Relay.start (client source : List UInt8) : Relay :=
  { fromClient := client, fromSource := source }

variable {s s' : Relay} {a : Surroundings}

/-- An iteration that answers serves one frame: it copies the frame to the source and the
answer back, or it answers with a VOID result and touches no socket but the client's. -/
inductive RelayMove (s s' : Relay) (f : Frame) (response : List UInt8) : Prop where
  | forward (hclient : s.fromClient = f.bytes ++ s'.fromClient)
      (hsource : s.fromSource = response ++ s'.fromSource)
      (htoSource : s'.toSource = s.toSource ++ f.bytes)
      (htoClient : s'.toClient = s.toClient ++ response)
      (hserved : s'.served = s.served ++ [⟨f, true, response⟩])
  | answer (hclient : s.fromClient = f.bytes ++ s'.fromClient)
      (hsource : s'.fromSource = s.fromSource) (htoSource : s'.toSource = s.toSource)
      (htoClient : s'.toClient = s.toClient ++ response)
      (hserved : s'.served = s.served ++ [⟨f, false, response⟩])
      (hvoid : response = buildVoidResult f.header.streamId)
      (hwrite : ∃ query, Intercepted s.connection f query)

/-- A frame that is answered without the source is an intercepted write. -/
theorem intercepted_of_toSource_nil {m : Writer} {c : Connection} {f : Frame} {env : Replies}
    {response : List UInt8} (h : (handleFrame m c f env).toSource = [])
    (hending : (handleFrame m c f env).ending = .answered response) :
    ∃ query, Intercepted c f query := by
  cases handleFrame_move m c f env with
  | intercept query hquery _ => exact ⟨query, hquery⟩
  | forward _ hr =>
    rw [hr, toSource_forwardAndProxy] at h
    exact absurd h (List.cons_ne_nil _ _)
  | track id short query response' _ _ _ hr =>
    rw [hr] at h
    exact absurd h (List.cons_ne_nil _ _)
  | reversed response' _ _ _ hr =>
    rw [hr] at h
    exact absurd h (List.cons_ne_nil _ _)
  | fail ending _ hne hr =>
    rw [hr] at hending
    exact absurd hending (hne response)

theorem relayStep_move (h : relayStep s a = some s') :
    ∃ f response, RelayMove s s' f response := by
  unfold relayStep at h
  obtain ⟨⟨f, rest⟩, hread, h⟩ := Option.bind_eq_some_iff.mp h
  have hclient := of_readClientFrame hread
  simp only at h
  cases hending : (handleFrame a.writer s.connection f
      (.ofSocket a.source a.target a.id s.fromSource)).ending with
  | closed => simp [hending] at h
  | undefinedBehaviour => simp [hending] at h
  | answered response =>
    simp only [hending, Option.some.injEq] at h
    subst h
    by_cases hnil : (handleFrame a.writer s.connection f
        (.ofSocket a.source a.target a.id s.fromSource)).toSource = []
    · refine ⟨f, response, .answer hclient ?_ ?_ rfl ?_ (void_of_toSource_nil hnil hending)
        (intercepted_of_toSource_nil hnil hending)⟩
      · exact if_pos hnil
      · simp [hnil]
      · simp [hnil]
    · -- forwarded once, and the answer is the frame at the front of the source socket
      obtain ⟨hbytes, hanswer, _⟩ := forwarded_of_toSource hnil
      obtain ⟨⟨answer, rest'⟩, hsource, heq⟩ := Option.map_eq_some_iff.mp (hanswer response hending)
      obtain rfl : response = answer := heq.symm
      refine ⟨f, response, .forward hclient ?_ ?_ rfl ?_⟩
      · simp only [Handling.leftOnSource, if_neg hnil, hsource]
        exact of_readFullFrame hsource
      · simp [hbytes, Frame.bytes]
      · simp [hbytes]

/-- Where every byte of the two streams is. -/
structure Relayed (client source : List UInt8) (s : Relay) : Prop where
  client : client = (s.served.map fun e => e.request.bytes).flatten ++ s.fromClient
  toSource : s.toSource =
    ((s.served.filter Exchange.forwarded).map fun e => e.request.bytes).flatten
  source : source = ((s.served.filter Exchange.forwarded).map Exchange.response).flatten ++
    s.fromSource
  toClient : s.toClient = (s.served.map Exchange.response).flatten
  answered : ∀ e ∈ s.served, e.forwarded = false →
    e.response = buildVoidResult e.request.header.streamId ∧
      ∃ c query, Intercepted c e.request query

theorem Relayed.step {client source : List UInt8} (hs : Relayed client source s)
    (h : relayStep s a = some s') : Relayed client source s' := by
  obtain ⟨f, response, hmove⟩ := relayStep_move h
  cases hmove with
  | forward hclient hsource htoSource htoClient hserved =>
    refine ⟨?_, ?_, ?_, ?_, ?_⟩
    · rw [hs.client, hclient, hserved]
      simp
    · rw [htoSource, hs.toSource, hserved]
      simp
    · rw [hs.source, hsource, hserved]
      simp
    · rw [htoClient, hs.toClient, hserved]
      simp
    · intro e he hforwarded
      rw [hserved, List.mem_append, List.mem_singleton] at he
      rcases he with he | rfl
      · exact hs.answered e he hforwarded
      · cases hforwarded
  | answer hclient hsource htoSource htoClient hserved hvoid hwrite =>
    refine ⟨?_, ?_, ?_, ?_, ?_⟩
    · rw [hs.client, hclient, hserved]
      simp
    · rw [htoSource, hs.toSource, hserved]
      simp
    · rw [hs.source, hsource, hserved]
      simp
    · rw [htoClient, hs.toClient, hserved]
      simp
    · intro e he hforwarded
      rw [hserved, List.mem_append, List.mem_singleton] at he
      rcases he with he | rfl
      · exact hs.answered e he hforwarded
      · exact ⟨hvoid, s.connection, hwrite⟩

/-- Whatever bytes arrive on the two sockets and whatever the other threads do, after any
number of iterations: what was read from the client is the frames served, in order; what was
written to the source is those of them that were forwarded; what was read from the source is
the answers to these; and what was written to the client is one answer for each frame, a VOID
result for the writes that were intercepted. Without such a write the proxy has copied both
streams. -/
theorem relay_conserves_bytes (client source : List UInt8) (as : List Surroundings) (s : Relay)
    (hrun : run relayStep (Relay.start client source) as = some s) :
    Relayed client source s ∧ s.served.length = as.length ∧
      ((∀ e ∈ s.served, ∀ c query, ¬ Intercepted c e.request query) →
        s.toSource ++ s.fromClient = client ∧ s.toClient ++ s.fromSource = source) := by
  have hstart : Relayed client source (Relay.start client source) := by
    refine ⟨rfl, rfl, rfl, rfl, ?_⟩
    intro e he
    cases he
  have hboth := @run_invariant _ _ relayStep (Relay.start client source)
    (fun as s => Relayed client source s ∧ s.served.length = as.length) ⟨hstart, rfl⟩
    (fun as s a s' hs hstep => by
      refine ⟨hs.1.step hstep, ?_⟩
      obtain ⟨f, response, hmove⟩ := relayStep_move hstep
      have hserved : ∃ forwarded, s'.served = s.served ++ [⟨f, forwarded, response⟩] := by
        cases hmove with
        | forward _ _ _ _ hserved => exact ⟨true, hserved⟩
        | answer _ _ _ _ hserved _ _ => exact ⟨false, hserved⟩
      obtain ⟨forwarded, hserved⟩ := hserved
      rw [hserved, List.length_append, List.length_append, hs.2]
      rfl) as s hrun
  obtain ⟨hs, hlength⟩ := hboth
  refine ⟨hs, hlength, fun hnone => ?_⟩
  have hall : s.served.filter Exchange.forwarded = s.served := by
    rw [List.filter_eq_self]
    intro e he
    by_contra hforwarded
    obtain ⟨_, c, query, hquery⟩ := hs.answered e he (Bool.eq_false_iff.mpr hforwarded)
    exact hnone e he c query hquery
  constructor
  · rw [hs.toSource, hall]
    exact hs.client.symm
  · rw [hs.toClient]
    conv_rhs => rw [hs.source, hall]

/-- A frame without a body, with opcode OPTIONS, and the source's answer to it. -/
def optionsBytes : List UInt8 := [4, 0, 0, 1, 5, 0, 0, 0, 0]

def supportedBytes : List UInt8 := [0x84, 0, 0, 1, 6, 0, 0, 0, 0]

/-- The surroundings of an INSERT, which the source takes, and of a frame that is proxied. -/
def insertSurroundings : List Surroundings :=
  [⟨{ filter := none }, .ok, .syncError "timeout", "a"⟩, ⟨{ filter := none }, .ok, .ok, ""⟩]

/-- A client sends an INSERT, then OPTIONS, then the first byte of another frame. -/
theorem relay_conserves_bytes_insert :
    ∃ s, run relayStep (Relay.start (insertFrame.bytes ++ optionsBytes ++ [4]) supportedBytes)
        insertSurroundings = some s ∧
      s.served.map Exchange.forwarded = [false, true] ∧ s.served.length = 2 ∧
      s.toSource = optionsBytes ∧ s.toClient = buildVoidResult 0 ++ supportedBytes := by
  obtain ⟨s, hrun⟩ : ∃ s, run relayStep
      (Relay.start (insertFrame.bytes ++ optionsBytes ++ [4]) supportedBytes)
      insertSurroundings = some s := Option.isSome_iff_exists.mp (by decide +kernel)
  have hfacts : (run relayStep
      (Relay.start (insertFrame.bytes ++ optionsBytes ++ [4]) supportedBytes)
      insertSurroundings).map (fun s => (s.served.map Exchange.forwarded, s.toSource,
        (s.served.map Exchange.response).flatten)) =
      some ([false, true], optionsBytes, buildVoidResult 0 ++ supportedBytes) := by
    decide +kernel
  rw [hrun, Option.map_some, Option.some.injEq, Prod.mk.injEq, Prod.mk.injEq] at hfacts
  obtain ⟨hforwarded, htoSource, hresponses⟩ := hfacts
  have hall := relay_conserves_bytes (insertFrame.bytes ++ optionsBytes ++ [4]) supportedBytes
    insertSurroundings s hrun
  exact ⟨s, hrun, hforwarded, hall.2.1, htoSource, hall.1.toClient.trans hresponses⟩

end DualWriter
end ScyllaClusterSync
