import ScyllaClusterSync.DualWriter.CqlStreamTheorems
import ScyllaClusterSync.DualWriter.ProxySession

/-!
# When every request gets its own response

The proxy pairs requests and responses by position: one read for each forwarded request.
`Aligned` is what keeps the two sockets in step; it survives every interleaving of
forwarded and intercepted requests as long as no EVENT is read in place of a response.
Every such read is a request answered with the EVENT, so `own_response_iff` holds of all
runs.
-/

namespace ScyllaClusterSync
namespace DualWriter

open Lib Svckit

/-! ## A frame that waits for the source -/

section Forwarding

variable {m : Writer} {c : Connection} {f : Frame} {env : Replies}

/-- A PREPARE with a statement in it is forwarded. -/
theorem effects_handlePrepare :
    (handlePrepare m c f env).effects =
      if (parseLongString f.body 0).isSome then [.forward (f.header.toBytes ++ f.body)] else [] := by
  unfold handlePrepare
  cases parseLongString f.body 0 with
  | none => rfl
  | some query =>
    cases env.forwarded with
    | none => rfl
    | some response => cases htracked : trackedId response <;> simp only [htracked] <;> rfl

/-- What is done before the source's reply does not depend on it. -/
theorem effects_forwarded (m : Writer) (c : Connection) (f : Frame) (env : Replies)
    (reply : Option (List UInt8)) :
    (handleFrame m c f { env with forwarded := reply }).effects = (handleFrame m c f env).effects := by
  -- QUERY, PREPARE, EXECUTE and the rest, as `handle_frame` dispatches them
  unfold handleFrame
  split
  · unfold handleQuery
    split
    · rfl
    · split
      · rw [effects_interceptWrite, effects_interceptWrite]
      · rfl
  · split
    · rw [effects_handlePrepare, effects_handlePrepare]
    · split
      · unfold handleExecute
        split
        · rfl
        · split
          · rfl
          · split
            · rw [effects_interceptWrite, effects_interceptWrite]
            · rfl
      · rfl

/-- A request that is answered without the source is answered with a VOID result. -/
theorem void_of_toSource_nil {response : List UInt8} (h : (handleFrame m c f env).toSource = [])
    (hending : (handleFrame m c f env).ending = .answered response) :
    response = buildVoidResult f.header.streamId := by
  cases handleFrame_move m c f env with
  | intercept query _ hr =>
    rw [hr] at h hending
    rw [toSource_interceptWrite] at h
    cases hsrc : env.source with
    | ok =>
      rw [interceptWrite_ok hsrc] at hending
      exact (Ending.answered.inj hending).symm
    | syncError e => simp [hsrc] at h
  | forward _ hr => rw [hr] at h; simp [toSource_forwardAndProxy] at h
  | track id short query response' _ _ _ hr =>
    rw [hr] at h
    exact absurd h (by simp [Handling.toSource, forwardAndProxy])
  | reversed response' _ _ _ hr =>
    rw [hr] at h
    exact absurd h (by simp [Handling.toSource, forwardAndProxy])
  | fail ending _ hne hr =>
    rw [hr] at hending
    exact absurd hending (hne response)

/-- A response that is no RESULT is not tracked. -/
theorem trackedId_of_opcode {g : Frame} (h : g.header.opcode ≠ OP_RESULT) :
    trackedId g.bytes = .ignore := by
  have hopcode : (g.bytes.getD 4 0 == OP_RESULT) = false := by
    show (g.header.opcode == OP_RESULT) = false
    simpa using h
  unfold trackedId
  rw [hopcode, Bool.and_false]
  rfl

end Forwarding

/-! ## The property and the condition -/

/-- The client has been sent a frame that is no EVENT, with the stream id of its request. -/
def OwnResponse (f : Frame) (response : List UInt8) : Prop :=
  ∃ g : Frame, response = g.bytes ∧ g.header.opcode ≠ OP_EVENT ∧
    g.header.streamId = f.header.streamId

/-- The step finishes no request, or it finishes one with its own response, and no response
to it or to an earlier one is left on the source socket or still to come. -/
def Served (s : Session) (_ : SessionAction) (s' : Session) : Prop :=
  ∀ f response, s'.answered = s.answered ++ [(f, response)] →
    OwnResponse f response ∧ s'.toAnswer = [] ∧ ∀ g ∈ s'.unread, g.header.opcode = OP_EVENT

/-- When the proxy reads for a forwarded request, the next frame on the source socket is
not an EVENT. -/
def ReadsNoEvent (s : Session) (a : SessionAction) (_ : Session) : Prop :=
  a = .read → ∀ g rest, s.unread = g :: rest → g.header.opcode ≠ OP_EVENT

/-- The source socket is in step with the client: between requests only EVENTs are unread,
and for a forwarded request there is one response, to come or among the EVENTs. -/
structure Aligned (s : Session) : Prop where
  idle : ∀ c, s.connection = some c → s.awaiting = none →
    s.toAnswer = [] ∧ ∀ g ∈ s.unread, g.header.opcode = OP_EVENT
  waiting : ∀ c p, s.connection = some c → s.awaiting = some p →
    (s.toAnswer = [p.frame] ∧ ∀ g ∈ s.unread, g.header.opcode = OP_EVENT) ∨
      (s.toAnswer = [] ∧ ∃ before g after, s.unread = before ++ g :: after ∧
        g.header.opcode ≠ OP_EVENT ∧ g.header.streamId = p.frame.header.streamId ∧
        ∀ e ∈ before ++ after, e.header.opcode = OP_EVENT)
  forwarded : ∀ c p, s.connection = some c → s.awaiting = some p →
    (handleFrame p.writer c p.frame p.replies).toSource ≠ []

/-! ## The steps of a session -/

section Steps

variable {s s' : Session}

theorem finish_answered {f : Frame} {r : Handling} {response : List UInt8}
    (h : r.ending = .answered response) :
    s.finish f r =
      { s with connection := some r.connection, answered := s.answered ++ [(f, response)] } := by
  rw [Session.finish, h]

theorem finish_ended {f : Frame} {r : Handling} (h : ∀ response, r.ending ≠ .answered response) :
    s.finish f r = { s with connection := none } := by
  unfold Session.finish
  split
  next response hending => exact absurd hending (h response)
  · rfl

/-- The driver sessions' answers, as a request finds them. -/
abbrev SessionAction.replies (src tgt : Outcome) (id : String) : Replies :=
  { source := src, target := tgt, id := id, forwarded := none }

theorem sessionStep_request {f : Frame} {src tgt : Outcome} {id : String}
    (h : sessionStep s (.request f src tgt id) = some s') :
    ∃ c, s.connection = some c ∧ s.awaiting = none ∧
      (((handleFrame s.writer c f (SessionAction.replies src tgt id)).toSource = [] ∧
        s' = { s with
          writer := (handleFrame s.writer c f (SessionAction.replies src tgt id)).writer }.finish f
            (handleFrame s.writer c f (SessionAction.replies src tgt id))) ∨
      ((handleFrame s.writer c f (SessionAction.replies src tgt id)).toSource ≠ [] ∧
        s' = { s with
          writer := (handleFrame s.writer c f (SessionAction.replies src tgt id)).writer
          awaiting := some
            { frame := f, writer := s.writer, replies := SessionAction.replies src tgt id }
          toAnswer := s.toAnswer ++ [f]
          registered := s.registered || f.header.opcode == OP_REGISTER })) := by
  simp only [sessionStep] at h
  split at h
  next c hconn hawait =>
    refine ⟨c, hconn, hawait, ?_⟩
    split at h
    next hnil => exact Or.inl ⟨hnil, (Option.some.inj h).symm⟩
    next hne => exact Or.inr ⟨hne, (Option.some.inj h).symm⟩
  · simp at h

theorem sessionStep_respond {g : Frame} (h : sessionStep s (.respond g) = some s') :
    ∃ f rest, s.toAnswer = f :: rest ∧ g.header.streamId = f.header.streamId ∧
      g.header.opcode ≠ OP_EVENT ∧
      s' = { s with toAnswer := rest, unread := s.unread ++ [g] } := by
  simp only [sessionStep] at h
  split at h
  next f rest hto =>
    simp only [Option.ite_none_right_eq_some, Option.some.injEq] at h
    exact ⟨f, rest, hto, h.1.1, h.1.2, h.2.symm⟩
  · simp at h

theorem sessionStep_event {g : Frame} (h : sessionStep s (.event g) = some s') :
    g.header.opcode = OP_EVENT ∧ s' = { s with unread := s.unread ++ [g] } := by
  simp only [sessionStep, Option.ite_none_right_eq_some, Option.some.injEq] at h
  exact ⟨h.1.2.1, h.2.symm⟩

theorem sessionStep_read (h : sessionStep s .read = some s') :
    ∃ c p g rest, s.connection = some c ∧ s.awaiting = some p ∧ s.unread = g :: rest ∧
      s' = { s with awaiting := none, unread := rest }.finish p.frame
        (handleFrame p.writer c p.frame { p.replies with forwarded := some g.bytes }) := by
  simp only [sessionStep] at h
  split at h
  next c p g rest hconn hawait hunread =>
    exact ⟨c, p, g, rest, hconn, hawait, hunread, (Option.some.inj h).symm⟩
  · simp at h

/-- A step that finishes no request serves none badly. -/
theorem served_of_answered_eq {a : SessionAction} (h : s'.answered = s.answered) :
    Served s a s' := by
  intro f response hanswered
  rw [h] at hanswered
  have hlen := congrArg List.length hanswered
  simp at hlen

/-! ## Keeping in step -/

/-- The answer to the request that is waiting. -/
theorem Aligned.respond (hs : Aligned s) {g : Frame} (h : sessionStep s (.respond g) = some s') :
    Aligned s' := by
  obtain ⟨f, rest, hto, hstream, hop, rfl⟩ := sessionStep_respond h
  refine ⟨?_, ?_, hs.forwarded⟩
  · intro c hc ha
    rw [(hs.idle c hc ha).1] at hto
    exact absurd hto (by simp)
  · intro c p hc ha
    right
    -- the request has one response, and it has just arrived behind the EVENTs
    rcases hs.waiting c p hc ha with ⟨hone, hevents⟩ | ⟨hnil, _⟩
    · rw [hone] at hto
      obtain ⟨rfl, rfl⟩ := List.cons.inj hto
      refine ⟨rfl, s.unread, g, [], rfl, hop, hstream, ?_⟩
      rw [List.append_nil]
      exact hevents
    · rw [hnil] at hto
      exact absurd hto (by simp)

/-- EVENTs may be anywhere. -/
theorem Aligned.event (hs : Aligned s) {g : Frame} (h : sessionStep s (.event g) = some s') :
    Aligned s' := by
  obtain ⟨hop, rfl⟩ := sessionStep_event h
  have hmore : (∀ e ∈ s.unread, e.header.opcode = OP_EVENT) →
      ∀ e ∈ s.unread ++ [g], e.header.opcode = OP_EVENT := by
    intro hevents e he
    rcases List.mem_append.mp he with he | he
    · exact hevents e he
    · rw [List.mem_singleton.mp he]
      exact hop
  refine ⟨?_, ?_, hs.forwarded⟩
  · intro c hc ha
    obtain ⟨hto, hevents⟩ := hs.idle c hc ha
    exact ⟨hto, hmore hevents⟩
  · intro c p hc ha
    rcases hs.waiting c p hc ha with ⟨hone, hevents⟩ | ⟨hnil, before, e, after, hunread, hne, hid, hrest⟩
    · exact Or.inl ⟨hone, hmore hevents⟩
    · -- the response is already on the socket, and the EVENT comes behind it
      refine Or.inr ⟨hnil, before, e, after ++ [g], ?_, hne, hid, ?_⟩
      · show s.unread ++ [g] = _
        rw [hunread, List.append_assoc, List.cons_append]
      · intro e' he'
        rw [← List.append_assoc] at he'
        rcases List.mem_append.mp he' with he' | he'
        · exact hrest e' he'
        · rw [List.mem_singleton.mp he']
          exact hop

/-- A session between two requests, whatever else changes. -/
theorem aligned_of_idle (hawait : s.awaiting = none)
    (hidle : ∀ c, s.connection = some c →
      s.toAnswer = [] ∧ ∀ g ∈ s.unread, g.header.opcode = OP_EVENT) : Aligned s where
  idle := fun c hc _ => hidle c hc
  waiting := by
    intro c p _ hp
    rw [hawait] at hp
    exact absurd hp (by simp)
  forwarded := by
    intro c p _ hp
    rw [hawait] at hp
    exact absurd hp (by simp)

/-- The end of the loop body. -/
theorem aligned_finish {f : Frame} {r : Handling} (hawait : s.awaiting = none)
    (hto : s.toAnswer = []) (hunread : ∀ g ∈ s.unread, g.header.opcode = OP_EVENT) :
    Aligned (s.finish f r) := by
  by_cases h : ∃ response, r.ending = .answered response
  · obtain ⟨response, hending⟩ := h
    rw [finish_answered hending]
    exact aligned_of_idle hawait fun _ _ => ⟨hto, hunread⟩
  · rw [finish_ended (not_exists.mp h)]
    exact aligned_of_idle hawait (by simp)

theorem Aligned.request (hs : Aligned s) {f : Frame} {src tgt : Outcome} {id : String}
    (h : sessionStep s (.request f src tgt id) = some s') : Aligned s' := by
  obtain ⟨c, hconn, hawait, ⟨_, rfl⟩ | ⟨hne, rfl⟩⟩ := sessionStep_request h
  · obtain ⟨hto, hunread⟩ := hs.idle c hconn hawait
    exact aligned_finish hawait hto hunread
  · obtain ⟨hto, hunread⟩ := hs.idle c hconn hawait
    -- forwarded: the source owes the response to this request and no other
    refine ⟨by simp, ?_, ?_⟩
    · intro c' p _ hp
      obtain rfl := Option.some.inj hp
      left
      exact ⟨by rw [hto]; rfl, hunread⟩
    · intro c' p hc' hp
      obtain rfl := Option.some.inj hp
      rw [hconn, Option.some.injEq] at hc'
      exact hc' ▸ hne

/-- A frame that is no EVENT and next on the socket is the awaited response, and only
EVENTs come after it. -/
theorem Aligned.head_of_read (hs : Aligned s) {c : Connection} {p : Forwarded} {g : Frame}
    {rest : List Frame} (hconn : s.connection = some c) (hawait : s.awaiting = some p)
    (hunread : s.unread = g :: rest) (hg : g.header.opcode ≠ OP_EVENT) :
    s.toAnswer = [] ∧ g.header.streamId = p.frame.header.streamId ∧
      ∀ e ∈ rest, e.header.opcode = OP_EVENT := by
  rcases hs.waiting c p hconn hawait with ⟨_, hevents⟩ | ⟨hnil, before, e, after, heq, _, hid, hrest⟩
  · exact absurd (hevents g (by rw [hunread]; exact List.mem_cons_self)) hg
  · rw [hunread] at heq
    cases before with
    | nil =>
      obtain ⟨rfl, rfl⟩ := List.cons.inj heq
      exact ⟨hnil, hid, fun e he => hrest e (List.mem_append_right _ he)⟩
    | cons b before =>
      obtain ⟨rfl, _⟩ := List.cons.inj heq
      exact absurd (hrest g (by simp)) hg

theorem Aligned.read (hs : Aligned s) (hread : ReadsNoEvent s .read s')
    (h : sessionStep s .read = some s') : Aligned s' := by
  obtain ⟨c, p, g, rest, hconn, hawait, hunread, rfl⟩ := sessionStep_read h
  obtain ⟨hto, _, hrest⟩ := hs.head_of_read hconn hawait hunread (hread rfl g rest hunread)
  exact aligned_finish rfl hto hrest

/-- Every step keeps the sockets in step, as long as no EVENT is read for a response. -/
theorem Aligned.step {a : SessionAction} (hs : Aligned s) (ha : ReadsNoEvent s a s')
    (h : sessionStep s a = some s') : Aligned s' := by
  cases a with
  | request f src tgt id => exact hs.request h
  | respond g => exact hs.respond h
  | event g => exact hs.event h
  | read => exact hs.read ha h
  | hangUp =>
    obtain rfl := Option.some.inj h
    exact ⟨by simp, by simp, by simp⟩
  | others m =>
    obtain rfl := Option.some.inj h
    exact ⟨hs.idle, hs.waiting, hs.forwarded⟩

/-! ## One step: served or not -/

theorem not_ownResponse_event {f g : Frame} (hg : g.header.opcode = OP_EVENT) :
    ¬ OwnResponse f g.bytes := by
  intro hown
  obtain ⟨g', hbytes, hop, _⟩ := hown
  obtain ⟨hheader, _⟩ := List.append_inj hbytes rfl
  rw [← toBytes_injective hheader] at hop
  exact hop hg

/-- A request that is answered without the source is served. -/
theorem served_request (hs : Aligned s) {f : Frame} {src tgt : Outcome} {id : String}
    (h : sessionStep s (.request f src tgt id) = some s') :
    Served s (.request f src tgt id) s' := by
  obtain ⟨c, hconn, hawait, ⟨hnil, rfl⟩ | ⟨_, rfl⟩⟩ := sessionStep_request h
  · obtain ⟨hto, hunread⟩ := hs.idle c hconn hawait
    by_cases hanswer : ∃ response, (handleFrame s.writer c f
        (SessionAction.replies src tgt id)).ending = .answered response
    · obtain ⟨response, hending⟩ := hanswer
      rw [finish_answered hending]
      intro f' response' hlog
      obtain ⟨rfl, rfl⟩ := Prod.mk.inj (List.singleton_inj.mp (List.append_cancel_left hlog))
      rw [void_of_toSource_nil hnil hending]
      have hop : (voidFrame f.header.streamId).header.opcode ≠ OP_EVENT := by
        show OP_RESULT ≠ OP_EVENT
        decide
      exact ⟨⟨voidFrame f.header.streamId, rfl, hop, rfl⟩, hto, hunread⟩
    · rw [finish_ended (not_exists.mp hanswer)]
      exact served_of_answered_eq rfl
  · exact served_of_answered_eq rfl

/-- The read for a forwarded request serves it exactly when it reads no EVENT. -/
theorem served_read_iff (hs : Aligned s) (h : sessionStep s .read = some s') :
    Served s .read s' ↔ ReadsNoEvent s .read s' := by
  obtain ⟨c, p, g, rest, hconn, hawait, hunread, rfl⟩ := sessionStep_read h
  have hforward : (handleFrame p.writer c p.frame
      { p.replies with forwarded := some g.bytes }).toSource ≠ [] := by
    rw [Handling.toSource, effects_forwarded]
    exact hs.forwarded c p hconn hawait
  obtain ⟨_, hanswer, hreply⟩ := forwarded_of_toSource hforward
  constructor
  · intro hserved _ g' rest' hunread' hg'
    rw [hunread] at hunread'
    obtain ⟨rfl, rfl⟩ := List.cons.inj hunread'
    -- the EVENT goes to the client as the answer
    have hending : (handleFrame p.writer c p.frame
        { p.replies with forwarded := some g.bytes }).ending = .answered g.bytes := by
      rcases hreply g.bytes rfl with hending | ⟨_, hub⟩
      · exact hending
      · rw [trackedId_of_opcode (by rw [hg']; decide)] at hub
        exact absurd hub (by simp)
    rw [finish_answered hending] at hserved
    exact not_ownResponse_event hg' (hserved p.frame g.bytes rfl).1
  · intro hread
    have hg := hread rfl g rest hunread
    obtain ⟨hto, hid, hrest⟩ := hs.head_of_read hconn hawait hunread hg
    by_cases hany : ∃ response, (handleFrame p.writer c p.frame
        { p.replies with forwarded := some g.bytes }).ending = .answered response
    · obtain ⟨response, hending⟩ := hany
      have hresponse := Option.some.inj (hanswer response hending)
      rw [finish_answered hending]
      intro f' response' hlog
      obtain ⟨rfl, rfl⟩ := Prod.mk.inj (List.singleton_inj.mp (List.append_cancel_left hlog))
      exact ⟨⟨g, hresponse.symm, hg, hid⟩, hto, hrest⟩
    · rw [finish_ended (not_exists.mp hany)]
      exact served_of_answered_eq rfl

theorem served_iff {a : SessionAction} (hs : Aligned s) (h : sessionStep s a = some s') :
    Served s a s' ↔ ReadsNoEvent s a s' := by
  cases a with
  | request f src tgt id => exact iff_of_true (served_request hs h) (by simp [ReadsNoEvent])
  | respond g =>
    obtain ⟨_, _, _, _, _, rfl⟩ := sessionStep_respond h
    exact iff_of_true (served_of_answered_eq rfl) (by simp [ReadsNoEvent])
  | event g =>
    obtain ⟨_, rfl⟩ := sessionStep_event h
    exact iff_of_true (served_of_answered_eq rfl) (by simp [ReadsNoEvent])
  | read => exact served_read_iff hs h
  | hangUp =>
    obtain rfl := Option.some.inj h
    exact iff_of_true (served_of_answered_eq rfl) (by simp [ReadsNoEvent])
  | others m =>
    obtain rfl := Option.some.inj h
    exact iff_of_true (served_of_answered_eq rfl) (by simp [ReadsNoEvent])

end Steps

/-! ## The result -/

theorem aligned_start (m : Writer) : Aligned (Session.start m) :=
  aligned_of_idle rfl fun _ _ => ⟨rfl, by simp [Session.start]⟩

/-- In every run of a session: every request is answered with its own response, and leaves
no response behind, exactly when no EVENT is ahead of a response that the proxy reads. -/
theorem own_response_iff (m : Writer) (h : List SessionAction) (s : Session)
    (hrun : run sessionStep (.start m) h = some s) :
    Along sessionStep (.start m) Served h ↔ Along sessionStep (.start m) ReadsNoEvent h := by
  refine along_congr (aligned_start m) ?_ ?_ h s hrun
  · intro s a s' hs ha hstep
    exact hs.step ha hstep
  · intro s a s' hs hstep
    exact served_iff hs hstep

/-- A REGISTER, and the source's READY. -/
def registerFrame : Frame := requestFrame OP_REGISTER [] (by decide)

def readyFrame : Frame where
  header := .response OP_READY 0 0
  body := []
  complete := rfl

/-- A pushed EVENT. -/
def eventFrame : Frame where
  header := .response OP_EVENT (-1) 0
  body := []
  complete := rfl

/-- A read on stream 1, and the source's ROWS. -/
def selectFrame : Frame where
  header := { version := 4, streamId := 1, opcode := OP_QUERY, bodyLength := 22 }
  body := longString (ascii "SELECT k FROM ks.t")
  complete := rfl

def rowsFrame : Frame where
  header := .response OP_RESULT 1 4
  body := [0, 0, 0, 2]
  complete := rfl

/-- A client that registers for events and then reads; the EVENT comes first. -/
def registerThenSelect : List SessionAction :=
  [.request registerFrame .ok .ok "", .respond readyFrame, .read, .event eventFrame,
    .request selectFrame .ok .ok "", .respond rowsFrame, .read]

/-- The REGISTER on its own. -/
def registerOnly : List SessionAction :=
  [.request registerFrame .ok .ok "", .respond readyFrame, .read]

theorem own_response_iff_register :
    Along sessionStep (.start { filter := none }) Served registerOnly ↔
      Along sessionStep (.start { filter := none }) ReadsNoEvent registerOnly :=
  own_response_iff { filter := none } registerOnly _ rfl

/-- The SELECT of stream 1 is answered with the EVENT of stream -1, and its own response
stays on the socket for the next request. -/
theorem event_answers_request :
    ¬ ∀ (m : Writer) (h : List SessionAction) (s : Session),
      run sessionStep (.start m) h = some s → Along sessionStep (.start m) Served h := by
  intro hall
  have hserved := hall { filter := none } registerThenSelect _ rfl
    [.request registerFrame .ok .ok "", .respond readyFrame, .read, .event eventFrame,
      .request selectFrame .ok .ok "", .respond rowsFrame] .read [] _ _ rfl rfl rfl
  exact not_ownResponse_event rfl (hserved selectFrame eventFrame.bytes rfl).1

end DualWriter
end ScyllaClusterSync
