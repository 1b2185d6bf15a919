import ScyllaClusterSync.DualWriter.CqlStreamTheorems

/-!
# When an intercepted write is answered as the source would have answered it

A write that the driver session executes is answered with a VOID result of the proxy's
own, whatever the statement was. The source answers a conditional statement with ROWS, and
one it rejects with ERROR, so the client can tell the two apart exactly when the driver's
execute succeeded on such a statement: `interception_invisible_iff`.
-/

namespace ScyllaClusterSync
namespace DualWriter

open Lib Svckit

/-- What the source answers to the frame `f` that holds the statement `query`, by whether
it accepts it. `conditional` tells which statements it reads as conditional ones: their
result is ROWS, with the columns of `[applied]` after the kind. -/
structure SourceAnswers (conditional : String → Bool) (f : Frame) (query : String)
    (verdict : Outcome) (answer : Frame) : Prop where
  streamId : answer.header.streamId = f.header.streamId
  void : verdict = .ok → conditional query = false →
    answer.header.opcode = OP_RESULT ∧ answer.body = [0, 0, 0, 1]
  rows : verdict = .ok → conditional query = true →
    answer.header.opcode = OP_RESULT ∧ ∃ columns, answer.body = [0, 0, 0, 2] ++ columns
  error : verdict ≠ .ok → answer.header.opcode = OP_ERROR

/-- The frame has the opcode, the stream id and the body of `answer`. -/
def SameAnswer (response : List UInt8) (answer : Frame) : Prop :=
  ∃ header : FrameHeader, header.opcode = answer.header.opcode ∧
    header.streamId = answer.header.streamId ∧ response = header.toBytes ++ answer.body

/-- Whatever is sent to the client is the answer of the source. -/
def AnsweredAsSource (r : Handling) (answer : Frame) : Prop :=
  ∀ response, r.ending = .answered response → SameAnswer response answer

theorem sameAnswer_self (answer : Frame) :
    SameAnswer (answer.header.toBytes ++ answer.body) answer :=
  ⟨answer.header, rfl, rfl, rfl⟩

/-- The proxy's VOID result is the answer of the source exactly when that is a VOID result
with the same stream id. -/
theorem sameAnswer_void {streamId : Int16} {answer : Frame} :
    SameAnswer (buildVoidResult streamId) answer ↔
      answer.header.opcode = OP_RESULT ∧ answer.header.streamId = streamId ∧
        answer.body = [0, 0, 0, 1] := by
  constructor
  · intro hsame
    obtain ⟨header, hop, hstream, hbytes⟩ := hsame
    have hsplit : (FrameHeader.response OP_RESULT streamId 4).toBytes ++ [0, 0, 0, 1] =
        header.toBytes ++ answer.body := hbytes
    obtain ⟨hhead, hbody⟩ := List.append_inj hsplit rfl
    have hheader := toBytes_injective hhead
    rw [← hop, ← hstream, ← hheader]
    exact ⟨rfl, rfl, hbody.symm⟩
  · intro hvoid
    obtain ⟨hop, hstream, hbody⟩ := hvoid
    refine ⟨.response OP_RESULT streamId 4, hop.symm, hstream.symm, ?_⟩
    rw [hbody]
    rfl

/-- Let the source's reply to a forwarded frame be its answer to it. Then the client sees the
source's answer to an intercepted write exactly when the source accepts the frame and its
statement is unconditional, or the driver's own execute on the source fails. -/
theorem interception_invisible_iff (conditional : String → Bool) (m : Writer) (c : Connection)
    (f : Frame) (env : Replies) (query : String) (verdict : Outcome) (answer : Frame)
    (hquery : Intercepted c f query) (hsource : SourceAnswers conditional f query verdict answer)
    (hforwarded : ∀ response, env.forwarded = some response →
      response = answer.header.toBytes ++ answer.body) :
    AnsweredAsSource (handleFrame m c f env) answer ↔
      (verdict = .ok ∧ conditional query = false) ∨ env.source ≠ .ok := by
  rw [handleFrame_of_intercepted hquery]
  cases hsrc : env.source with
  | ok =>
    have hanswer : AnsweredAsSource (interceptWrite m c f env query) answer ↔
        SameAnswer (buildVoidResult f.header.streamId) answer := by
      rw [interceptWrite_ok hsrc]
      constructor
      · intro hall
        exact hall _ rfl
      · intro hsame response hending
        rw [← Ending.answered.inj hending]
        exact hsame
    rw [hanswer, sameAnswer_void]
    cases hverdict : verdict with
    | syncError e =>
      -- the driver's session has got through what the client's would not have
      have hop := hsource.error (by simp [hverdict])
      simp [hop, OP_ERROR, OP_RESULT]
    | ok =>
      cases hcond : conditional query with
      | false =>
        obtain ⟨hop, hbody⟩ := hsource.void hverdict hcond
        simp [hop, hbody, hsource.streamId]
      | true =>
        obtain ⟨_, columns, hbody⟩ := hsource.rows hverdict hcond
        simp [hbody]
  | syncError e =>
    -- the frame itself is forwarded, so the answer is the source's own
    have hfallback : AnsweredAsSource (interceptWrite m c f env query) answer := by
      rw [interceptWrite_syncError hsrc]
      intro response hending
      rw [hforwarded response ((ending_forwardAndProxy ..).mp hending)]
      exact sameAnswer_self answer
    simp [hfallback]

/-- Statements with an `IF` clause. -/
def hasIf (query : String) : Bool :=
  (findSubstr (query.toList.map Char.toUpper) " IF ".toList).isSome

/-- The source's VOID result. -/
def voidAnswer : Frame := responseFrame OP_RESULT 0 [0, 0, 0, 1] (by decide)

theorem sourceAnswers_insert :
    SourceAnswers hasIf insertFrame "INSERT INTO ks.t (k) VALUES (1)" .ok voidAnswer where
  streamId := rfl
  void := fun _ _ => ⟨rfl, rfl⟩
  rows := fun _ hcond => absurd hcond (by decide)
  error := fun h => absurd rfl h

theorem intercepted_insertFrame :
    Intercepted {} insertFrame "INSERT INTO ks.t (k) VALUES (1)" :=
  .query rfl (by decide) (by decide)

theorem interception_invisible_iff_insert :
    AnsweredAsSource (handleFrame { filter := none } {} insertFrame ⟨.ok, .ok, "a", none⟩)
        voidAnswer ↔
      (Outcome.ok = .ok ∧ hasIf "INSERT INTO ks.t (k) VALUES (1)" = false) ∨ Outcome.ok ≠ .ok :=
  interception_invisible_iff hasIf { filter := none } {} insertFrame ⟨.ok, .ok, "a", none⟩
    "INSERT INTO ks.t (k) VALUES (1)" .ok voidAnswer intercepted_insertFrame sourceAnswers_insert
    (by simp)

/-- A QUERY with a conditional INSERT. -/
def conditionalFrame : Frame :=
  requestFrame OP_QUERY
    (longString (ascii "INSERT INTO ks.t (k) VALUES (1) IF NOT EXISTS") ++ [0, 1, 0]) (by decide)

/-- The source's ROWS result: one column `[applied]`, one row, the row is there already. -/
def notApplied : Frame :=
  responseFrame OP_RESULT 0
    ([0, 0, 0, 2] ++ [0, 0, 0, 1, 0, 0, 0, 1] ++ shortBytes (ascii "ks") ++ shortBytes (ascii "t") ++
      shortBytes (ascii "[applied]") ++ [0, 4] ++ [0, 0, 0, 1] ++ [0, 0, 0, 1, 0]) (by decide)

/-- The client of a conditional INSERT that was not applied reads a plain success. -/
theorem conditional_write_answered_void :
    ¬ ∀ (m : Writer) (c : Connection) (f : Frame) (env : Replies) (query : String)
        (verdict : Outcome) (answer : Frame),
      Intercepted c f query → SourceAnswers hasIf f query verdict answer →
      (∀ response, env.forwarded = some response →
        response = answer.header.toBytes ++ answer.body) →
      AnsweredAsSource (handleFrame m c f env) answer := by
  intro hall
  have hquery : Intercepted {} conditionalFrame "INSERT INTO ks.t (k) VALUES (1) IF NOT EXISTS" :=
    .query rfl (by decide) (by decide)
  have hsource : SourceAnswers hasIf conditionalFrame
      "INSERT INTO ks.t (k) VALUES (1) IF NOT EXISTS" .ok notApplied :=
    ⟨rfl, fun _ hcond => absurd hcond (by decide), fun _ _ => ⟨rfl, _, rfl⟩, fun h => absurd rfl h⟩
  have hanswered := hall { filter := none } {} conditionalFrame ⟨.ok, .ok, "a", none⟩
    "INSERT INTO ks.t (k) VALUES (1) IF NOT EXISTS" .ok notApplied hquery hsource (by simp)
  rw [handleFrame_of_intercepted hquery, interceptWrite_ok rfl] at hanswered
  have hvoid := sameAnswer_void.mp (hanswered _ rfl)
  exact absurd hvoid.2.2 (by decide)

end DualWriter
end ScyllaClusterSync
