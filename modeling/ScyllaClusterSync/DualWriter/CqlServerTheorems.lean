import ScyllaClusterSync.DualWriter.CqlServer
import ScyllaClusterSync.DualWriter.WriteTheorems

/-!
# What the proxy's answers promise

* an acknowledged write QUERY is on the target or queued, unless its answer comes from the
  source-only fallback (`acknowledged_query_shadowed`);
* an intercepted EXECUTE asks for the prepared text and nothing else
  (`execute_loses_bound_values`).
-/

namespace ScyllaClusterSync
namespace DualWriter

open Lib Svckit

/-! ## `write` by the outcomes of its two executes -/

section Write

variable {m : Writer} {id cql keyspace : String} {tgt : Outcome}

/-- A table that is not blacklisted goes to `write_dual_async`, whatever the gate counted. -/
theorem write_of_not_blacklisted (id cql : String) (src tgt : Outcome)
    (hb : ¬ m.tableBlacklisted keyspace) :
    ∃ m₁ : Writer, m₁.failedWrites = m.failedWrites ∧
      m.write id cql keyspace src tgt =
        ((m₁.writeDualAsync id cql keyspace src tgt).1,
          (m₁.writeDualAsync id cql keyspace src tgt).2.1.countResult
            (m₁.writeDualAsync id cql keyspace src tgt).1,
          (m₁.writeDualAsync id cql keyspace src tgt).2.2) := by
  have hdecision : (m.shouldSkipTable keyspace).1 ≠ .skipTable := by
    intro hskip
    exact hb (Writer.tableBlacklisted_of_shouldSkipTable.mp hskip)
  have hskip := shouldSkipTable_countTotal m keyspace
  unfold Writer.write
  cases he : m.countTotal.filterEnabled with
  | false => exact ⟨m.countTotal, rfl, by simp [he]⟩
  | true =>
    refine ⟨(m.shouldSkipTable keyspace).2.countTotal, by simp, ?_⟩
    -- the other pattern of the match is the one that is left
    simp only [he, if_true, hskip]

/-- The source's outcome is the result's `source_ok`, on either path. -/
theorem sourceOk_write (m : Writer) (id cql keyspace : String) (src tgt : Outcome) :
    (m.write id cql keyspace src tgt).1.sourceOk = (src == .ok) := by
  have hdual : ∀ m₁ : Writer,
      (m₁.writeDualAsync id cql keyspace src tgt).1.sourceOk = (src == .ok) := by
    intro m₁
    cases src with
    | syncError e => rfl
    | ok => cases tgt <;> rfl
  have honly : (Writer.writeSourceOnly src).sourceOk = (src == .ok) := by
    cases src <;> rfl
  unfold Writer.write
  simp only
  split
  · split
    · exact honly
    · exact hdual _
  · exact hdual _

/-- The source accepts: the target has the statement, or the queue has it. -/
theorem write_shadowed (hb : ¬ m.tableBlacklisted keyspace) (hid : id ∉ m.failedWrites) :
    .target cql .ok ∈ (m.write id cql keyspace .ok tgt).2.2 ∨
      ∃ fw, (m.write id cql keyspace .ok tgt).2.1.failedWrites.lookup id = some fw ∧
        fw.cql = cql := by
  obtain ⟨m₁, hqueue, hwrite⟩ := write_of_not_blacklisted id cql .ok tgt hb
  rw [hwrite]
  cases tgt with
  | ok =>
    left
    simp [Writer.writeDualAsync]
  | syncError e =>
    right
    refine ⟨⟨id, cql, keyspace, e, 1⟩, ?_, rfl⟩
    have hnone : m₁.failedWrites.lookup id = none := by
      rw [hqueue]
      exact AList.lookup_eq_none.mpr hid
    simp only [Writer.failedWrites_countResult]
    exact KVMap.lookup_emplace_of_notMem hnone

/-- The source refuses: nothing else is attempted. -/
theorem write_refused {e : String} (hb : ¬ m.tableBlacklisted keyspace) :
    (m.write id cql keyspace (.syncError e) tgt).2.2 = [.source cql (.syncError e)] := by
  obtain ⟨m₁, _, hwrite⟩ := write_of_not_blacklisted id cql (.syncError e) tgt hb
  rw [hwrite]
  rfl

end Write

/-! ## The write branch by the source's outcome -/

section Intercept

variable {m : Writer} {c : Connection} {f : Frame} {env : Replies} {query : String}

/-- What `write` returns and asks for when the write branch calls it. -/
abbrev interceptedWrite (m : Writer) (env : Replies) (query : String) :
    WriteResult × Writer × List ClusterCall :=
  m.write env.id query (extractTableTarget query) env.source env.target

theorem interceptWrite_ok (hsrc : env.source = .ok) :
    interceptWrite m c f env query =
      { writer := (interceptedWrite m env query).2.1, connection := c
        effects := .write query (extractTableTarget query) ::
          (interceptedWrite m env query).2.2.map .cluster
        ending := .answered (buildVoidResult f.header.streamId) } := by
  have hok := sourceOk_write m env.id query (extractTableTarget query) env.source env.target
  rw [hsrc, beq_self_eq_true] at hok
  unfold interceptWrite interceptedWrite
  simp only [hsrc, hok, if_true]

theorem interceptWrite_syncError {e : String} (hsrc : env.source = .syncError e) :
    interceptWrite m c f env query =
      forwardAndProxy (interceptedWrite m env query).2.1 c f env
        (.write query (extractTableTarget query) ::
          (interceptedWrite m env query).2.2.map .cluster) := by
  have hok := sourceOk_write m env.id query (extractTableTarget query) env.source env.target
  rw [hsrc, show ((Outcome.syncError e) == .ok) = false from rfl] at hok
  unfold interceptWrite interceptedWrite
  simp only [hsrc, hok, Bool.false_eq_true, if_false]

/-- Either way the write branch calls `write` first; only the fallback forwards. -/
theorem effects_interceptWrite :
    (interceptWrite m c f env query).effects = .write query (extractTableTarget query) ::
      ((interceptedWrite m env query).2.2.map .cluster ++
        if env.source = .ok then [] else [.forward (f.header.toBytes ++ f.body)]) := by
  cases hsrc : env.source with
  | ok =>
    rw [interceptWrite_ok hsrc]
    simp
  | syncError e =>
    rw [interceptWrite_syncError hsrc]
    simp [forwardAndProxy]

theorem connection_interceptWrite : (interceptWrite m c f env query).connection = c := by
  cases hsrc : env.source with
  | ok => rw [interceptWrite_ok hsrc]
  | syncError e => rw [interceptWrite_syncError hsrc, forwardAndProxy]

/-- A forwarded frame is answered with the source's reply, if there is one. -/
theorem ending_forwardAndProxy (m : Writer) (c : Connection) (f : Frame) (env : Replies)
    (effects : List Effect) (response : List UInt8) :
    (forwardAndProxy m c f env effects).ending = .answered response ↔
      env.forwarded = some response := by
  unfold forwardAndProxy
  cases env.forwarded <;> simp

end Intercept

/-! ## What one frame can do -/

/-- The frame is treated as a write of `query`: a QUERY with its text, or an EXECUTE of a
tracked statement that is a write. -/
inductive Intercepted (c : Connection) (f : Frame) (query : String) : Prop where
  | query (hop : f.header.opcode = OP_QUERY) (hparse : parseLongString f.body 0 = some query)
      (hwrite : isWriteQuery query)
  | execute (hop : f.header.opcode = OP_EXECUTE) (id : List UInt8)
      (hid : statementId f.body = some id) (htracked : c.preparedStmts.lookup id = some ⟨query, true⟩)

/-- The handling of a frame: the write branch, one forward with nothing before it, or an
end of the connection before anything was done. -/
inductive FrameMove (m : Writer) (c : Connection) (f : Frame) (env : Replies) (r : Handling) :
    Prop where
  | intercept (query : String) (hquery : Intercepted c f query)
      (hr : r = interceptWrite m c f env query)
  | forward (hquery : ∀ query, ¬ Intercepted c f query) (hr : r = forwardAndProxy m c f env [])
  | track (id : List UInt8) (short : id.length < 2 ^ 15) (query : String) (response : List UInt8)
      (hop : f.header.opcode = OP_PREPARE) (hforwarded : env.forwarded = some response)
      (htracked : trackedId response = .track id short)
      (hr : r = { forwardAndProxy m c f env [] with connection := c.track id short query })
  | reversed (response : List UInt8) (hop : f.header.opcode = OP_PREPARE)
      (hforwarded : env.forwarded = some response)
      (htracked : trackedId response = .undefinedBehaviour)
      (hr : r = { forwardAndProxy m c f env [] with ending := .undefinedBehaviour })
  | fail (ending : Ending) (hquery : ∀ query, ¬ Intercepted c f query)
      (hending : ∀ response, ending ≠ .answered response)
      (hr : r = { writer := m, connection := c, effects := [], ending := ending })

section Moves

variable {m : Writer} {c : Connection} {f : Frame} {env : Replies} {query : String}

theorem not_intercepted_of_opcode (hquery : f.header.opcode ≠ OP_QUERY)
    (hexecute : f.header.opcode ≠ OP_EXECUTE) (query : String) : ¬ Intercepted c f query := by
  intro h
  cases h with
  | query hop _ _ => exact hquery hop
  | execute hop _ _ _ => exact hexecute hop

theorem handleQuery_move (hop : f.header.opcode = OP_QUERY) :
    FrameMove m c f env (handleQuery m c f env) := by
  have hexecute : f.header.opcode ≠ OP_EXECUTE := by
    rw [hop]
    decide
  have hinter : ∀ query, Intercepted c f query →
      parseLongString f.body 0 = some query ∧ isWriteQuery query := by
    intro query h
    cases h with
    | query _ hparse hwrite => exact ⟨hparse, hwrite⟩
    | execute hop' _ _ _ => exact absurd hop' hexecute
  unfold handleQuery
  cases hparse : parseLongString f.body 0 with
  | none =>
    refine .fail .closed ?_ (by simp) rfl
    intro query h
    rw [(hinter query h).1] at hparse
    simp at hparse
  | some query =>
    by_cases hwrite : isWriteQuery query
    · -- a write text is intercepted, and any other one is forwarded
      simp only [hwrite, if_true]
      exact .intercept query (.query hop hparse hwrite) rfl
    · simp only [hwrite]
      refine .forward ?_ rfl
      intro query' h
      rw [(hinter query' h).1] at hparse
      exact hwrite (Option.some.inj hparse ▸ (hinter query' h).2)

theorem handlePrepare_move (hop : f.header.opcode = OP_PREPARE) :
    FrameMove m c f env (handlePrepare m c f env) := by
  have hnone : ∀ query, ¬ Intercepted c f query :=
    not_intercepted_of_opcode (by rw [hop]; decide) (by rw [hop]; decide)
  unfold handlePrepare
  cases hparse : parseLongString f.body 0 with
  | none => exact .fail .closed hnone (by simp) rfl
  | some query =>
    cases hforwarded : env.forwarded with
    | none => exact .forward hnone rfl
    | some response =>
      cases htracked : trackedId response with
      | ignore =>
        simp only [htracked]
        exact .forward hnone rfl
      | track id short =>
        simp only [htracked]
        exact .track id short query response hop hforwarded htracked rfl
      | undefinedBehaviour =>
        simp only [htracked]
        exact .reversed response hop hforwarded htracked rfl

theorem handleExecute_move (hop : f.header.opcode = OP_EXECUTE) :
    FrameMove m c f env (handleExecute m c f env) := by
  have hquery : f.header.opcode ≠ OP_QUERY := by
    rw [hop]
    decide
  have hinter : ∀ query, Intercepted c f query → ∃ id, statementId f.body = some id ∧
      c.preparedStmts.lookup id = some ⟨query, true⟩ := by
    intro query h
    cases h with
    | query hop' _ _ => exact absurd hop' hquery
    | execute _ id hid htracked => exact ⟨id, hid, htracked⟩
  unfold handleExecute
  cases hid : statementId f.body with
  -- an id range that ends before it begins
  | none =>
    refine .fail .undefinedBehaviour ?_ (by simp) rfl
    intro query h
    obtain ⟨id, hid', _⟩ := hinter query h
    simp [hid] at hid'
  | some id =>
    cases hlookup : c.preparedStmts.lookup id with
    | none =>
      simp only [hlookup]
      refine .forward ?_ rfl
      intro query h
      obtain ⟨id', hid', htracked⟩ := hinter query h
      obtain rfl := Option.some.inj (hid.symm.trans hid')
      simp [hlookup] at htracked
    | some stmt =>
      cases hwrite : stmt.isWrite with
      | true =>
        simp only [hlookup, hwrite, if_true]
        refine .intercept stmt.query (.execute hop id hid ?_) rfl
        rw [hlookup, ← hwrite]
      | false =>
        -- prepared on this connection, and no write
        simp only [hlookup, hwrite, Bool.false_eq_true, if_false]
        refine .forward ?_ rfl
        intro query h
        obtain ⟨id', hid', htracked⟩ := hinter query h
        obtain rfl := Option.some.inj (hid.symm.trans hid')
        rw [hlookup, Option.some.injEq] at htracked
        simp [htracked] at hwrite

/-- Every frame is handled in one of the five ways. -/
theorem handleFrame_move (m : Writer) (c : Connection) (f : Frame) (env : Replies) :
    FrameMove m c f env (handleFrame m c f env) := by
  unfold handleFrame
  split
  next hop => exact handleQuery_move hop
  next hquery =>
    split
    next hop => exact handlePrepare_move hop
    · split
      next hop => exact handleExecute_move hop
      next hexecute => exact .forward (not_intercepted_of_opcode hquery hexecute) rfl

theorem handleFrame_of_intercepted (h : Intercepted c f query) :
    handleFrame m c f env = interceptWrite m c f env query := by
  cases h with
  | query hop hparse hwrite => simp only [handleFrame, hop, if_true, handleQuery, hparse, hwrite]
  | execute hop id hid htracked =>
    have hquery : ¬ f.header.opcode = OP_QUERY := by
      rw [hop]
      decide
    have hprepare : ¬ f.header.opcode = OP_PREPARE := by
      rw [hop]
      decide
    rw [handleFrame, if_neg hquery, if_neg hprepare, if_pos hop, handleExecute, hid]
    simp only [htracked, if_true]

end Moves

/-! ## An acknowledged write QUERY -/

/-- The client gets a frame that is not an ERROR. -/
def Acknowledged (r : Handling) : Prop :=
  ∃ response, r.ending = .answered response ∧ response.getD 4 0 ≠ OP_ERROR

/-- The statement has been executed on the target, or is in `failed_writes_`. -/
def Shadowed (r : Handling) (id query : String) : Prop :=
  .cluster (.target query .ok) ∈ r.effects ∨
    ∃ fw, r.writer.failedWrites.lookup id = some fw ∧ fw.cql = query

/-- The source-only fallback: the driver session's source execute failed, and the answer
is the source's own reply to the forwarded frame. -/
def FellBack (r : Handling) (f : Frame) (env : Replies) (query : String) : Prop :=
  (∃ e, .cluster (.source query (.syncError e)) ∈ r.effects) ∧
    .forward (f.header.toBytes ++ f.body) ∈ r.effects ∧
    ∃ response, env.forwarded = some response ∧ r.ending = .answered response

theorem acknowledged_query_shadowed (m : Writer) (c : Connection) (f : Frame) (env : Replies)
    (query : String) (hop : f.header.opcode = OP_QUERY)
    (hquery : parseLongString f.body 0 = some query) (hwrite : isWriteQuery query)
    (hallowed : ¬ m.tableBlacklisted (extractTableTarget query)) (hid : env.id ∉ m.failedWrites)
    (hack : Acknowledged (handleFrame m c f env)) :
    Shadowed (handleFrame m c f env) env.id query ∨
      FellBack (handleFrame m c f env) f env query := by
  rw [handleFrame_of_intercepted (.query hop hquery hwrite)] at hack ⊢
  cases hsrc : env.source with
  | ok =>
    left
    -- the source has accepted: `write` has shadowed the statement or queued it
    have hshadow : .target query .ok ∈ (interceptedWrite m env query).2.2 ∨
        ∃ fw, (interceptedWrite m env query).2.1.failedWrites.lookup env.id = some fw ∧
          fw.cql = query := by
      rw [interceptedWrite, hsrc]
      exact write_shadowed hallowed hid
    rw [interceptWrite_ok hsrc]
    rcases hshadow with hcall | hqueued
    · exact Or.inl (List.mem_cons_of_mem _ (List.mem_map_of_mem hcall))
    · exact Or.inr hqueued
  | syncError e =>
    right
    -- the source has refused: nothing but the refusal has happened when the frame is proxied
    have hcalls : (interceptedWrite m env query).2.2 = [.source query (.syncError e)] := by
      rw [interceptedWrite, hsrc]
      exact write_refused hallowed
    rw [interceptWrite_syncError hsrc, hcalls] at hack ⊢
    obtain ⟨response, hending, _⟩ := hack
    exact ⟨⟨e, by simp [forwardAndProxy]⟩, by simp [forwardAndProxy], response,
      (ending_forwardAndProxy ..).mp hending, hending⟩

theorem length_eq_toInt_ofNat {body : List UInt8} (h : body.length < 2 ^ 31) :
    (body.length : ℤ) = (Int32.ofNat body.length).toInt :=
  (Int32.toInt_ofNat_of_lt h).symm

/-- A request frame with this opcode and body. -/
def requestFrame (opcode : UInt8) (body : List UInt8) (h : body.length < 2 ^ 31) : Frame where
  header := { version := 4, opcode := opcode, bodyLength := .ofNat body.length }
  body := body
  complete := length_eq_toInt_ofNat h

/-- The bytes of an ASCII text. -/
def ascii (text : String) : List UInt8 := text.toList.map fun c => .ofNat c.toNat

/-- A QUERY that inserts a row. -/
def insertFrame : Frame :=
  requestFrame OP_QUERY (longString (ascii "INSERT INTO ks.t (k) VALUES (1)") ++ [0, 1, 0])
    (by decide)

/-- The driver session times out at the source, the forwarded frame succeeds. -/
def timeoutThenVoid : Replies where
  source := .syncError "timeout"
  target := .ok
  id := "a"
  forwarded := some (buildVoidResult 0)

theorem acknowledged_query_shadowed_insert :
    Shadowed (handleFrame { filter := none } {} insertFrame
        { timeoutThenVoid with source := .ok, target := .syncError "timeout" })
      "a" "INSERT INTO ks.t (k) VALUES (1)" ∨
    FellBack (handleFrame { filter := none } {} insertFrame
        { timeoutThenVoid with source := .ok, target := .syncError "timeout" }) insertFrame
      { timeoutThenVoid with source := .ok, target := .syncError "timeout" }
      "INSERT INTO ks.t (k) VALUES (1)" :=
  acknowledged_query_shadowed { filter := none } {} insertFrame
    { timeoutThenVoid with source := .ok, target := .syncError "timeout" }
    "INSERT INTO ks.t (k) VALUES (1)" rfl (by decide) (by decide) (by decide) (by decide)
    ⟨buildVoidResult 0, by decide, by decide⟩

/-- The client is told that its write succeeded, and the target never hears of it. -/
theorem acknowledged_source_only :
    ¬ ∀ (m : Writer) (c : Connection) (f : Frame) (env : Replies) (query : String),
      f.header.opcode = OP_QUERY → parseLongString f.body 0 = some query → isWriteQuery query →
      ¬ m.tableBlacklisted (extractTableTarget query) → env.id ∉ m.failedWrites →
      Acknowledged (handleFrame m c f env) → Shadowed (handleFrame m c f env) env.id query := by
  intro hall
  have hshadowed := hall { filter := none } {} insertFrame timeoutThenVoid
    "INSERT INTO ks.t (k) VALUES (1)" rfl (by decide) (by decide) (by decide) (by decide)
    ⟨buildVoidResult 0, by decide, by decide⟩
  rcases hshadowed with hcall | ⟨fw, hqueued, _⟩
  · exact absurd hcall (by decide)
  · have hnone : (handleFrame { filter := none } {} insertFrame
        timeoutThenVoid).writer.failedWrites.lookup timeoutThenVoid.id = none := by decide
    rw [hnone] at hqueued
    exact absurd hqueued (by simp)

/-! ## Bound values of an EXECUTE -/

/-- The body of an EXECUTE: the id, then the bound values. -/
def executeBody (id values : List UInt8) : List UInt8 := shortBytes id ++ values

theorem length_executeBody (id values : List UInt8) :
    (executeBody id values).length = 2 + id.length + values.length := by
  simp only [executeBody, shortBytes, List.cons_append, List.length_cons, List.length_append]
  omega

theorem statementId_executeBody {id : List UInt8} (h : id.length < 2 ^ 15) (values : List UInt8) :
    statementId (executeBody id values) = some id := by
  have hlen := length_executeBody id values
  have hread : (readI16Be ((executeBody id values).getD 0 0)
      ((executeBody id values).getD 1 0)).toInt = id.length := by
    show (readI16Be (.ofNat (id.length / 256)) (.ofNat (id.length % 256))).toInt = id.length
    exact toInt_readI16Be_of_lt h
  unfold statementId
  rw [if_pos (by omega)]
  simp only [hread]
  rw [toSizeT_of_nonneg (by omega), addSizeT_of_lt (by omega), if_pos (by omega), if_neg (by omega)]
  show some ((id ++ values).take id.length) = some id
  rw [List.take_left]

/-- An EXECUTE of a tracked write is the write branch with the prepared text. -/
theorem handleFrame_execute {m : Writer} {c : Connection} {f : Frame} {env : Replies}
    {id values : List UInt8} {query : String} (hop : f.header.opcode = OP_EXECUTE)
    (hbody : f.body = executeBody id values)
    (htracked : c.preparedStmts.lookup id = some ⟨query, true⟩) :
    handleFrame m c f env = interceptWrite m c f env query := by
  have hmem : id ∈ c.preparedStmts := by
    rw [← AList.lookup_isSome, htracked]
    rfl
  have hid : statementId f.body = some id := by
    rw [hbody]
    exact statementId_executeBody (c.shortIds id hmem) values
  exact handleFrame_of_intercepted (.execute hop id hid htracked)

/-- The interception itself answers with success, without the source-only fallback. -/
def AnsweredByInterception (r : Handling) (f : Frame) : Prop :=
  r.ending = .answered (buildVoidResult f.header.streamId) ∧
    ∀ bytes, .forward bytes ∉ r.effects

/-- What the target is asked for: the statements executed on it, and the statements queued
for it. -/
def targetRequests (r : Handling) : List String × List (String × String) :=
  (r.effects.filterMap fun e => match e with
      | .cluster (.target cql _) => some cql
      | _ => none,
    r.writer.failedWrites.entries.map fun e => (e.1, e.2.cql))

/-- Two EXECUTEs of one statement with different values, both answered with success by the
interception, ask different things of the target. -/
def KeepsBoundValues (m : Writer) (c : Connection) (id : List UInt8) : Prop :=
  ∀ (f₁ f₂ : Frame) (env : Replies) (values₁ values₂ : List UInt8),
    f₁.header.opcode = OP_EXECUTE → f₂.header.opcode = OP_EXECUTE →
    f₁.body = executeBody id values₁ → f₂.body = executeBody id values₂ → values₁ ≠ values₂ →
    AnsweredByInterception (handleFrame m c f₁ env) f₁ →
    AnsweredByInterception (handleFrame m c f₂ env) f₂ →
    targetRequests (handleFrame m c f₁ env) ≠ targetRequests (handleFrame m c f₂ env)

/-- The write branch does not look at the body. -/
theorem targetRequests_interceptWrite (m : Writer) (c : Connection) (f₁ f₂ : Frame) (env : Replies)
    (query : String) :
    targetRequests (interceptWrite m c f₁ env query) =
      targetRequests (interceptWrite m c f₂ env query) := by
  cases hsrc : env.source with
  | ok =>
    rw [interceptWrite_ok hsrc, interceptWrite_ok hsrc]
    simp only [targetRequests]
  | syncError e =>
    rw [interceptWrite_syncError hsrc, interceptWrite_syncError hsrc]
    simp [targetRequests, forwardAndProxy]

/-- The source accepts: the interception answers. -/
theorem answeredByInterception_of_ok {m : Writer} {c : Connection} {f : Frame} {env : Replies}
    {query : String} (hsrc : env.source = .ok) :
    AnsweredByInterception (interceptWrite m c f env query) f := by
  rw [interceptWrite_ok hsrc]
  refine ⟨rfl, ?_⟩
  intro bytes
  simp

/-- An EXECUTE frame with one byte of bound values. -/
theorem exists_executeFrame {id : List UInt8} (h : id.length < 2 ^ 15) (b : UInt8) :
    ∃ f : Frame, f.header.opcode = OP_EXECUTE ∧ f.body = executeBody id [b] := by
  have hfits : (executeBody id [b]).length < 2 ^ 31 := by
    rw [length_executeBody, List.length_singleton]
    omega
  exact ⟨requestFrame OP_EXECUTE (executeBody id [b]) hfits, rfl, rfl⟩

/-- No state of the proxy keeps the bound values of any tracked write: all EXECUTEs of the
statement ask the same of the target. -/
theorem execute_loses_bound_values (m : Writer) (c : Connection) (id : List UInt8) (query : String)
    (htracked : c.preparedStmts.lookup id = some ⟨query, true⟩) :
    (∀ (f₁ f₂ : Frame) (env : Replies) (values₁ values₂ : List UInt8),
      f₁.header.opcode = OP_EXECUTE → f₂.header.opcode = OP_EXECUTE →
      f₁.body = executeBody id values₁ → f₂.body = executeBody id values₂ →
      targetRequests (handleFrame m c f₁ env) = targetRequests (handleFrame m c f₂ env)) ∧
    ¬ KeepsBoundValues m c id := by
  have hsame : ∀ (f₁ f₂ : Frame) (env : Replies) (values₁ values₂ : List UInt8),
      f₁.header.opcode = OP_EXECUTE → f₂.header.opcode = OP_EXECUTE →
      f₁.body = executeBody id values₁ → f₂.body = executeBody id values₂ →
      targetRequests (handleFrame m c f₁ env) = targetRequests (handleFrame m c f₂ env) := by
    intro f₁ f₂ env values₁ values₂ hop₁ hop₂ hbody₁ hbody₂
    rw [handleFrame_execute hop₁ hbody₁ htracked, handleFrame_execute hop₂ hbody₂ htracked]
    exact targetRequests_interceptWrite m c f₁ f₂ env query
  refine ⟨hsame, ?_⟩
  intro hkeeps
  have hshort : id.length < 2 ^ 15 := by
    apply c.shortIds
    rw [← AList.lookup_isSome, htracked]
    rfl
  -- one value byte 0 and one value byte 1
  obtain ⟨f₁, hop₁, hbody₁⟩ := exists_executeFrame hshort 0
  obtain ⟨f₂, hop₂, hbody₂⟩ := exists_executeFrame hshort 1
  have hne : ([0] : List UInt8) ≠ [1] := by simp
  have hanswer : ∀ (f : Frame) (values : List UInt8), f.header.opcode = OP_EXECUTE →
      f.body = executeBody id values →
      AnsweredByInterception (handleFrame m c f ⟨.ok, .ok, "", none⟩) f := by
    intro f values hop hbody
    rw [handleFrame_execute hop hbody htracked]
    exact answeredByInterception_of_ok rfl
  exact hkeeps f₁ f₂ ⟨.ok, .ok, "", none⟩ [0] [1] hop₁ hop₂ hbody₁ hbody₂ hne
    (hanswer f₁ [0] hop₁ hbody₁) (hanswer f₂ [1] hop₂ hbody₂)
    (hsame f₁ f₂ ⟨.ok, .ok, "", none⟩ [0] [1] hop₁ hop₂ hbody₁ hbody₂)

/-- A tracked INSERT with two markers. -/
def trackedInsert : Connection :=
  ({} : Connection).track [1] (by decide) "INSERT INTO ks.t (k, v) VALUES (?, ?)"

theorem execute_loses_bound_values_insert : ¬ KeepsBoundValues { filter := none } trackedInsert [1] :=
  (execute_loses_bound_values { filter := none } trackedInsert [1]
    "INSERT INTO ks.t (k, v) VALUES (?, ?)" rfl).2

/-- An EXECUTE of it with `v` for the second marker. -/
def insertExecute (v : UInt8) : Frame :=
  requestFrame OP_EXECUTE (executeBody [1] [0, 0, 0, 1, v]) (by simp [length_executeBody])

/-- Two rows that a client writes, one request for the target. -/
theorem two_rows_one_request :
    ¬ ∀ (m : Writer) (c : Connection) (id : List UInt8) (query : String),
      c.preparedStmts.lookup id = some ⟨query, true⟩ → KeepsBoundValues m c id := by
  intro hall
  have hframe : ∀ v, handleFrame { filter := none } trackedInsert (insertExecute v)
      ⟨.ok, .ok, "", none⟩ = interceptWrite { filter := none } trackedInsert (insertExecute v)
        ⟨.ok, .ok, "", none⟩ "INSERT INTO ks.t (k, v) VALUES (?, ?)" :=
    fun v => handleFrame_execute rfl rfl rfl
  have hanswer : ∀ v, AnsweredByInterception (handleFrame { filter := none } trackedInsert
      (insertExecute v) ⟨.ok, .ok, "", none⟩) (insertExecute v) := by
    intro v
    rw [hframe]
    exact answeredByInterception_of_ok rfl
  refine hall { filter := none } trackedInsert [1] "INSERT INTO ks.t (k, v) VALUES (?, ?)" rfl
    (insertExecute 7) (insertExecute 8) ⟨.ok, .ok, "", none⟩ [0, 0, 0, 1, 7] [0, 0, 0, 1, 8]
    rfl rfl rfl rfl (by simp) (hanswer 7) (hanswer 8) ?_
  rw [hframe, hframe]
  exact targetRequests_interceptWrite _ _ _ _ _ _

end DualWriter
end ScyllaClusterSync
