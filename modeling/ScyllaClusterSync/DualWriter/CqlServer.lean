import ScyllaClusterSync.DualWriter.CqlFrame
import ScyllaClusterSync.DualWriter.CqlText
import ScyllaClusterSync.DualWriter.WriterSystem

/-!
# `services/dual-writer/src/cql_server.cpp`: `handle_connection`

One iteration of the proxy loop: a client frame comes in, the source's and the driver
sessions' answers are given, and what comes out is the answer to the client together with
everything that was asked of the writer, the clusters and the source socket on the way.
Any number of connections share one `DualWriter`; `proxy` is the pool of them.
-/

namespace ScyllaClusterSync
namespace DualWriter

open Lib Svckit

/-- `PreparedStmt`. -/
structure PreparedStmt where
  query : String
  isWrite : Bool
deriving DecidableEq, Repr

theorem shortIds_empty : ∀ id ∈ (∅ : KVMap (List UInt8) PreparedStmt), id.length < 2 ^ 15 := by
  simp

/-- The tracker of one connection. An id has been cut out of a response by a length that
was read as an `int16_t`, so no tracked id is longer than that. -/
structure Connection where
  preparedStmts : KVMap (List UInt8) PreparedStmt := ∅
  shortIds : ∀ id ∈ preparedStmts, id.length < 2 ^ 15 := by exact shortIds_empty

/-- What the world outside answers while a frame is handled: the two executes of `write`,
the id `generate_id` would draw, and the source's reply to a forwarded frame (`none` when
its socket fails or its frame cannot be read). -/
structure Replies where
  source : Outcome
  target : Outcome
  id : String
  forwarded : Option (List UInt8)
deriving DecidableEq

/-- Something `handle_connection` does while it handles a frame. -/
inductive Effect where
  | write (cql table : String)
  | cluster (c : ClusterCall)
  | forward (bytes : List UInt8)
deriving DecidableEq

/-- How the handling of a frame ends: with an answer to the client, with an exception
that ends the connection, or with a reversed iterator range. -/
inductive Ending where
  | answered (response : List UInt8)
  | closed
  | undefinedBehaviour
deriving DecidableEq

/-- The handling of one frame. -/
structure Handling where
  writer : Writer
  connection : Connection
  effects : List Effect
  ending : Ending

/-! ## The pieces of the loop body -/

/-- `forward_and_proxy`, after the effects so far. -/
def forwardAndProxy (m : Writer) (c : Connection) (f : Frame) (env : Replies)
    (effects : List Effect) : Handling where
  writer := m
  connection := c
  effects := effects ++ [.forward (f.header.toBytes ++ f.body)]
  ending := match env.forwarded with
    | some response => .answered response
    | none => .closed

/-- The write branch that `OP_QUERY` and `OP_EXECUTE` share: `write`, and the source-only
fallback when it reports that the source execute failed. -/
def interceptWrite (m : Writer) (c : Connection) (f : Frame) (env : Replies) (query : String) :
    Handling :=
  let table := extractTableTarget query
  let (result, m', calls) := m.write env.id query table env.source env.target
  let effects := .write query table :: calls.map .cluster
  if result.sourceOk then
    { writer := m', connection := c, effects := effects
      ending := .answered (buildVoidResult f.header.streamId) }
  else forwardAndProxy m' c f env effects

/-- The id at the front of an EXECUTE body (or of a PREPARED result): `none` for the
reversed range of a wrapped length, an empty id when the body is too short. -/
def statementId (body : List UInt8) : Option (List UInt8) :=
  if 2 ≤ body.length then
    let n := (readI16Be (body.getD 0 0) (body.getD 1 0)).toInt
    if addSizeT 2 (toSizeT n) ≤ body.length then
      if n < 0 then none else some ((body.drop 2).take n.toNat)
    else some []
  else some []

/-- What a PREPARE does with the source's response. -/
inductive Tracking where
  | ignore
  | track (id : List UInt8) (short : id.length < 2 ^ 15)
  | undefinedBehaviour

/-- The id a response to PREPARE is tracked under. -/
def trackedId (response : List UInt8) : Tracking :=
  if 15 < response.length && response.getD 4 0 == OP_RESULT then
    if readI32Be (response.getD 9 0) (response.getD 10 0) (response.getD 11 0)
        (response.getD 12 0) = RESULT_PREPARED then
      let n := (readI16Be (response.getD 13 0) (response.getD 14 0)).toInt
      if addSizeT 15 (toSizeT n) ≤ response.length then
        if n < 0 then .undefinedBehaviour
        else .track ((response.drop 15).take n.toNat) (by
          have hn : n < 2 ^ 15 := Int16.toInt_lt _
          rw [List.length_take]
          omega)
      else .ignore
    else .ignore
  else .ignore

/-- `prepared_stmts[stmt_id] = PreparedStmt{query, is_write_query(query)}`. -/
def Connection.track (c : Connection) (id : List UInt8) (short : id.length < 2 ^ 15)
    (query : String) : Connection where
  preparedStmts := c.preparedStmts.insert id ⟨query, isWriteQuery query⟩
  shortIds := by
    intro id' hid'
    rcases (AList.mem_insert _).mp hid' with rfl | hid'
    · exact short
    · exact c.shortIds id' hid'

/-! ## The loop body -/

/-- `case OP_QUERY`. -/
def handleQuery (m : Writer) (c : Connection) (f : Frame) (env : Replies) : Handling :=
  match parseLongString f.body 0 with
  | none => { writer := m, connection := c, effects := [], ending := .closed }
  | some query =>
    if isWriteQuery query then interceptWrite m c f env query
    else forwardAndProxy m c f env []

/-- `case OP_PREPARE`: forward, then track the id of the response. -/
def handlePrepare (m : Writer) (c : Connection) (f : Frame) (env : Replies) : Handling :=
  match parseLongString f.body 0 with
  | none => { writer := m, connection := c, effects := [], ending := .closed }
  | some query =>
    let forwarded := forwardAndProxy m c f env []
    match env.forwarded with
    | none => forwarded
    | some response =>
      match trackedId response with
      | .ignore => forwarded
      | .track id short => { forwarded with connection := c.track id short query }
      | .undefinedBehaviour => { forwarded with ending := .undefinedBehaviour }

/-- `case OP_EXECUTE`. -/
def handleExecute (m : Writer) (c : Connection) (f : Frame) (env : Replies) : Handling :=
  match statementId f.body with
  | none => { writer := m, connection := c, effects := [], ending := .undefinedBehaviour }
  | some id =>
    match c.preparedStmts.lookup id with
    | none => forwardAndProxy m c f env []
    | some stmt =>
      if stmt.isWrite then interceptWrite m c f env stmt.query
      else forwardAndProxy m c f env []

/-- One iteration of the loop of `handle_connection`. `OP_BATCH` and all other opcodes are
forwarded as they are. -/
def handleFrame (m : Writer) (c : Connection) (f : Frame) (env : Replies) : Handling :=
  if f.header.opcode = OP_QUERY then handleQuery m c f env
  else if f.header.opcode = OP_PREPARE then handlePrepare m c f env
  else if f.header.opcode = OP_EXECUTE then handleExecute m c f env
  else forwardAndProxy m c f env []

/-! ## All connections -/

/-- A frame on a connection, with what the outside world answers to it. -/
structure FrameAction where
  frame : Frame
  replies : Replies
deriving DecidableEq

/-- One frame on an open connection. The connection stays open as long as the frame is
answered. -/
def connectionStep (m : Writer) : Option Connection → FrameAction →
    Option (Writer × Option Connection)
  | none, _ => none
  | some c, a =>
    let r := handleFrame m c a.frame a.replies
    match r.ending with
    | .answered _ => some (r.writer, some r.connection)
    | _ => some (r.writer, none)

/-- The connections over one `DualWriter` with its retry and reload threads. -/
def proxy (maxRetries : UInt32) :
    Pool.Program Writer (Option Connection) Unit FrameAction EnvAction where
  start _ := some {}
  thread _ := connectionStep
  env := envStep maxRetries

/-- The runs of the proxy. -/
abbrev proxyRuns (maxRetries : UInt32) (filter : Option BlacklistFilterGovernor)
    (h : List (PoolAction Unit FrameAction EnvAction)) : Option (Pool Writer (Option Connection)) :=
  run (Pool.step (proxy maxRetries)) (Pool.init { filter := filter }) h

end DualWriter
end ScyllaClusterSync
