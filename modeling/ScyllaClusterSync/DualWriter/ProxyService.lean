import ScyllaClusterSync.DualWriter.ProxyRelay

/-!
# `services/dual-writer/src/cql_server.cpp`: all connections over one writer

`start_cql_server` runs one `handle_connection` for each client it accepts. A connection that
intercepts a write is inside `co_await writer->write(..)` while the other connections, their
`write()` calls, the retry thread and the reloads go on: the calls are those of the
`WriterSystem`, one atomic step at a time, and a connection goes on when its own has returned.

A connection keeps the numbers of its calls: of those it has answered with a VOID result, with
the frame each belongs to, and of those it has fallen back to the source after.
-/

namespace ScyllaClusterSync
namespace DualWriter

open Lib Svckit

/-! ## One iteration of the loop, around the `write()` call -/

/-- The statement of a frame that is a write: of a QUERY, or of a tracked EXECUTE. -/
def interceptedQuery (c : Connection) (f : Frame) : Option String :=
  if f.header.opcode = OP_QUERY then
    (parseLongString f.body 0).bind fun query => if isWriteQuery query then some query else none
  else if f.header.opcode = OP_EXECUTE then
    (statementId f.body).bind fun id => (c.preparedStmts.lookup id).bind fun stmt =>
      if stmt.isWrite then some stmt.query else none
  else none

/-- What follows `co_await writer->write(..)`. -/
def afterWrite (m : Writer) (c : Connection) (f : Frame) (env : Replies) (result : WriteResult) :
    Handling :=
  if result.sourceOk then
    { writer := m, connection := c, effects := []
      ending := .answered (buildVoidResult f.header.streamId) }
  else forwardAndProxy m c f env []

/-- The end of an iteration: the sockets and the answer, `none` when the connection ends. -/
def Relay.afterFrame (s : Relay) (f : Frame) (rest : List UInt8) (r : Handling) : Option Relay :=
  match r.ending with
  | .answered response => some {
      connection := r.connection
      fromClient := rest
      fromSource := r.leftOnSource s.fromSource
      toSource := s.toSource ++ r.toSource.flatten
      toClient := s.toClient ++ response
      served := s.served ++ [⟨f, !r.toSource.isEmpty, response⟩] }
  | _ => none

/-! ## The service -/

/-- A write under way: its frame, what the client has sent after it, the number of its call. -/
structure PendingWrite where
  frame : Frame
  rest : List UInt8
  call : ℕ

/-- A connection, as it was at the head of its loop. -/
structure ServedConnection where
  relay : Relay
  writing : Option PendingWrite := none
  closed : Bool := false
  acknowledged : List (Frame × ℕ) := []
  refused : List ℕ := []

/-- The calls of a connection. -/
def ServedConnection.calls (s : ServedConnection) : List ℕ :=
  s.acknowledged.map Prod.snd ++ s.refused ++ (s.writing.map PendingWrite.call).toList

structure Service where
  writer : State
  connections : List ServedConnection := []

inductive ServiceAction where
  /-- A client connects; these are the bytes the two sockets will bring. -/
  | accept (client source : List UInt8)
  /-- The next frame of connection `i` is not a write. -/
  | proxy (i : ℕ)
  /-- The next frame of connection `i` is a write of `query`. -/
  | intercept (i : ℕ) (query : String)
  /-- The `write()` call of connection `i` has returned. -/
  | answer (i : ℕ)
  /-- No frame can be read from the client of connection `i`. -/
  | close (i : ℕ)
  /-- A step of a `write()` call. -/
  | write (w : ℕ) (a : CallAction)
  | env (e : EnvAction)

/-- The connection goes on with the next frame, or ends. -/
def ServedConnection.next (s : ServedConnection) : Option Relay → ServedConnection
  | some relay => { s with relay := relay, writing := none }
  | none => { s with writing := none, closed := true }

/-- An iteration without a write. What the two executes would answer does not matter. -/
def proxyStep (m : Writer) (s : ServedConnection) : Option ServedConnection :=
  if s.closed ∨ s.writing.isSome then none
  else (readClientFrame s.relay.fromClient).bind fun (f, rest) =>
    if interceptedQuery s.relay.connection f = none then
      some (s.next (s.relay.afterFrame f rest
        (handleFrame m s.relay.connection f (.ofSocket .ok .ok "" s.relay.fromSource))))
    else none

/-- The first half of an iteration with a write: the call gets this number. -/
def interceptStep (call : ℕ) (query : String) (s : ServedConnection) : Option ServedConnection :=
  if s.closed ∨ s.writing.isSome then none
  else (readClientFrame s.relay.fromClient).bind fun (f, rest) =>
    if interceptedQuery s.relay.connection f = some query then
      some { s with writing := some { frame := f, rest := rest, call := call } }
    else none

/-- The second half, with the result of the call. -/
def answerStep (m : Writer) (s : ServedConnection) (q : PendingWrite) (result : WriteResult) :
    ServedConnection :=
  let s' := s.next (s.relay.afterFrame q.frame q.rest
    (afterWrite m s.relay.connection q.frame (.ofSocket .ok .ok "" s.relay.fromSource) result))
  if result.sourceOk then { s' with acknowledged := s.acknowledged ++ [(q.frame, q.call)] }
  else { s' with refused := s.refused ++ [q.call] }

/-- A step of connection `i`. -/
def Service.onConnection (p : Service) (i : ℕ)
    (step : ServedConnection → Option ServedConnection) : Option Service :=
  p.connections[i]?.bind fun s => (step s).map fun s' =>
    { p with connections := p.connections.set i s' }

variable (generateId : ℕ → String) (maxRetries : UInt32)

/-- One step of the service. -/
def serviceStep (p : Service) : ServiceAction → Option Service
  | .accept client source =>
    some { p with connections := p.connections ++ [{ relay := Relay.start client source }] }
  | .proxy i => p.onConnection i (proxyStep p.writer.mem)
  | .intercept i query =>
    (p.onConnection i (interceptStep p.writer.threads.length query)).bind fun p' =>
      (Pool.step (program generateId maxRetries) p.writer
        (.spawn ⟨query, extractTableTarget query⟩)).map fun writer => { p' with writer := writer }
  | .answer i =>
    p.onConnection i fun s => s.writing.bind fun q => p.writer.threads[q.call]?.bind fun call =>
      match call.pc with
      | .returned result => some (answerStep p.writer.mem s q result)
      | _ => none
  | .close i =>
    p.onConnection i fun s =>
      if s.writing = none ∧ readClientFrame s.relay.fromClient = none then
        some { s with closed := true }
      else none
  | .write w a =>
    (Pool.step (program generateId maxRetries) p.writer (.act w a)).map fun writer =>
      { p with writer := writer }
  | .env e =>
    (Pool.step (program generateId maxRetries) p.writer (.env e)).map fun writer =>
      { p with writer := writer }

/-- A service that has just been started. -/
def Service.start (filter : Option BlacklistFilterGovernor) : Service := { writer := initial filter }

/-- The steps of the writer. -/
def writerHistory (h : List ServiceAction) : List Action :=
  h.filterMap fun a => match a with
    | .intercept _ query => some (.spawn ⟨query, extractTableTarget query⟩)
    | .write w a => some (.act w a)
    | .env e => some (.env e)
    | _ => none

end DualWriter
end ScyllaClusterSync
