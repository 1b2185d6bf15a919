import ScyllaClusterSync.DualWriter.CqlStream

/-!
# One client connection and its source socket

`handle_connection` between a client and the source, frame by frame. The proxy takes one
client frame at a time: it answers it by itself, or forwards it and reads one frame from
the source. The source answers every frame it is sent with one frame of the same stream
id, in order, and once it has been sent a REGISTER it pushes EVENT frames of stream id -1
whenever it likes. What it has sent and the proxy has not read is `unread`.

The other connections, the retry thread and the reload thread share the writer, so it may
change at any moment.
-/

namespace ScyllaClusterSync
namespace DualWriter

open Lib Svckit

/-- Opcodes of the protocol that the proxy has no names for. -/
def OP_READY : UInt8 := 0x02
def OP_REGISTER : UInt8 := 0x0B
def OP_EVENT : UInt8 := 0x0C

/-- The bytes of a frame. -/
def Frame.bytes (f : Frame) : List UInt8 := f.header.toBytes ++ f.body

/-- A request that has been forwarded and waits for the source: the writer and the answers
of the driver sessions its handling began with. -/
structure Forwarded where
  frame : Frame
  writer : Writer
  replies : Replies

/-- A connection of `handle_connection` and what is in flight on its source socket.
`connection` is `none` when the connection has ended, `answered` lists the requests it is
done with, each with what was written to the client. -/
structure Session where
  writer : Writer
  connection : Option Connection := some {}
  awaiting : Option Forwarded := none
  toAnswer : List Frame := []
  unread : List Frame := []
  registered : Bool := false
  answered : List (Frame × List UInt8) := []

inductive SessionAction where
  | request (f : Frame) (src tgt : Outcome) (id : String)
  | respond (g : Frame)
  | event (g : Frame)
  | read
  | hangUp
  | others (m : Writer)

/-- The end of the loop body: the answer goes to the client, or the connection ends. -/
def Session.finish (s : Session) (f : Frame) (r : Handling) : Session :=
  match r.ending with
  | .answered response =>
    { s with connection := some r.connection, answered := s.answered ++ [(f, response)] }
  | _ => { s with connection := none }

/-- One step of the session. -/
def sessionStep (s : Session) : SessionAction → Option Session
  | .request f src tgt id =>
    match s.connection, s.awaiting with
    | some c, none =>
      let replies : Replies := { source := src, target := tgt, id := id, forwarded := none }
      let r := handleFrame s.writer c f replies
      if r.toSource = [] then some ({ s with writer := r.writer }.finish f r)
      else some { s with
        writer := r.writer
        awaiting := some { frame := f, writer := s.writer, replies := replies }
        toAnswer := s.toAnswer ++ [f]
        registered := s.registered || f.header.opcode == OP_REGISTER }
    | _, _ => none
  | .respond g =>
    match s.toAnswer with
    | f :: rest =>
      if g.header.streamId = f.header.streamId ∧ g.header.opcode ≠ OP_EVENT then
        some { s with toAnswer := rest, unread := s.unread ++ [g] }
      else none
    | [] => none
  | .event g =>
    if s.registered ∧ g.header.opcode = OP_EVENT ∧ g.header.streamId = -1 then
      some { s with unread := s.unread ++ [g] }
    else none
  | .read =>
    match s.connection, s.awaiting, s.unread with
    | some c, some p, g :: rest =>
      some ({ s with awaiting := none, unread := rest }.finish p.frame
        (handleFrame p.writer c p.frame { p.replies with forwarded := some g.bytes }))
    | _, _, _ => none
  | .hangUp => some { s with connection := none }
  | .others m => some { s with writer := m }

/-- A connection that has just been accepted. -/
def Session.start (m : Writer) : Session := { writer := m }

end DualWriter
end ScyllaClusterSync
