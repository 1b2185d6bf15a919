import ScyllaClusterSync.DualWriter.CqlStreamTheorems

/-!
# The keyspace an intercepted write goes to

A USE is forwarded, so it changes the keyspace of the proxied source connection and of
nothing else. Writes go to the driver sessions, which were connected with the keyspaces of
the configuration. An unqualified table name means the same on both ways exactly when the
keyspace last selected is the configured one: `keyspace_respected_iff`.
-/

namespace ScyllaClusterSync
namespace DualWriter

open Lib Svckit

/-! ## Names and sessions -/

/-- A table as a statement names it. -/
structure TableRef where
  keyspace : Option String
  table : String
deriving DecidableEq

/-- The table it stands for where `current` is the keyspace in use, `none` where the
statement is rejected. -/
def TableRef.resolve (r : TableRef) (current : Option String) : Option (String × String) :=
  (r.keyspace.or current).map fun keyspace => (keyspace, r.table)

/-- Two sessions read a name alike when it is qualified or when they use one keyspace. -/
theorem TableRef.resolve_eq_iff {r : TableRef} {a b : Option String} :
    r.resolve a = r.resolve b ↔ (r.keyspace = none → a = b) := by
  unfold TableRef.resolve
  cases r.keyspace with
  | some keyspace => simp
  | none => cases a <;> cases b <;> simp

/-- How the clusters read a statement: the keyspace a USE selects, the table an INSERT,
UPDATE or DELETE writes. -/
structure CqlReader where
  useKeyspace : String → Option String
  writtenTable : String → Option TableRef

/-- `ScyllaConnection::connect`: the session's keyspace is the configured one, and an empty
one is left out. -/
def sessionKeyspace (configured : String) : Option String :=
  if configured = "" then none else some configured

/-! ## One connection -/

/-- A connection, with the keyspace that the source has in use on its socket. -/
structure KeyspaceState where
  writer : Writer
  connection : Option Connection := some {}
  keyspace : Option String := none

inductive KeyspaceAction where
  | query (a : FrameAction)
  | others (m : Writer)

/-- The keyspace in use after the frame: a USE that was forwarded and not answered with an
ERROR selects one. -/
def keyspaceAfter (reader : CqlReader) (current : Option String) (a : FrameAction)
    (r : Handling) : Option String :=
  match parseLongString a.frame.body 0, a.replies.forwarded with
  | some query, some response =>
    if r.toSource ≠ [] ∧ response.getD 4 0 ≠ OP_ERROR then (reader.useKeyspace query).or current
    else current
  | _, _ => current

/-- A QUERY frame on the connection, or something that other connections and the retry
thread do to the writer. -/
def keyspaceStep (reader : CqlReader) (s : KeyspaceState) : KeyspaceAction → Option KeyspaceState
  | .query a =>
    match s.connection with
    | none => none
    | some c =>
      if a.frame.header.opcode = OP_QUERY then
        (connectionStep s.writer (some c) a).map fun (m, c') =>
          { writer := m, connection := c'
            keyspace := keyspaceAfter reader s.keyspace a (handleFrame s.writer c a.frame a.replies) }
      else none
  | .others m => some { s with writer := m }

/-- Every write that is passed to `write` names, in both driver sessions, the table that
the source would have written had it been sent the frame. -/
def WritesSourceTable (reader : CqlReader) (source target : Option String) (s : KeyspaceState)
    (a : KeyspaceAction) (_ : KeyspaceState) : Prop :=
  ∀ fa c, a = .query fa → s.connection = some c →
    ∀ query table, .write query table ∈ (handleFrame s.writer c fa.frame fa.replies).effects →
      ∀ r, reader.writtenTable query = some r →
        r.resolve source = r.resolve s.keyspace ∧ r.resolve target = r.resolve s.keyspace

/-- A write QUERY names its table with a keyspace, or both driver sessions use the keyspace
that is in use on the source connection. -/
def NamesSessionKeyspace (reader : CqlReader) (source target : Option String) (s : KeyspaceState)
    (a : KeyspaceAction) (_ : KeyspaceState) : Prop :=
  ∀ fa query, a = .query fa → parseLongString fa.frame.body 0 = some query → isWriteQuery query →
    ∀ r, reader.writtenTable query = some r →
      r.keyspace = none → source = s.keyspace ∧ target = s.keyspace

/-! ## One frame -/

/-- `write` is called for the statements of intercepted frames only. -/
theorem write_mem_iff {m : Writer} {c : Connection} {f : Frame} {env : Replies}
    {query table : String} :
    .write query table ∈ (handleFrame m c f env).effects ↔
      Intercepted c f query ∧ table = extractTableTarget query := by
  constructor
  · intro hmem
    cases handleFrame_move m c f env with
    | intercept query' hquery hr =>
      have hhead : Effect.write query table = .write query' (extractTableTarget query') := by
        rw [hr, effects_interceptWrite] at hmem
        by_cases hsrc : env.source = .ok
        · simpa [hsrc] using hmem
        · simpa [hsrc] using hmem
      obtain ⟨rfl, htable⟩ := Effect.write.inj hhead
      exact ⟨hquery, htable⟩
    | forward _ hr => rw [hr] at hmem; simp [forwardAndProxy] at hmem
    | track id short query' response _ _ _ hr => rw [hr] at hmem; simp [forwardAndProxy] at hmem
    | reversed response _ _ _ hr => rw [hr] at hmem; simp [forwardAndProxy] at hmem
    | fail ending _ _ hr => rw [hr] at hmem; simp at hmem
  · intro hboth
    rw [handleFrame_of_intercepted hboth.1, hboth.2, effects_interceptWrite]
    exact List.mem_cons_self

theorem keyspaceStep_query {reader : CqlReader} {s s' : KeyspaceState} {fa : FrameAction}
    (h : keyspaceStep reader s (.query fa) = some s') :
    ∃ c, s.connection = some c ∧ fa.frame.header.opcode = OP_QUERY := by
  simp only [keyspaceStep] at h
  split at h
  · simp at h
  next c hc =>
    simp only [Option.ite_none_right_eq_some] at h
    exact ⟨c, hc, h.1⟩

theorem writesSourceTable_iff {reader : CqlReader} {source target : Option String}
    {s s' : KeyspaceState} {a : KeyspaceAction} (hstep : keyspaceStep reader s a = some s') :
    WritesSourceTable reader source target s a s' ↔
      NamesSessionKeyspace reader source target s a s' := by
  constructor
  · intro hwrites fa query ha hparse hwrite r hr hunqualified
    rw [ha] at hstep
    obtain ⟨c, hc, hop⟩ := keyspaceStep_query hstep
    obtain ⟨hsource, htarget⟩ := hwrites fa c ha hc query _
      (write_mem_iff.mpr ⟨.query hop hparse hwrite, rfl⟩) r hr
    exact ⟨TableRef.resolve_eq_iff.mp hsource hunqualified,
      TableRef.resolve_eq_iff.mp htarget hunqualified⟩
  · intro hnames fa c ha hc query table hmem r hr
    rw [ha] at hstep
    obtain ⟨_, _, hop⟩ := keyspaceStep_query hstep
    have hparse : parseLongString fa.frame.body 0 = some query ∧ isWriteQuery query := by
      cases (write_mem_iff.mp hmem).1 with
      | query _ hparse hwrite => exact ⟨hparse, hwrite⟩
      | execute hop' _ _ _ => exact absurd (hop.symm.trans hop') (by decide)
    have hsession := hnames fa query ha hparse.1 hparse.2 r hr
    exact ⟨TableRef.resolve_eq_iff.mpr fun hnone => (hsession hnone).1,
      TableRef.resolve_eq_iff.mpr fun hnone => (hsession hnone).2⟩

/-- A USE is no write: it goes to the source, and selects its keyspace when accepted. -/
theorem keyspaceAfter_use {reader : CqlReader} {current : Option String} {m : Writer}
    {c : Connection} {a : FrameAction} {query keyspace : String} {response : List UInt8}
    (hop : a.frame.header.opcode = OP_QUERY) (hparse : parseLongString a.frame.body 0 = some query)
    (hwrite : isWriteQuery query = false) (huse : reader.useKeyspace query = some keyspace)
    (hforwarded : a.replies.forwarded = some response) (hok : response.getD 4 0 ≠ OP_ERROR) :
    keyspaceAfter reader current a (handleFrame m c a.frame a.replies) = some keyspace := by
  have hframe : handleFrame m c a.frame a.replies = forwardAndProxy m c a.frame a.replies [] := by
    simp [handleFrame, hop, handleQuery, hparse, hwrite]
  have hsent : (handleFrame m c a.frame a.replies).toSource ≠ [] := by
    rw [hframe, toSource_forwardAndProxy]
    simp
  simp only [keyspaceAfter, hparse, hforwarded]
  rw [if_pos ⟨hsent, hok⟩, huse]
  rfl

/-! ## The result -/

/-- In every run of a connection: every write passed to `write` is applied, in both driver
sessions, to the table that the source would have written for the frame, exactly when
every write names a keyspace or finds in use, on the source connection, the keyspace that
both driver sessions were connected with. -/
theorem keyspace_respected_iff (reader : CqlReader) (source target : String) (m : Writer)
    (h : List KeyspaceAction) :
    Along (keyspaceStep reader) { writer := m }
        (WritesSourceTable reader (sessionKeyspace source) (sessionKeyspace target)) h ↔
      Along (keyspaceStep reader) { writer := m }
        (NamesSessionKeyspace reader (sessionKeyspace source) (sessionKeyspace target)) h := by
  constructor
  · intro hall pre a post t t' heq ht ht'
    exact (writesSourceTable_iff ht').mp (hall pre a post t t' heq ht ht')
  · intro hall pre a post t t' heq ht ht'
    exact (writesSourceTable_iff ht').mpr (hall pre a post t t' heq ht ht')

/-- How `USE k` and `INSERT INTO t (..)` are read, in capitals and without quotes. -/
def plainReader : CqlReader where
  useKeyspace query :=
    if "USE ".toList.isPrefixOf query.toList then some (.ofList (query.toList.drop 4)) else none
  writtenTable query :=
    let name := (extractTableTarget query).toList
    match name.dropWhile (· != '.') with
    | [] => some { keyspace := none, table := .ofList name }
    | _ :: table => some { keyspace := some (.ofList (name.takeWhile (· != '.'))), table := .ofList table }

/-- A USE, and the source's SET_KEYSPACE result. -/
def useFiles : FrameAction where
  frame := requestFrame OP_QUERY (longString (ascii "USE files_keyspace") ++ [0, 1, 0]) (by decide)
  replies :=
    { source := .ok, target := .ok, id := ""
      forwarded := some ((FrameHeader.response OP_RESULT 0 4).toBytes ++ [0, 0, 0, 3]) }

/-- An INSERT into a table of the keyspace in use. -/
def insertIntoFiles : FrameAction where
  frame := requestFrame OP_QUERY (longString (ascii "INSERT INTO files (id) VALUES (1)") ++ [0, 1, 0])
    (by decide)
  replies := { source := .ok, target := .ok, id := "", forwarded := none }

/-- The client selects a keyspace and inserts without naming it; the driver sessions were
connected with another one. -/
theorem write_to_other_keyspace :
    ¬ ∀ (reader : CqlReader) (source target : String) (m : Writer) (h : List KeyspaceAction)
        (s : KeyspaceState), run (keyspaceStep reader) { writer := m } h = some s →
      Along (keyspaceStep reader) { writer := m }
        (WritesSourceTable reader (sessionKeyspace source) (sessionKeyspace target)) h := by
  intro hall
  have hwrites := hall plainReader "app_keyspace" "app_keyspace" { filter := none }
    [.query useFiles, .query insertIntoFiles] _ rfl [.query useFiles] (.query insertIntoFiles) []
    _ _ rfl rfl rfl insertIntoFiles {} rfl rfl "INSERT INTO files (id) VALUES (1)" "files"
    (by decide) ⟨none, "files"⟩ (by decide)
  exact absurd hwrites.1 (by decide)

end DualWriter
end ScyllaClusterSync
