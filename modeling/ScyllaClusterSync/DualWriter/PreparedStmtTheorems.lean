import ScyllaClusterSync.DualWriter.CqlServerTheorems

/-!
# A prepared write is intercepted on the connection it was prepared on

`prepared_stmts` belongs to one `handle_connection`. Over any run of any number of
connections it knows every statement whose last PREPARE on that connection was answered
with its id (`TrackerInv`), so an EXECUTE there goes through `write`. An EXECUTE of the
same id on another connection does not: `execute_elsewhere_forwarded`.
-/

namespace ScyllaClusterSync
namespace DualWriter

open Lib Svckit

/-- A PREPARED result: kind, id, metadata. -/
def preparedResponse (header : FrameHeader) (id metadata : List UInt8) : List UInt8 :=
  header.toBytes ++ ([0, 0, 0, 4] ++ (shortBytes id ++ metadata))

/-- Without header flags nothing precedes the result kind, and the id is read where it is. -/
theorem trackedId_preparedResponse {header : FrameHeader} {id metadata : List UInt8}
    (hop : header.opcode = OP_RESULT) (hid : id.length < 2 ^ 15) (hmeta : metadata ≠ []) :
    trackedId (preparedResponse header id metadata) = .track id hid := by
  have hpos := List.length_pos_of_ne_nil hmeta
  have hlen : (preparedResponse header id metadata).length = 15 + id.length + metadata.length := by
    simp only [preparedResponse, FrameHeader.toBytes, shortBytes, List.cons_append, List.nil_append,
      List.length_cons, List.length_append]
    omega
  -- each byte that is looked at stands where a response without header flags has it
  have hopcode : ((preparedResponse header id metadata).getD 4 0 == OP_RESULT) = true := by
    show (header.opcode == OP_RESULT) = true
    rw [hop]
    rfl
  have hkind : readI32Be ((preparedResponse header id metadata).getD 9 0)
      ((preparedResponse header id metadata).getD 10 0)
      ((preparedResponse header id metadata).getD 11 0)
      ((preparedResponse header id metadata).getD 12 0) = RESULT_PREPARED := by
    show readI32Be 0 0 0 4 = RESULT_PREPARED
    decide
  have hread : (readI16Be ((preparedResponse header id metadata).getD 13 0)
      ((preparedResponse header id metadata).getD 14 0)).toInt = id.length := by
    show (readI16Be (.ofNat (id.length / 256)) (.ofNat (id.length % 256))).toInt = id.length
    exact toInt_readI16Be_of_lt hid
  have hcut : ((preparedResponse header id metadata).drop 15).take id.length = id := by
    show (id ++ metadata).take id.length = id
    exact List.take_left
  unfold trackedId
  rw [if_pos (by rw [hopcode, Bool.and_true, decide_eq_true_iff]; omega), if_pos hkind]
  simp only [hread]
  rw [if_pos (by rw [toSizeT_of_nonneg (by omega), addSizeT_of_lt (by omega)]; omega),
    if_neg (by omega)]
  simp only [Int.toNat_natCast, hcut]

/-- A PREPARE of `query` that the source answers with `id`, with no header flags. -/
structure Prepares (a : FrameAction) (id : List UInt8) (query : String) : Prop where
  opcode : a.frame.header.opcode = OP_PREPARE
  body : ∃ bytes rest, a.frame.body = longString bytes ++ rest ∧ bytes.length < 2 ^ 31 ∧
    toText bytes = query
  response : ∃ header metadata, a.replies.forwarded = some (preparedResponse header id metadata) ∧
    header.opcode = OP_RESULT ∧ header.flags = 0 ∧ metadata ≠ []
  short : id.length < 2 ^ 15

/-- A PREPARE whose response is tracked under `id`. -/
def Retracks (a : FrameAction) (id : List UInt8) : Prop :=
  a.frame.header.opcode = OP_PREPARE ∧
    ∃ response short, a.replies.forwarded = some response ∧ trackedId response = .track id short

abbrev ProxyAction := PoolAction Unit FrameAction EnvAction

/-- The last PREPARE on connection `i` that was answered with `id` was for `query`. -/
def PreparedOn (h : List ProxyAction) (i : ℕ) (id : List UInt8) (query : String) : Prop :=
  ∃ pre a post, h = pre ++ .act i a :: post ∧ Prepares a id query ∧
    ∀ b, .act i b ∈ post → ¬ Retracks b id

/-- What one more action does to it. -/
theorem PreparedOn.of_concat {h : List ProxyAction} {i : ℕ} {id : List UInt8} {query : String}
    {b : ProxyAction} (hprep : PreparedOn (h ++ [b]) i id query) :
    (∃ a, b = .act i a ∧ Prepares a id query) ∨
      (PreparedOn h i id query ∧ ∀ a, b = .act i a → ¬ Retracks a id) := by
  obtain ⟨pre, a, post, heq, ha, hlast⟩ := hprep
  rcases concat_eq_append_cons heq with ⟨_, hb, _⟩ | ⟨post', hpost, hh⟩
  · exact Or.inl ⟨a, hb.symm, ha⟩
  · refine Or.inr ⟨⟨pre, a, post', hh, ha, ?_⟩, ?_⟩
    · intro a' ha'
      apply hlast a'
      rw [hpost]
      exact List.mem_append_left _ ha'
    · intro a' ha'
      apply hlast a'
      rw [hpost, ← ha']
      exact List.mem_append_right _ (List.mem_singleton_self b)

/-! ## What the connection tracks -/

/-- Only a PREPARE with a tracked response changes the tracker. -/
theorem connection_handleFrame (m : Writer) (c : Connection) (f : Frame) (env : Replies) :
    (handleFrame m c f env).connection = c ∨
      ∃ id short query, Retracks ⟨f, env⟩ id ∧
        (handleFrame m c f env).connection = c.track id short query := by
  cases handleFrame_move m c f env with
  | intercept query _ hr =>
    left
    rw [hr]
    exact connection_interceptWrite
  | forward _ hr =>
    left
    rw [hr, forwardAndProxy]
  | track id short query response hop hforwarded htracked hr =>
    right
    refine ⟨id, short, query, ⟨hop, response, short, hforwarded, htracked⟩, ?_⟩
    rw [hr]
  | reversed response _ _ _ hr =>
    left
    rw [hr, forwardAndProxy]
  | fail ending _ _ hr =>
    left
    rw [hr]

/-- A flagless PREPARED result is tracked under its id, with the query of the frame. -/
theorem connection_of_prepares {m : Writer} {c : Connection} {a : FrameAction} {id : List UInt8}
    {query : String} (ha : Prepares a id query) :
    (handleFrame m c a.frame a.replies).connection = c.track id ha.short query := by
  obtain ⟨bytes, rest, hbody, hlen, htext⟩ := ha.body
  obtain ⟨header, metadata, hforwarded, hop, _, hmeta⟩ := ha.response
  have hparse : parseLongString a.frame.body 0 = some query := by
    rw [hbody, parseLongString_longString hlen, htext]
  have hquery : ¬ a.frame.header.opcode = OP_QUERY := by
    rw [ha.opcode]
    decide
  rw [handleFrame, if_neg hquery, if_pos ha.opcode, handlePrepare, hparse]
  simp only [hforwarded, trackedId_preparedResponse hop ha.short hmeta]

theorem lookup_track_self {c : Connection} {id : List UInt8} (short : id.length < 2 ^ 15)
    (query : String) :
    (c.track id short query).preparedStmts.lookup id = some ⟨query, isWriteQuery query⟩ :=
  AList.lookup_insert _

theorem lookup_track_ne {c : Connection} {id id' : List UInt8} (short : id.length < 2 ^ 15)
    (query : String) (hne : id' ≠ id) :
    (c.track id short query).preparedStmts.lookup id' = c.preparedStmts.lookup id' :=
  AList.lookup_insert_ne hne

/-- The tracker of an open connection knows every statement prepared on it. -/
def TrackerInv (h : List ProxyAction) (i : ℕ) (t : Option Connection) : Prop :=
  ∀ c, t = some c → ∀ id query, PreparedOn h i id query →
    c.preparedStmts.lookup id = some ⟨query, isWriteQuery query⟩

/-- One frame on the connection. -/
theorem TrackerInv.step {h : List ProxyAction} {i : ℕ} {m m' : Writer} {t t' : Option Connection}
    {a : FrameAction} (hinv : TrackerInv h i t) (hstep : connectionStep m t a = some (m', t')) :
    TrackerInv (h ++ [PoolAction.act i a]) i t' := by
  intro c' hc' id query hprep
  cases t with
  | none => simp [connectionStep] at hstep
  | some c =>
    have hconn : (handleFrame m c a.frame a.replies).connection = c' := by
      simp only [connectionStep] at hstep
      rw [hc'] at hstep
      split at hstep
      · simp only [Option.some.injEq, Prod.mk.injEq] at hstep
        exact hstep.2
      · simp at hstep
    rcases hprep.of_concat with ⟨b, hb, hnew⟩ | ⟨hold, hlast⟩
    · -- the frame is the PREPARE itself
      have hba := (PoolAction.act.inj hb).2
      rw [← hba] at hnew
      rw [← hconn, connection_of_prepares hnew]
      exact lookup_track_self hnew.short query
    · have hlook := hinv c rfl id query hold
      rcases connection_handleFrame m c a.frame a.replies with hsame | ⟨id', short, q, hre, htrack⟩
      · rw [← hconn, hsame]
        exact hlook
      · -- another statement has been prepared since, under an id of its own
        have hne : id ≠ id' := by
          intro heq
          exact hlast a rfl (heq ▸ hre)
        rw [← hconn, htrack, lookup_track_ne short q hne]
        exact hlook

/-- Actions elsewhere are no PREPAREs on this connection. -/
theorem TrackerInv.frame {h : List ProxyAction} {i : ℕ} {t : Option Connection} {b : ProxyAction}
    (hinv : TrackerInv h i t) (hb : ∀ a, b ≠ .act i a) : TrackerInv (h ++ [b]) i t := by
  intro c hc id query hprep
  rcases hprep.of_concat with ⟨a, ha, _⟩ | ⟨hold, _⟩
  · exact absurd ha (hb a)
  · exact hinv c hc id query hold

theorem trackerInv_of_runs {maxRetries : UInt32} {filter : Option BlacklistFilterGovernor}
    {h : List ProxyAction} {p : Pool Writer (Option Connection)}
    (hrun : proxyRuns maxRetries filter h = some p) :
    Pool.Holds (fun _ _ => True) (fun h _ i t => TrackerInv h i t) h p := by
  refine Pool.invariant_of_meets trivial ?_ ?_ ?_ h p (Pool.meets_true h) hrun
  · intro h p k _ _ hnew
    refine ⟨trivial, ?_, fun j u hu => hu.frame (by simp)⟩
    rintro c _ id query ⟨pre, a, post, heq, _, _⟩
    -- nothing has happened on a connection that is just being opened
    have hmem : PoolAction.act p.threads.length a ∈ h ++ [PoolAction.spawn k] := by
      rw [heq]
      simp
    simp only [List.mem_append, List.mem_singleton, reduceCtorEq, or_false] at hmem
    exact absurd hmem (hnew a)
  · intro h p i a t m' t' hp _ ht hstep
    refine ⟨trivial, (hp.2 i t ht).step hstep, ?_⟩
    intro j u hj hu
    refine hu.frame ?_
    intro a' heq
    exact hj (PoolAction.act.inj heq).1.symm
  · intro h p e m' _ _ _
    exact ⟨trivial, fun j u hu => hu.frame (by simp)⟩

/-! ## The result -/

/-- In every run of any number of connections: an EXECUTE of a write that was prepared on
its own connection is passed to `write`. -/
theorem prepared_write_intercepted (maxRetries : UInt32) (filter : Option BlacklistFilterGovernor)
    (h : List ProxyAction) (p : Pool Writer (Option Connection)) (i : ℕ) (c : Connection)
    (id : List UInt8) (query : String) (f : Frame) (env : Replies) (values : List UInt8)
    (hrun : proxyRuns maxRetries filter h = some p) (hopen : p.threads[i]? = some (some c))
    (hprep : PreparedOn h i id query) (hwrite : isWriteQuery query)
    (hop : f.header.opcode = OP_EXECUTE) (hbody : f.body = executeBody id values) :
    .write query (extractTableTarget query) ∈ (handleFrame p.mem c f env).effects := by
  have htracked := (trackerInv_of_runs hrun).2 i (some c) hopen c rfl id query hprep
  rw [hwrite] at htracked
  rw [handleFrame_execute hop hbody htracked, effects_interceptWrite]
  exact List.mem_cons_self

/-- A client prepares the INSERT; the source answers with the id `[1]`. -/
def prepareInsert : FrameAction where
  frame := requestFrame OP_PREPARE (longString (ascii "INSERT INTO ks.t (k, v) VALUES (?, ?)"))
    (by decide)
  replies :=
    { source := .ok, target := .ok, id := ""
      forwarded := some (preparedResponse (.response OP_RESULT 0 11) [1] [0, 0, 0, 4]) }

theorem prepares_prepareInsert :
    Prepares prepareInsert [1] "INSERT INTO ks.t (k, v) VALUES (?, ?)" where
  opcode := rfl
  body := ⟨ascii "INSERT INTO ks.t (k, v) VALUES (?, ?)", [], by simp [prepareInsert, requestFrame],
    by decide, by decide⟩
  response := ⟨_, _, rfl, rfl, rfl, by simp⟩
  short := by decide

theorem proxyRuns_prepareInsert :
    proxyRuns 3 none [.spawn (), .spawn (), .act 0 prepareInsert] =
      some { mem := { filter := none }, threads := [some trackedInsert, some {}] } := by
  rfl

theorem prepared_write_intercepted_insert :
    .write "INSERT INTO ks.t (k, v) VALUES (?, ?)" "ks.t" ∈
      (handleFrame { filter := none } trackedInsert (insertExecute 7)
        ⟨.ok, .ok, "", none⟩).effects :=
  prepared_write_intercepted 3 none [.spawn (), .spawn (), .act 0 prepareInsert]
    { mem := { filter := none }, threads := [some trackedInsert, some {}] } 0 trackedInsert [1]
    "INSERT INTO ks.t (k, v) VALUES (?, ?)" (insertExecute 7) ⟨.ok, .ok, "", none⟩ [0, 0, 0, 1, 7]
    proxyRuns_prepareInsert rfl
    ⟨[.spawn (), .spawn ()], prepareInsert, [], rfl, prepares_prepareInsert, by simp⟩
    (by decide) rfl rfl

/-- The id is valid on every connection, but only the one that prepared it tracks it. -/
theorem execute_elsewhere_forwarded :
    ¬ ∀ (maxRetries : UInt32) (filter : Option BlacklistFilterGovernor) (h : List ProxyAction)
        (p : Pool Writer (Option Connection)) (i j : ℕ) (a : FrameAction) (c : Connection)
        (id : List UInt8) (query : String) (f : Frame) (env : Replies) (values : List UInt8),
      proxyRuns maxRetries filter h = some p → .act i a ∈ h → Prepares a id query →
      isWriteQuery query → p.threads[j]? = some (some c) → f.header.opcode = OP_EXECUTE →
      f.body = executeBody id values →
      .write query (extractTableTarget query) ∈ (handleFrame p.mem c f env).effects := by
  intro hall
  have hmem := hall 3 none [.spawn (), .spawn (), .act 0 prepareInsert]
    { mem := { filter := none }, threads := [some trackedInsert, some {}] } 0 1 prepareInsert {} [1]
    "INSERT INTO ks.t (k, v) VALUES (?, ?)" (insertExecute 7) ⟨.ok, .ok, "", none⟩ [0, 0, 0, 1, 7]
    proxyRuns_prepareInsert (by simp) prepares_prepareInsert (by decide) rfl rfl rfl
  exact absurd hmem (by decide)

end DualWriter
end ScyllaClusterSync
