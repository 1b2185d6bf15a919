import ScyllaClusterSync.DualWriter.ShadowWriteTheorems

/-!
# The attempt counter against the history

The counter `attempts` of a queued write is copied into the snapshot, incremented there,
moved to `to_update` and written back one critical section later, and `max_retries` is
compared with it before an attempt, not after. `AttemptInv` says of every entry which of
its copies is the current one and what its counter means at every point in between: the
executions that have failed (`counted`), one more than which the limit still allows
(`bounded`), with one snapshot for each of them (`opened`).
-/

namespace ScyllaClusterSync
namespace DualWriter

open Svckit Lib

/-! ## Executions and snapshots in a history -/

/-- A `target_->execute` for the write of call `w`, by the call itself or by the retry
thread under the id the call drew. -/
def isTargetExecute (generateId : ℕ → String) (w : ℕ) : Action → Bool
  | .act w' (.targetExecute _ _) => w' == w
  | .env (.retry (.execute id _ _)) => id == generateId w
  | _ => false

/-- A failed `target_->execute` made by call `w` itself. -/
def isDirectFailure (w : ℕ) : Action → Bool
  | .act w' (.targetExecute _ (.syncError _)) => w' == w
  | _ => false

/-- The entry whose retry fails in this step. -/
def RetryAction.failed : RetryAction → Option String
  | .execute id _ (.syncError _) => some id
  | _ => none

/-- The entries this step takes into a cycle. -/
def RetryAction.opened : RetryAction → List String
  | .snapshot order => order
  | _ => []

/-- A failed `target_->execute` made by the retry thread for the entry `id`. -/
def isRetryFailure (id : String) : Action → Bool
  | .env (.retry a) => a.failed == some id
  | _ => false

/-- A snapshot of `failed_writes_` that has the entry `id`. -/
def isSnapshotOf (id : String) : Action → Bool
  | .env (.retry a) => a.opened.contains id
  | _ => false

/-- How often the target was executed for the write of call `w`. -/
def targetExecutions (generateId : ℕ → String) (h : List Action) (w : ℕ) : ℕ :=
  h.countP (isTargetExecute generateId w)

/-- How often the retry of the entry `id` failed. -/
def retryFailures (h : List Action) (id : String) : ℕ := h.countP (isRetryFailure id)

/-- How often an execution on the target failed for the write of call `w`. -/
def targetFailures (generateId : ℕ → String) (h : List Action) (w : ℕ) : ℕ :=
  h.countP (isDirectFailure w) + retryFailures h (generateId w)

/-- The retry cycles that had the entry `id` in their snapshot. -/
def snapshots (h : List Action) (id : String) : ℕ := h.countP (isSnapshotOf id)

variable {generateId : ℕ → String} {maxRetries : UInt32} {h : List Action} {m m' : Writer}
  {w : ℕ} {c c' : WriteCall} {a : RetryAction} {id : String} {fw : FailedWrite}

theorem retryFailures_concat (h : List Action) (a : Action) (id : String) :
    retryFailures (h ++ [a]) id = retryFailures h id + if isRetryFailure id a then 1 else 0 := by
  rw [retryFailures, List.countP_append, List.countP_singleton]
  rfl

theorem snapshots_concat (h : List Action) (a : Action) (id : String) :
    snapshots (h ++ [a]) id = snapshots h id + if isSnapshotOf id a then 1 else 0 := by
  rw [snapshots, List.countP_append, List.countP_singleton]
  rfl

theorem isRetryFailure_retry : isRetryFailure id (.env (.retry a)) ↔ a.failed = some id :=
  beq_iff_eq

theorem isSnapshotOf_retry : isSnapshotOf id (.env (.retry a)) ↔ id ∈ a.opened :=
  List.contains_iff_mem

/-- An execution succeeds or fails. -/
theorem targetExecutions_eq (h : List Action) (w : ℕ) :
    targetExecutions generateId h w =
      targetSuccesses generateId h w + targetFailures generateId h w := by
  induction h with
  | nil => rfl
  | cons a h ih =>
    have hone : (if isTargetExecute generateId w a then 1 else 0) =
        (if isDirectSuccess w a then 1 else 0) +
          (if isRetrySuccess (generateId w) a then 1 else 0) +
          (if isDirectFailure w a then 1 else 0) +
          (if isRetryFailure (generateId w) a then 1 else 0) := by
      -- only an execution counts on either side, once each, by its outcome
      cases a with
      | spawn k => rfl
      | act w' b => cases b with
        | targetExecute q o =>
          cases o <;> simp [isTargetExecute, isDirectSuccess, isRetrySuccess, isDirectFailure,
            isRetryFailure]
        | _ => rfl
      | env e => cases e with
        | reload => rfl
        | retry b => cases b with
          | execute id q o =>
            cases o <;> simp [isTargetExecute, isDirectSuccess, isRetrySuccess, isDirectFailure,
              isRetryFailure, RetryAction.failed]
          | _ => rfl
    simp only [targetExecutions, targetSuccesses, targetFailures, retryFailures,
      List.countP_cons] at ih ⊢
    omega

/-! ## The current copy of an entry -/

namespace Writer

/-- The copy of the entry `id` that the next retry of it goes by: the one the cycle will
write back, the one in the snapshot, or else the one in the map. -/
def Current (m : Writer) (id : String) (fw : FailedWrite) : Prop :=
  (id, fw) ∈ m.todo ∨ (id, fw) ∈ m.toUpdate ∨
    (m.failedWrites.lookup id = some fw ∧ id ∉ m.toUpdate.map Prod.fst)

/-- How often the snapshot has the entry `id` still to be dealt with. -/
def waiting (m : Writer) (id : String) : ℕ := (m.todo.map Prod.fst).count id

theorem current_of_head {r : RetryCycle} {rest : List (String × FailedWrite)}
    (hcycle : m.retry = some r) (htodo : r.todo = (id, fw) :: rest) : m.Current id fw := by
  left
  simp only [todo, hcycle, htodo]
  exact List.mem_cons_self

/-- Between two cycles the map has the current copies. -/
theorem current_iff_lookup (hidle : m.retry = none) :
    m.Current id fw ↔ m.failedWrites.lookup id = some fw := by
  simp [Current, todo, toUpdate, hidle]

end Writer

/-! ## What a step of the retry thread counts -/

/-- A step that takes no entry into a cycle, and neither closes nor fails one. -/
structure RetryAction.Quiet (a : RetryAction) : Prop where
  closed : a.closed = none
  failed : a.failed = none
  opened : a.opened = []

/-- What a step of the retry thread does to the copies of the entries, and what it has
found out about `attempts` by then. -/
inductive AttemptMove (maxRetries : UInt32) (m m' : Writer) (a : RetryAction) : Prop where
  | snapshot (order : List String) (ha : a = .snapshot order) (hidle : m.retry = none)
      (hperm : order.Perm m.failedWrites.keys) (hqueue : m'.failedWrites = m.failedWrites)
      (hretry : m'.retry = some { todo := KVMap.entriesAt m.failedWrites order })
  | stay (r : RetryCycle) (stage : RetryStage) (hcycle : m.retry = some r) (hquiet : a.Quiet)
      (hqueue : m'.failedWrites = m.failedWrites)
      (hretry : m'.retry = some { r with stage := stage })
      (hcheck : r.stage ≠ .maxAttempts ∨
        ∃ id fw rest, r.todo = (id, fw) :: rest ∧ fw.attempts < maxRetries)
  | close (r : RetryCycle) (id : String) (fw : FailedWrite) (rest : List (String × FailedWrite))
      (hcycle : m.retry = some r) (htodo : r.todo = (id, fw) :: rest)
      (hclosed : a.closed = some id) (hqueue : m'.failedWrites = m.failedWrites)
      (hretry : m'.retry = some (r.remove id))
      (hcheck : isRetrySuccess id (.env (.retry a)) → r.stage ≠ .maxAttempts)
  | fail (r : RetryCycle) (id : String) (fw : FailedWrite) (rest : List (String × FailedWrite))
      (e : String) (hcycle : m.retry = some r) (htodo : r.todo = (id, fw) :: rest)
      (ha : a = .execute id fw.cql (.syncError e)) (hqueue : m'.failedWrites = m.failedWrites)
      (hretry : m'.retry = some (r.update id fw e)) (hcheck : r.stage ≠ .maxAttempts)
  | apply (r : RetryCycle) (hcycle : m.retry = some r) (htodo : r.todo = []) (hquiet : a.Quiet)
      (hqueue : m'.failedWrites =
        KVMap.insertAll (KVMap.eraseAll m.failedWrites r.toRemove) r.toUpdate)
      (hretry : m'.retry = none)

theorem retryStep_attemptMove (hstep : retryStep maxRetries m a = some m') :
    AttemptMove maxRetries m m' a := by
  cases a with
  | snapshot order =>
    obtain ⟨hidle, _, hperm, hm⟩ := retryStep_snapshot hstep
    subst hm
    exact .snapshot order rfl hidle hperm rfl rfl
  | abandon id =>
    obtain ⟨r, fw, rest, hr, _, hrest, _, hm⟩ := retryStep_abandon hstep
    subst hm
    exact .close r id fw rest hr hrest rfl rfl rfl (by simp [isRetrySuccess])
  | keep id =>
    obtain ⟨r, fw, rest, hr, _, hrest, hlt, hm⟩ := retryStep_keep hstep
    subst hm
    exact .stay r .gate hr ⟨rfl, rfl, rfl⟩ rfl rfl (Or.inr ⟨id, fw, rest, hrest, hlt⟩)
  | isEnabled =>
    obtain ⟨r, hr, hstage, hm⟩ := retryStep_isEnabled hstep
    subst hm
    exact .stay r _ hr ⟨rfl, rfl, rfl⟩ rfl rfl (Or.inl (by simp [hstage]))
  | drop id =>
    obtain ⟨r, fw, rest, hr, _, hrest, _, hm⟩ := retryStep_drop hstep
    subst hm
    exact .close r id fw rest hr hrest rfl (Writer.failedWrites_shouldSkipTable m fw.keyspace) rfl
      (by simp [isRetrySuccess])
  | pass id =>
    obtain ⟨r, fw, rest, hr, hstage, _, _, hm⟩ := retryStep_pass hstep
    subst hm
    exact .stay r .execute hr ⟨rfl, rfl, rfl⟩ (Writer.failedWrites_shouldSkipTable m fw.keyspace)
      rfl (Or.inl (by simp [hstage]))
  | execute id cql o =>
    obtain ⟨r, fw, rest, hr, hstage, hrest, hcql, hm⟩ := retryStep_execute hstep
    rcases hm with ⟨ho, hm⟩ | ⟨e, ho, hm⟩
    · subst hm ho
      exact .close r id fw rest hr hrest rfl rfl rfl (fun _ => by simp [hstage])
    · subst hm ho hcql
      exact .fail r id fw rest e hr hrest rfl rfl rfl (by simp [hstage])
  | apply =>
    obtain ⟨r, hr, htodo, hm⟩ := retryStep_apply hstep
    subst hm
    exact .apply r hr htodo ⟨rfl, rfl, rfl⟩ rfl rfl

/-- What closes an entry takes none into a cycle and fails none. -/
theorem RetryAction.of_closed (hclosed : a.closed = some id) : a.failed = none ∧ a.opened = [] := by
  cases a with
  | execute id' q o => cases o with
    | ok => exact ⟨rfl, rfl⟩
    | syncError e => exact absurd hclosed (by simp [RetryAction.closed])
  | snapshot order => exact absurd hclosed (by simp [RetryAction.closed])
  | _ => exact ⟨rfl, rfl⟩

/-! ## The invariant -/

structure AttemptInv (generateId : ℕ → String) (maxRetries : UInt32) (h : List Action)
    (m : Writer) : Prop where
  fresh : ∀ w, ¬ Enqueued h w → retryFailures h (generateId w) = 0
  counted : ∀ id fw, m.Current id fw → fw.attempts.toNat = retryFailures h id + 1
  checked : ∀ r id fw rest, m.retry = some r → r.stage ≠ .maxAttempts →
    r.todo = (id, fw) :: rest → fw.attempts < maxRetries
  bounded : ∀ id, retryFailures h id + h.countP (isRetrySuccess id) + 1 ≤ max 1 maxRetries.toNat
  opened : ∀ id, snapshots h id = retryFailures h id + closings h id + m.waiting id

theorem attemptInv_init (filter : Option BlacklistFilterGovernor) :
    AttemptInv generateId maxRetries [] { filter := filter } where
  fresh _ _ := rfl
  counted id fw hcur := by
    rw [Writer.current_iff_lookup rfl] at hcur
    simp at hcur
  checked r id fw rest hcycle := by simp at hcycle
  bounded id := by
    show 0 + 0 + 1 ≤ max 1 maxRetries.toNat
    omega
  opened _ := rfl

/-- An action that is not a step of the retry thread and does not enqueue. -/
theorem AttemptInv.frame (hinv : AttemptInv generateId maxRetries h m) {b : Action}
    (hqueue : m'.failedWrites = m.failedWrites) (hretry : m'.retry = m.retry)
    (hb : ∀ a, b ≠ .env (.retry a)) (henq : ∀ w, b ≠ .act w .enqueue) :
    AttemptInv generateId maxRetries (h ++ [b]) m' := by
  -- no count is about such an action
  have hquiet : ∀ id, isRetryFailure id b = false ∧ isSnapshotOf id b = false ∧
      isRetrySuccess id b = false ∧ closedId b = none := by
    intro id
    cases b with
    | env e => cases e with
      | retry a => exact absurd rfl (hb a)
      | reload => exact ⟨rfl, rfl, rfl, rfl⟩
    | _ => exact ⟨rfl, rfl, rfl, rfl⟩
  have hfail : ∀ id, retryFailures (h ++ [b]) id = retryFailures h id := by
    intro id
    rw [retryFailures_concat, (hquiet id).1]
    rfl
  have hcur : ∀ id fw, m'.Current id fw ↔ m.Current id fw := by
    intro id fw
    simp only [Writer.Current, Writer.todo, Writer.toUpdate, hqueue, hretry]
  refine ⟨?_, ?_, ?_, ?_, ?_⟩
  · intro w hw
    rw [hfail]
    exact hinv.fresh w fun he => hw (List.mem_append_left _ he)
  · intro id fw hc
    rw [hfail]
    exact hinv.counted id fw ((hcur id fw).mp hc)
  · intro r id fw rest hcycle
    exact hinv.checked r id fw rest (hretry ▸ hcycle)
  · intro id
    rw [hfail, List.countP_append, List.countP_singleton, (hquiet id).2.2.1]
    exact hinv.bounded id
  · intro id
    have hwait : m'.waiting id = m.waiting id := by
      simp only [Writer.waiting, Writer.todo, hretry]
    rw [hfail, snapshots_concat, (hquiet id).2.1, closings_concat_of_none _ (hquiet id).2.2.2,
      hwait]
    exact hinv.opened id

/-- The entry of a new id starts at one attempt, and no retry of it has failed. -/
theorem AttemptInv.enqueue (hinv : AttemptInv generateId maxRetries h m)
    (hqueue : QueueInv generateId h m) (hgen : Function.Injective generateId)
    {cql keyspace e : String} (hw : ¬ Enqueued h w) :
    AttemptInv generateId maxRetries (h ++ [(.act w .enqueue : Action)])
      (m.enqueueFailedWrite (generateId w) cql keyspace e) := by
  have hfail : ∀ id, retryFailures (h ++ [(.act w .enqueue : Action)]) id = retryFailures h id := by
    intro id
    rw [retryFailures_concat]
    rfl
  refine ⟨?_, ?_, hinv.checked, ?_, ?_⟩
  · intro w' hw'
    rw [hfail]
    exact hinv.fresh w' fun he => hw' (List.mem_append_left _ he)
  · intro id fw hcur
    rw [hfail]
    by_cases hid : id = generateId w
    · subst hid
      -- the new entry is the only copy under its id, and starts with the one failure of the call
      rcases hcur with htodo | hup | hmap
      · exact hinv.counted _ fw (Or.inl htodo)
      · exact hinv.counted _ fw (Or.inr (Or.inl hup))
      · rw [Writer.lookup_enqueue_self (hqueue.fresh hgen hw)] at hmap
        rw [← Option.some.inj hmap.1, hinv.fresh w hw]
        rfl
    · refine hinv.counted id fw ?_
      rcases hcur with htodo | hup | hmap
      · exact Or.inl htodo
      · exact Or.inr (Or.inl hup)
      · rw [Writer.lookup_enqueue_ne hid] at hmap
        exact Or.inr (Or.inr hmap)
  · intro id
    rw [hfail, List.countP_append, List.countP_singleton]
    exact hinv.bounded id
  · intro id
    rw [hfail, snapshots_concat, closings_concat_of_none _ rfl]
    exact hinv.opened id

/-! ## The steps of the retry thread -/

/-- The entry a cycle is at has not been disposed of. -/
theorem QueueInv.closings_of_head (hqueue : QueueInv generateId h m) {r : RetryCycle}
    {rest : List (String × FailedWrite)} (hcycle : m.retry = some r)
    (htodo : r.todo = (id, fw) :: rest) : closings h id = 0 := by
  obtain ⟨w, hid, _, _⟩ := hqueue.owned id fw (Writer.hasCopy_of_head hcycle htodo)
  have hhand : id ∈ m.inHand := by
    rw [Writer.inHand_of_head hcycle htodo]
    exact List.mem_cons_self
  have hrem : id ∉ m.toRemove := by
    simp only [Writer.toRemove, hcycle]
    exact hqueue.head_notMem_toRemove hcycle htodo
  subst hid
  exact hqueue.opened w fun _ => ⟨hqueue.present _ hhand, hrem⟩

/-- An entry waits in the snapshot at most once. -/
theorem QueueInv.waiting_le_one (hqueue : QueueInv generateId h m) (id : String) :
    m.waiting id ≤ 1 :=
  List.nodup_iff_count_le_one.mp hqueue.nodup.of_append_left id

/-- What waits in the snapshot is pending. -/
theorem QueueInv.waiting_of_not_pending (hqueue : QueueInv generateId h m)
    (hp : ¬ m.Pending id) : m.waiting id = 0 := by
  unfold Writer.waiting
  rw [List.count_eq_zero]
  intro htodo
  refine hp ⟨hqueue.present id (List.mem_append_left _ htodo), ?_⟩
  intro hrem
  exact List.disjoint_of_nodup_append hqueue.nodup htodo (List.mem_append_left _ hrem)

/-- A step of the retry thread that fails no entry: what it takes into the cycle or closes
is what comes to wait in the snapshot or leaves it. -/
theorem AttemptInv.retry_of_none (hinv : AttemptInv generateId maxRetries h m)
    (hfailed : a.failed = none) (hcur : ∀ id fw, m'.Current id fw → m.Current id fw)
    (hchecked : ∀ r id fw rest, m'.retry = some r → r.stage ≠ .maxAttempts →
      r.todo = (id, fw) :: rest → fw.attempts < maxRetries)
    (hbounded : ∀ id, isRetrySuccess id (.env (.retry a)) →
      retryFailures h id + h.countP (isRetrySuccess id) + 2 ≤ max 1 maxRetries.toNat)
    (hwaiting : ∀ id, (if a.closed = some id then 1 else 0) + m'.waiting id =
      (if id ∈ a.opened then 1 else 0) + m.waiting id) :
    AttemptInv generateId maxRetries (h ++ [(.env (.retry a) : Action)]) m' := by
  have hfail : ∀ id, retryFailures (h ++ [(.env (.retry a) : Action)]) id =
      retryFailures h id := by
    intro id
    rw [retryFailures_concat, if_neg]
    · omega
    · rw [isRetryFailure_retry, hfailed]
      simp
  refine ⟨?_, ?_, hchecked, ?_, ?_⟩
  · intro w hw
    rw [hfail]
    exact hinv.fresh w fun he => hw (enqueued_concat_retry.mpr he)
  · intro id fw hc
    rw [hfail]
    exact hinv.counted id fw (hcur id fw hc)
  · intro id
    rw [hfail, List.countP_append, List.countP_singleton]
    have hold := hinv.bounded id
    split
    next hok =>
      have hnew := hbounded id hok
      omega
    · omega
  · intro id
    have hold := hinv.opened id
    -- taken in and closed balance against what waits in the snapshot
    have hmove := hwaiting id
    rw [hfail, snapshots_concat, closings_concat, closedId_retry]
    simp only [isSnapshotOf_retry]
    omega

theorem isRetrySuccess_of_closed_none (hclosed : a.closed = none) :
    ¬ isRetrySuccess id (.env (.retry a)) := by
  rw [isRetrySuccess_iff]
  rintro ⟨q, heq⟩
  have ha : a = .execute id q .ok := by injection heq with h'; injection h'
  rw [ha] at hclosed
  exact absurd hclosed (by simp [RetryAction.closed])

theorem AttemptInv.snapshot (hinv : AttemptInv generateId maxRetries h m) {order : List String}
    (hidle : m.retry = none) (hperm : order.Perm m.failedWrites.keys)
    (hqueue : m'.failedWrites = m.failedWrites)
    (hretry : m'.retry = some { todo := KVMap.entriesAt m.failedWrites order }) :
    AttemptInv generateId maxRetries (h ++ [(.env (.retry (.snapshot order)) : Action)]) m' := by
  refine hinv.retry_of_none rfl ?_ ?_ ?_ ?_
  · intro id fw hcur
    rw [Writer.current_iff_lookup hidle]
    simp only [Writer.Current, Writer.todo, Writer.toUpdate, hqueue, hretry, List.not_mem_nil,
      false_or] at hcur
    rcases hcur with htodo | hmap
    · exact (KVMap.mem_entriesAt.mp htodo).2
    · exact hmap.1
  · intro r id fw rest hcycle hstage
    rw [hretry, Option.some.injEq] at hcycle
    exact absurd (by rw [← hcycle]) hstage
  · intro id hok
    exact absurd hok (isRetrySuccess_of_closed_none rfl)
  · intro id
    have hkeys : ∀ id ∈ order, id ∈ m.failedWrites := fun id hid => hperm.mem_iff.mp hid
    have hnodup : order.Nodup := hperm.nodup_iff.mpr (AList.keys_nodup _)
    simp only [Writer.waiting, Writer.todo, hretry, hidle, KVMap.map_fst_entriesAt hkeys,
      RetryAction.closed, RetryAction.opened]
    by_cases hid : id ∈ order
    · simp [hid, List.count_eq_one_of_mem hnodup hid]
    · simp [hid, List.count_eq_zero_of_not_mem hid]

theorem AttemptInv.stay (hinv : AttemptInv generateId maxRetries h m) {r : RetryCycle}
    {stage : RetryStage} (hcycle : m.retry = some r) (hquiet : a.Quiet)
    (hqueue : m'.failedWrites = m.failedWrites)
    (hretry : m'.retry = some { r with stage := stage })
    (hcheck : r.stage ≠ .maxAttempts ∨
      ∃ id fw rest, r.todo = (id, fw) :: rest ∧ fw.attempts < maxRetries) :
    AttemptInv generateId maxRetries (h ++ [(.env (.retry a) : Action)]) m' := by
  refine hinv.retry_of_none hquiet.failed ?_ ?_ ?_ ?_
  · intro id fw hcur
    simpa only [Writer.Current, Writer.todo, Writer.toUpdate, hqueue, hretry, hcycle] using hcur
  · intro r' id fw rest hcycle' _ htodo
    rw [hretry, Option.some.injEq] at hcycle'
    subst hcycle'
    rcases hcheck with hstage | hex
    · exact hinv.checked r id fw rest hcycle hstage htodo
    · obtain ⟨id', fw', rest', htodo', hlt⟩ := hex
      have hhead : (id, fw) = (id', fw') := (List.cons.inj (htodo.symm.trans htodo')).1
      rw [(Prod.mk.inj hhead).2]
      exact hlt
  · intro id hok
    exact absurd hok (isRetrySuccess_of_closed_none hquiet.closed)
  · intro id
    simp [Writer.waiting, Writer.todo, hretry, hcycle, hquiet.closed, hquiet.opened]

/-- The head of the snapshot leaves it for good. A successful retry comes after the check
against `max_retries`, so the limit had one more execution to give. -/
theorem AttemptInv.close (hinv : AttemptInv generateId maxRetries h m)
    (hqueueInv : QueueInv generateId h m) {r : RetryCycle} {rest : List (String × FailedWrite)}
    (hcycle : m.retry = some r) (htodo : r.todo = (id, fw) :: rest)
    (hclosed : a.closed = some id) (hqueue : m'.failedWrites = m.failedWrites)
    (hretry : m'.retry = some (r.remove id))
    (hcheck : isRetrySuccess id (.env (.retry a)) → r.stage ≠ .maxAttempts) :
    AttemptInv generateId maxRetries (h ++ [(.env (.retry a) : Action)]) m' := by
  refine hinv.retry_of_none (RetryAction.of_closed hclosed).1 ?_ ?_ ?_ ?_
  · intro id' fw' hcur
    simp only [Writer.Current, Writer.todo, Writer.toUpdate, hqueue, hretry, hcycle,
      RetryCycle.remove, htodo, List.tail_cons, List.mem_cons] at hcur ⊢
    tauto
  · intro r' id' fw' rest' hcycle' hstage
    rw [hretry, Option.some.injEq] at hcycle'
    exact absurd (by rw [← hcycle']; rfl) hstage
  · intro id' hok
    obtain ⟨q, heq⟩ := isRetrySuccess_iff.mp hok
    have ha : a = .execute id' q .ok := by injection heq with h'; injection h'
    have hid : id' = id := by
      rw [ha] at hclosed
      exact Option.some.inj hclosed
    subst hid
    -- `attempts` was below the limit, and it is one more than the retries that have failed
    have hlt := UInt32.lt_iff_toNat_lt.mp (hinv.checked r _ fw rest hcycle (hcheck hok) htodo)
    have hcount := hinv.counted _ fw (Writer.current_of_head hcycle htodo)
    have hopen := hqueueInv.closings_of_head hcycle htodo
    have hclosings := closings_eq h id'
    omega
  · intro id'
    simp only [Writer.waiting, Writer.todo, hretry, hcycle, RetryCycle.remove, htodo,
      List.tail_cons, List.map_cons, List.count_cons, hclosed, Option.some.injEq, beq_iff_eq,
      (RetryAction.of_closed hclosed).2, List.not_mem_nil, if_false]
    omega

/-- The second critical section makes the updated copies the ones in the map. -/
theorem AttemptInv.apply (hinv : AttemptInv generateId maxRetries h m)
    (hqueueInv : QueueInv generateId h m) {r : RetryCycle} (hcycle : m.retry = some r)
    (htodo : r.todo = []) (hquiet : a.Quiet)
    (hqueue : m'.failedWrites =
      KVMap.insertAll (KVMap.eraseAll m.failedWrites r.toRemove) r.toUpdate)
    (hretry : m'.retry = none) :
    AttemptInv generateId maxRetries (h ++ [(.env (.retry a) : Action)]) m' := by
  refine hinv.retry_of_none hquiet.failed ?_ ?_ ?_ ?_
  · intro id fw hcur
    rw [Writer.current_iff_lookup hretry] at hcur
    simp only [Writer.Current, Writer.todo, Writer.toUpdate, hcycle]
    -- an updated entry has its update in the map, the others what they had
    by_cases hid : id ∈ r.toUpdate.map Prod.fst
    · obtain ⟨⟨id', fw'⟩, hmem, hfst⟩ := List.mem_map.mp hid
      subst hfst
      rw [hqueueInv.lookup_apply_of_mem hcycle htodo hqueue hmem] at hcur
      exact Or.inr (Or.inl (Option.some.inj hcur ▸ hmem))
    · rw [lookup_apply_of_notMem hqueue hid] at hcur
      by_cases hr : id ∈ r.toRemove
      · simp [hr] at hcur
      · rw [if_neg hr] at hcur
        exact Or.inr (Or.inr ⟨hcur, hid⟩)
  · intro r' id fw rest hcycle'
    simp [hretry] at hcycle'
  · intro id hok
    exact absurd hok (isRetrySuccess_of_closed_none hquiet.closed)
  · intro id
    simp [Writer.waiting, Writer.todo, hretry, hcycle, htodo, hquiet.closed, hquiet.opened]

/-- A counter below some limit is incremented without wrapping. -/
theorem toNat_succ_of_lt {attempts limit : UInt32} (hlt : attempts < limit) :
    (attempts + 1).toNat = attempts.toNat + 1 := by
  have hlimit := limit.toNat_lt
  rw [UInt32.lt_iff_toNat_lt] at hlt
  rw [UInt32.toNat_add, Nat.mod_eq_of_lt]
  · rfl
  · show attempts.toNat + 1 < 2 ^ 32
    omega

/-- The current copies after a failed retry: the new one of the entry retried, and those of
the other entries. -/
theorem QueueInv.current_of_fail (hqueueInv : QueueInv generateId h m) {r : RetryCycle}
    {rest : List (String × FailedWrite)} {e : String} (hcycle : m.retry = some r)
    (htodo : r.todo = (id, fw) :: rest) (hqueue : m'.failedWrites = m.failedWrites)
    (hretry : m'.retry = some (r.update id fw e)) {id' : String} {fw' : FailedWrite}
    (hcur : m'.Current id' fw') :
    (id ≠ id' ∧ m.Current id' fw') ∨ (id = id' ∧ fw'.attempts = fw.attempts + 1) := by
  have hnodup := hqueueInv.nodup
  rw [Writer.inHand_of_head hcycle htodo, List.nodup_cons, List.mem_append, List.mem_append,
    not_or, not_or] at hnodup
  obtain ⟨⟨hrest, _, hup⟩, _⟩ := hnodup
  simp only [Writer.Current, Writer.todo, Writer.toUpdate, hqueue, hretry, RetryCycle.update,
    htodo, List.tail_cons, List.mem_append, List.mem_singleton, List.map_append, List.map_cons,
    List.map_nil, Prod.mk.injEq, not_or] at hcur
  simp only [Writer.Current, Writer.todo, Writer.toUpdate, hcycle]
  -- the cycle has each id in hand once, so a copy it had before is one of another entry
  rcases hcur with hin | (hin | hnew) | hmap
  · refine Or.inl ⟨?_, Or.inl (htodo ▸ List.mem_cons_of_mem _ hin)⟩
    rintro rfl
    exact hrest (List.mem_map_of_mem hin)
  · refine Or.inl ⟨?_, Or.inr (Or.inl hin)⟩
    rintro rfl
    exact hup (List.mem_map_of_mem hin)
  · exact Or.inr ⟨hnew.1.symm, by rw [hnew.2]⟩
  · exact Or.inl ⟨Ne.symm hmap.2.2, Or.inr (Or.inr ⟨hmap.1, hmap.2.1⟩)⟩

/-- A failed retry: the copy in `to_update` counts one more attempt, and the check before
the attempt has left room for it, so the counter does not wrap. -/
theorem AttemptInv.fail (hinv : AttemptInv generateId maxRetries h m)
    (hqueueInv : QueueInv generateId h m) (hgen : Function.Injective generateId)
    {r : RetryCycle} {rest : List (String × FailedWrite)} {e : String}
    (hcycle : m.retry = some r) (htodo : r.todo = (id, fw) :: rest)
    (ha : a = .execute id fw.cql (.syncError e)) (hqueue : m'.failedWrites = m.failedWrites)
    (hretry : m'.retry = some (r.update id fw e)) (hcheck : r.stage ≠ .maxAttempts) :
    AttemptInv generateId maxRetries (h ++ [(.env (.retry a) : Action)]) m' := by
  have hlt := hinv.checked r id fw rest hcycle hcheck htodo
  have hcount := hinv.counted id fw (Writer.current_of_head hcycle htodo)
  have hfail : ∀ id', retryFailures (h ++ [(.env (.retry a) : Action)]) id' =
      retryFailures h id' + if id = id' then 1 else 0 := by
    intro id'
    rw [retryFailures_concat, ha]
    simp only [isRetryFailure_retry, RetryAction.failed, Option.some.injEq]
  have hsuccess : ∀ id', (h ++ [(.env (.retry a) : Action)]).countP (isRetrySuccess id') =
      h.countP (isRetrySuccess id') := by
    intro id'
    rw [List.countP_append, List.countP_singleton, ha, if_neg]
    · omega
    · exact isRetrySuccess_of_closed_none rfl
  refine ⟨?_, ?_, ?_, ?_, ?_⟩
  · intro w hw
    obtain ⟨w', hid, henq, _⟩ := hqueueInv.owned id fw (Writer.hasCopy_of_head hcycle htodo)
    -- the id of the head belongs to a call that has enqueued
    have hne : id ≠ generateId w := by
      intro heq
      have hww : w' = w := hgen (hid.trans heq)
      exact hw (enqueued_concat_retry.mpr (hww ▸ henq))
    rw [hfail, if_neg hne]
    exact hinv.fresh w fun he => hw (enqueued_concat_retry.mpr he)
  · intro id' fw' hcur
    rw [hfail]
    rcases hqueueInv.current_of_fail hcycle htodo hqueue hretry hcur with hold | hnew
    · rw [if_neg hold.1]
      exact hinv.counted id' fw' hold.2
    · rw [if_pos hnew.1, hnew.2, toNat_succ_of_lt hlt, hcount, hnew.1]
  · intro r' id' fw' rest' hcycle' hstage
    rw [hretry, Option.some.injEq] at hcycle'
    exact absurd (by rw [← hcycle']; rfl) hstage
  · intro id'
    have hbound := hinv.bounded id'
    rw [hfail, hsuccess]
    by_cases heq : id = id'
    · -- the entry is open, so no retry of it has succeeded
      subst heq
      have hclosings := closings_eq h id
      rw [hqueueInv.closings_of_head hcycle htodo] at hclosings
      rw [UInt32.lt_iff_toNat_lt] at hlt
      rw [if_pos rfl]
      omega
    · rw [if_neg heq]
      omega
  · intro id'
    have hopen := hinv.opened id'
    rw [hfail, snapshots_concat, closings_concat_of_none _ (by rw [ha]; rfl), if_neg]
    · simp only [Writer.waiting, Writer.todo, hretry, hcycle, RetryCycle.update, htodo,
        List.tail_cons, List.map_cons, List.count_cons, beq_iff_eq] at hopen ⊢
      omega
    · rw [isSnapshotOf_retry, ha]
      simp [RetryAction.opened]

theorem AttemptInv.retry (hinv : AttemptInv generateId maxRetries h m)
    (hqueueInv : QueueInv generateId h m) (hgen : Function.Injective generateId)
    (hmove : AttemptMove maxRetries m m' a) :
    AttemptInv generateId maxRetries (h ++ [(.env (.retry a) : Action)]) m' := by
  cases hmove with
  | snapshot order ha hidle hperm hqueue hretry =>
    subst ha
    exact hinv.snapshot hidle hperm hqueue hretry
  | stay r stage hcycle hquiet hqueue hretry hcheck =>
    exact hinv.stay hcycle hquiet hqueue hretry hcheck
  | close r id fw rest hcycle htodo hclosed hqueue hretry hcheck =>
    exact hinv.close hqueueInv hcycle htodo hclosed hqueue hretry hcheck
  | fail r id fw rest e hcycle htodo ha hqueue hretry hcheck =>
    exact hinv.fail hqueueInv hgen hcycle htodo ha hqueue hretry hcheck
  | apply r hcycle htodo hquiet hqueue hretry =>
    exact hinv.apply hqueueInv hcycle htodo hquiet hqueue hretry

/-- The counter and the history agree in every run. -/
theorem attemptInv_of_runs (hgen : Function.Injective generateId)
    {filter : Option BlacklistFilterGovernor} {p : State}
    (hrun : runs generateId maxRetries filter h = some p) :
    AttemptInv generateId maxRetries h p.mem := by
  have hstep : ∀ h p b p', runs generateId maxRetries filter h = some p →
      AttemptInv generateId maxRetries h p.mem →
      Pool.step (program generateId maxRetries) p b = some p' →
      AttemptInv generateId maxRetries (h ++ [b]) p'.mem := by
    intro h p b p' hrun hinv hstep
    have hshadow := shadowInv_of_runs hgen hrun
    cases b with
    | spawn k =>
      rw [Pool.step_spawn hstep]
      exact hinv.frame rfl rfl (by simp) (by simp)
    | act w b =>
      obtain ⟨c, m, c', hc, hthread, hp⟩ := Pool.step_act hstep
      subst hp
      by_cases hb : b = .enqueue
      · subst hb
        obtain ⟨e, hpc, hm, _⟩ := callStep_enqueue hthread
        have hst := (hshadow.2 w c hc).stage
        rw [stageInv, hpc] at hst
        subst hm
        exact hinv.enqueue hshadow.1.queue hgen hst.1.2
      · obtain ⟨hqueue, hretry⟩ := callStep_queue hthread hb
        exact hinv.frame hqueue hretry (by simp) (by simp [hb])
    | env e =>
      obtain ⟨m, henv, hp⟩ := Pool.step_env hstep
      subst hp
      cases e with
      | retry a => exact hinv.retry hshadow.1.queue hgen (retryStep_attemptMove henv)
      | reload =>
        have hm := Option.some.inj henv
        subst hm
        exact hinv.frame rfl rfl (by simp) (by simp)
  exact @run_invariant_of_run _ _ (Pool.step (program generateId maxRetries)) (initial filter)
    (fun h p => AttemptInv generateId maxRetries h p.mem) (attemptInv_init filter) hstep h p hrun

end DualWriter
end ScyllaClusterSync
