import ScyllaClusterSync.DualWriter.RetryBoundTheorems
import ScyllaClusterSync.DualWriter.WriterCountersTheorems
import ScyllaClusterSync.Lib.Potential

/-!
# The retry queue drains

The retry thread cannot go on for ever on what was queued once: every step it takes is paid
for, and each queued write pays for `6 * max 1 max_retries` of them. An entry has six for
each cycle it may still be in: the snapshot, the four steps of its checks and its execution,
and the apply step. The thread is not stuck either while there is something to do, so that
it comes to rest on an empty queue (`retry_thread_drains`).
-/

namespace ScyllaClusterSync
namespace DualWriter

open Svckit Lib

/-- A step of the retry thread. -/
def isRetryStep : Action → Bool
  | .env (.retry _) => true
  | _ => false

/-! ## The steps an entry still has -/

/-- The cycles that may still retry the entry, in steps. -/
def retriesLeft (maxRetries : UInt32) (fw : FailedWrite) : ℕ :=
  6 * (maxRetries.toNat - fw.attempts.toNat)

/-- The steps on the entry at the head of the snapshot from this stage on. -/
def RetryStage.stepsLeft : RetryStage → ℕ
  | .maxAttempts => 4
  | .gate => 3
  | .tableCheck => 2
  | .execute => 1

/-- The steps on the entries of the snapshot, the cycle being at this stage of the first. -/
def todoSteps (maxRetries : UInt32) (stage : RetryStage) : List (String × FailedWrite) → ℕ
  | [] => 0
  | (_, fw) :: rest => retriesLeft maxRetries fw + stage.stepsLeft +
    (rest.map fun e => retriesLeft maxRetries e.2 + 4).sum

/-- The steps for a waiting entry: those of one more cycle than may retry it. -/
def entrySteps (maxRetries : UInt32) (fw : FailedWrite) : ℕ := retriesLeft maxRetries fw + 6

/-- The steps for the entry of the map under this id. -/
def lookupSteps (maxRetries : UInt32) (m : Writer) (id : String) : ℕ :=
  (m.failedWrites.lookup id).elim 0 (entrySteps maxRetries)

/-- The steps for the entries that no cycle has in hand. -/
def queueSteps (maxRetries : UInt32) (m : Writer) : ℕ :=
  ∑ id ∈ m.failedWrites.keys.toFinset \ m.inHand.toFinset, lookupSteps maxRetries m id

/-- The steps of the cycle in progress and of the entries it will write back. -/
def cycleSteps (maxRetries : UInt32) : Option RetryCycle → ℕ
  | none => 0
  | some r => todoSteps maxRetries r.stage r.todo +
    (r.toUpdate.map fun e => entrySteps maxRetries e.2).sum + 1

/-- The steps the retry thread can still take without anything being queued. -/
def stepsLeft (maxRetries : UInt32) (m : Writer) : ℕ :=
  queueSteps maxRetries m + cycleSteps maxRetries m.retry

variable {generateId : ℕ → String} {maxRetries : UInt32} {h : List Action} {m m' : Writer}
  {r : RetryCycle} {id : String} {fw : FailedWrite} {rest : List (String × FailedWrite)}

theorem todoSteps_cons (stage : RetryStage) :
    todoSteps maxRetries stage ((id, fw) :: rest) =
      retriesLeft maxRetries fw + stage.stepsLeft +
        (rest.map fun e => retriesLeft maxRetries e.2 + 4).sum := rfl

/-- A snapshot in front of its first entry. -/
theorem todoSteps_start (todo : List (String × FailedWrite)) :
    todoSteps maxRetries .maxAttempts todo =
      (todo.map fun e => retriesLeft maxRetries e.2 + 4).sum := by
  cases todo with
  | nil => rfl
  | cons e rest => rfl

theorem queueSteps_congr (hqueue : m'.failedWrites = m.failedWrites)
    (hhand : ∀ id, id ∈ m'.inHand ↔ id ∈ m.inHand) :
    queueSteps maxRetries m' = queueSteps maxRetries m := by
  have hset : m'.inHand.toFinset = m.inHand.toFinset := by
    ext id
    simp only [List.mem_toFinset, hhand]
  simp only [queueSteps, lookupSteps, hqueue, hset]

theorem stepsLeft_congr (hqueue : m'.failedWrites = m.failedWrites)
    (hretry : m'.retry = m.retry) : stepsLeft maxRetries m' = stepsLeft maxRetries m := by
  have hhand : m'.inHand = m.inHand := by
    simp only [Writer.inHand, Writer.todo, Writer.toRemove, Writer.toUpdate, hretry]
  rw [stepsLeft, stepsLeft, queueSteps_congr hqueue fun id => by rw [hhand], hretry]

/-! ## One step of the retry thread -/

/-- The snapshot takes every entry in hand, and an entry has two steps to spare then. -/
theorem stepsLeft_snapshot {order : List String} (hidle : m.retry = none) (hne : order ≠ [])
    (hperm : order.Perm m.failedWrites.keys) (hqueue : m'.failedWrites = m.failedWrites)
    (hretry : m'.retry = some { todo := KVMap.entriesAt m.failedWrites order }) :
    1 + stepsLeft maxRetries m' ≤ stepsLeft maxRetries m := by
  have hkeys : ∀ id ∈ order, id ∈ m.failedWrites := fun id hid => hperm.mem_iff.mp hid
  have hhand : m'.inHand = order := by
    simp [Writer.inHand, Writer.todo, Writer.toRemove, Writer.toUpdate, hretry,
      KVMap.map_fst_entriesAt hkeys]
  have hidleHand : m.inHand = [] := by
    simp [Writer.inHand, Writer.todo, Writer.toRemove, Writer.toUpdate, hidle]
  have hnone : queueSteps maxRetries m' = 0 := by
    rw [queueSteps, hqueue, hhand, List.toFinset_eq_of_perm _ _ hperm, Finset.sdiff_self,
      Finset.sum_empty]
  have hall : queueSteps maxRetries m = (order.map (lookupSteps maxRetries m)).sum := by
    rw [queueSteps, hidleHand, List.toFinset_nil, Finset.sdiff_empty,
      List.sum_toFinset _ (AList.keys_nodup _)]
    exact ((hperm.map _).sum_eq).symm
  -- entry by entry, what is in the map against what is in the snapshot
  have hentries : ∀ ks : List String, (∀ id ∈ ks, id ∈ m.failedWrites) →
      ((KVMap.entriesAt m.failedWrites ks).map fun e => retriesLeft maxRetries e.2 + 4).sum +
        2 * ks.length = (ks.map (lookupSteps maxRetries m)).sum := by
    intro ks hks
    induction ks with
    | nil => rfl
    | cons k ks ih =>
      obtain ⟨fw, hfw⟩ := Option.isSome_iff_exists.mp (AList.lookup_isSome.mpr (hks k (by simp)))
      have htail := ih fun id hid => hks id (List.mem_cons_of_mem _ hid)
      have hcons : KVMap.entriesAt m.failedWrites (k :: ks) =
          (k, fw) :: KVMap.entriesAt m.failedWrites ks := by
        simp [KVMap.entriesAt, hfw]
      have hhead : lookupSteps maxRetries m k = retriesLeft maxRetries fw + 6 := by
        rw [lookupSteps, hfw]
        rfl
      rw [hcons, List.map_cons, List.map_cons, List.sum_cons, List.sum_cons, List.length_cons,
        hhead]
      show retriesLeft maxRetries fw + 4 + _ + 2 * (ks.length + 1) = _
      omega
  have hsum := hentries order hkeys
  have hpos := List.length_pos_of_ne_nil hne
  rw [stepsLeft, stepsLeft, hnone, hall, hretry, hidle]
  simp only [cycleSteps, todoSteps_start, List.map_nil, List.sum_nil]
  omega

/-- A check that is passed leaves the other steps on the entry. -/
theorem stepsLeft_stay {stage : RetryStage} (hcycle : m.retry = some r)
    (htodo : r.todo = (id, fw) :: rest) (hstage : stage.stepsLeft < r.stage.stepsLeft)
    (hqueue : m'.failedWrites = m.failedWrites)
    (hretry : m'.retry = some { r with stage := stage }) :
    1 + stepsLeft maxRetries m' ≤ stepsLeft maxRetries m := by
  have hhand : m'.inHand = m.inHand := by
    simp only [Writer.inHand, Writer.todo, Writer.toRemove, Writer.toUpdate, hretry, hcycle]
  rw [stepsLeft, stepsLeft, queueSteps_congr hqueue fun id => by rw [hhand], hretry, hcycle]
  simp only [cycleSteps, htodo, todoSteps_cons]
  omega

/-- An entry that leaves the snapshot for good has had at least one step left. -/
theorem stepsLeft_close (hcycle : m.retry = some r) (htodo : r.todo = (id, fw) :: rest)
    (hqueue : m'.failedWrites = m.failedWrites) (hretry : m'.retry = some (r.remove id)) :
    1 + stepsLeft maxRetries m' ≤ stepsLeft maxRetries m := by
  have hhand : ∀ id', id' ∈ m'.inHand ↔ id' ∈ m.inHand := by
    intro id'
    simp only [Writer.inHand, Writer.todo, Writer.toRemove, Writer.toUpdate, hretry, hcycle,
      RetryCycle.remove, htodo, List.tail_cons, List.map_cons, List.mem_append, List.mem_cons,
      List.not_mem_nil, or_false]
    tauto
  have hone : 0 < r.stage.stepsLeft := by
    cases r.stage <;> decide
  rw [stepsLeft, stepsLeft, queueSteps_congr hqueue hhand, hretry, hcycle]
  simp only [cycleSteps, RetryCycle.remove, htodo, List.tail_cons, todoSteps_cons,
    todoSteps_start]
  omega

/-- A failed retry has used up one of the cycles the entry had. -/
theorem stepsLeft_fail {e : String} (hcycle : m.retry = some r)
    (htodo : r.todo = (id, fw) :: rest) (hlt : fw.attempts < maxRetries)
    (hqueue : m'.failedWrites = m.failedWrites) (hretry : m'.retry = some (r.update id fw e)) :
    1 + stepsLeft maxRetries m' ≤ stepsLeft maxRetries m := by
  have hhand : ∀ id', id' ∈ m'.inHand ↔ id' ∈ m.inHand := by
    intro id'
    simp only [Writer.inHand, Writer.todo, Writer.toRemove, Writer.toUpdate, hretry, hcycle,
      RetryCycle.update, htodo, List.tail_cons, List.map_cons, List.map_append, List.mem_append,
      List.mem_cons, List.map_nil, List.not_mem_nil, or_false]
    tauto
  have hone : 0 < r.stage.stepsLeft := by
    cases r.stage <;> decide
  have hentry : entrySteps maxRetries { fw with attempts := fw.attempts + 1, error := e } =
      retriesLeft maxRetries fw := by
    have hsucc := toNat_succ_of_lt hlt
    rw [UInt32.lt_iff_toNat_lt] at hlt
    simp only [entrySteps, retriesLeft, hsucc]
    omega
  rw [stepsLeft, stepsLeft, queueSteps_congr hqueue hhand, hretry, hcycle]
  simp only [cycleSteps, RetryCycle.update, htodo, List.tail_cons, todoSteps_cons,
    todoSteps_start, List.map_append, List.sum_append, List.map_cons, List.map_nil,
    List.sum_cons, List.sum_nil, hentry]
  omega

/-- The apply step itself was the last one: what is written back waits as it did before. -/
theorem stepsLeft_apply (hinv : QueueInv generateId h m) (hcycle : m.retry = some r)
    (htodo : r.todo = [])
    (hqueue : m'.failedWrites =
      KVMap.insertAll (KVMap.eraseAll m.failedWrites r.toRemove) r.toUpdate)
    (hretry : m'.retry = none) :
    1 + stepsLeft maxRetries m' ≤ stepsLeft maxRetries m := by
  have hdone := hinv.nodup_of_done hcycle htodo
  have hhand := Writer.inHand_of_done hcycle htodo
  have hidleHand : m'.inHand = [] := by
    simp [Writer.inHand, Writer.todo, Writer.toRemove, Writer.toUpdate, hretry]
  have hkeys : m'.failedWrites.keys.toFinset ⊆
      (m.failedWrites.keys.toFinset \ m.inHand.toFinset) ∪
        (r.toUpdate.map Prod.fst).toFinset := by
    intro id hid
    rw [List.mem_toFinset, ← AList.mem_keys, ← AList.lookup_isSome] at hid
    by_cases hup : id ∈ r.toUpdate.map Prod.fst
    · exact Finset.mem_union_right _ (List.mem_toFinset.mpr hup)
    · rw [lookup_apply_of_notMem hqueue hup] at hid
      have hrem : id ∉ r.toRemove := by
        intro hrem
        simp [hrem] at hid
      rw [if_neg hrem, AList.lookup_isSome, AList.mem_keys] at hid
      refine Finset.mem_union_left _ (Finset.mem_sdiff.mpr ⟨List.mem_toFinset.mpr hid, ?_⟩)
      rw [hhand, List.mem_toFinset, List.mem_append]
      exact not_or.mpr ⟨hrem, hup⟩
  have hrest : ∑ id ∈ m.failedWrites.keys.toFinset \ m.inHand.toFinset,
      lookupSteps maxRetries m' id = queueSteps maxRetries m := by
    refine Finset.sum_congr rfl fun id hid => ?_
    rw [Finset.mem_sdiff, hhand, List.mem_toFinset, List.mem_toFinset, List.mem_append,
      not_or] at hid
    rw [lookupSteps, lookup_apply_of_notMem hqueue hid.2.2, if_neg hid.2.1, lookupSteps]
  have hupdated : ∑ id ∈ (r.toUpdate.map Prod.fst).toFinset, lookupSteps maxRetries m' id =
      (r.toUpdate.map fun e => entrySteps maxRetries e.2).sum := by
    rw [List.sum_toFinset _ hdone.1, List.map_map]
    congr 1
    refine List.map_congr_left fun e he => ?_
    show (m'.failedWrites.lookup e.1).elim 0 _ = _
    rw [hinv.lookup_apply_of_mem hcycle htodo hqueue he]
    rfl
  have hsum : queueSteps maxRetries m' ≤
      queueSteps maxRetries m + (r.toUpdate.map fun e => entrySteps maxRetries e.2).sum := by
    rw [queueSteps, hidleHand, List.toFinset_nil, Finset.sdiff_empty, ← hrest, ← hupdated]
    refine le_trans (Finset.sum_le_sum_of_subset hkeys) ?_
    rw [← Finset.sum_union_inter]
    exact Nat.le_add_right _ _
  rw [stepsLeft, stepsLeft, hretry, hcycle]
  simp only [cycleSteps, htodo, todoSteps]
  omega

/-- A queued write brings the steps of `max 1 max_retries` cycles with it. -/
theorem stepsLeft_enqueue (hinv : QueueInv generateId h m)
    (hgen : Function.Injective generateId) {w : ℕ} {cql keyspace e : String}
    (hw : ¬ Enqueued h w) :
    stepsLeft maxRetries (m.enqueueFailedWrite (generateId w) cql keyspace e) ≤
      stepsLeft maxRetries m + 6 * max 1 maxRetries.toNat := by
  have hfresh := hinv.fresh hgen hw
  have hnew : generateId w ∉ m.failedWrites := AList.lookup_eq_none.mp hfresh
  have hkeys : (m.enqueueFailedWrite (generateId w) cql keyspace e).failedWrites.keys.toFinset \
      m.inHand.toFinset ⊆
        insert (generateId w) (m.failedWrites.keys.toFinset \ m.inHand.toFinset) := by
    intro id hid
    simp only [Writer.enqueueFailedWrite, KVMap.emplace, if_neg hnew, Finset.mem_sdiff,
      List.mem_toFinset, ← AList.mem_keys, AList.mem_insert, Finset.mem_insert] at hid ⊢
    tauto
  have hold : ∑ id ∈ m.failedWrites.keys.toFinset \ m.inHand.toFinset,
      lookupSteps maxRetries (m.enqueueFailedWrite (generateId w) cql keyspace e) id =
        queueSteps maxRetries m := by
    refine Finset.sum_congr rfl fun id hid => ?_
    have hne : id ≠ generateId w := by
      rintro rfl
      exact hnew (AList.mem_keys.mpr (List.mem_toFinset.mp (Finset.mem_sdiff.mp hid).1))
    rw [lookupSteps, Writer.lookup_enqueue_ne hne, lookupSteps]
  have hentry : lookupSteps maxRetries (m.enqueueFailedWrite (generateId w) cql keyspace e)
      (generateId w) = 6 * max 1 maxRetries.toNat := by
    rw [lookupSteps, Writer.lookup_enqueue_self hfresh]
    show 6 * (maxRetries.toNat - 1) + 6 = _
    omega
  have hsum : queueSteps maxRetries (m.enqueueFailedWrite (generateId w) cql keyspace e) ≤
      queueSteps maxRetries m + 6 * max 1 maxRetries.toNat := by
    rw [← hold, ← hentry, add_comm]
    refine le_trans (Finset.sum_le_sum_of_subset hkeys) ?_
    rw [Finset.sum_insert]
    intro hin
    exact hnew (AList.mem_keys.mpr (List.mem_toFinset.mp (Finset.mem_sdiff.mp hin).1))
  rw [stepsLeft, stepsLeft]
  show _ + cycleSteps maxRetries m.retry ≤ _
  omega

/-! ## The checks are made on an entry -/

/-- A cycle at the end of its snapshot is not in the middle of the checks. -/
def AtEntry (m : Writer) : Prop := ∀ r, m.retry = some r → r.todo = [] → r.stage = .maxAttempts

theorem AtEntry.retry (hinv : AtEntry m) {a : RetryAction}
    (hstep : retryStep maxRetries m a = some m') : AtEntry m' := by
  intro r' hr' htodo'
  cases a with
  | snapshot order =>
    obtain ⟨_, _, _, rfl⟩ := retryStep_snapshot hstep
    exact (Option.some.inj hr') ▸ rfl
  | abandon id =>
    obtain ⟨r, fw, rest, _, _, _, _, rfl⟩ := retryStep_abandon hstep
    exact (Option.some.inj hr') ▸ rfl
  | keep id =>
    obtain ⟨r, fw, rest, _, _, htodo, _, rfl⟩ := retryStep_keep hstep
    obtain rfl := Option.some.inj hr'
    exact absurd (htodo.symm.trans htodo') (List.cons_ne_nil _ _)
  | isEnabled =>
    obtain ⟨r, hr, hstage, rfl⟩ := retryStep_isEnabled hstep
    obtain rfl := Option.some.inj hr'
    -- the gate is one of the checks, so there was an entry
    exact absurd (hinv r hr htodo') (by rw [hstage]; decide)
  | drop id =>
    obtain ⟨r, fw, rest, _, _, _, _, rfl⟩ := retryStep_drop hstep
    exact (Option.some.inj hr') ▸ rfl
  | pass id =>
    obtain ⟨r, fw, rest, _, _, htodo, _, rfl⟩ := retryStep_pass hstep
    obtain rfl := Option.some.inj hr'
    exact absurd (htodo.symm.trans htodo') (List.cons_ne_nil _ _)
  | execute id cql o =>
    obtain ⟨r, fw, rest, _, _, _, _, hm⟩ := retryStep_execute hstep
    obtain ⟨_, rfl⟩ | ⟨e, _, rfl⟩ := hm
    · exact (Option.some.inj hr') ▸ rfl
    · exact (Option.some.inj hr') ▸ rfl
  | apply =>
    obtain ⟨r, _, _, rfl⟩ := retryStep_apply hstep
    cases hr'

theorem atEntry_of_runs {filter : Option BlacklistFilterGovernor} {p : State}
    (hrun : runs generateId maxRetries filter h = some p) : AtEntry p.mem := by
  refine @run_invariant _ _ _ _ (fun _ p => AtEntry p.mem) ?_ ?_ h p hrun
  · intro r hr
    cases hr
  · intro _ p a p' hinv hstep
    cases a with
    | spawn k =>
      rw [Pool.step_spawn hstep]
      exact hinv
    | act w b =>
      obtain ⟨c, m, c', _, hthread, rfl⟩ := Pool.step_act hstep
      have hretry : m.retry = p.mem.retry := by
        by_cases hb : b = .enqueue
        · subst hb
          obtain ⟨e, _, rfl, _⟩ := callStep_enqueue hthread
          rfl
        · exact (callStep_queue hthread hb).2
      intro r hr
      exact hinv r (hretry ▸ hr)
    | env e =>
      obtain ⟨m, henv, rfl⟩ := Pool.step_env hstep
      cases e with
      | retry a => exact hinv.retry henv
      | reload =>
        obtain rfl := Option.some.inj henv
        exact hinv

/-! ## The result -/

theorem stepsLeft_retry {a : RetryAction} (hinv : AttemptInv generateId maxRetries h m)
    (hqueueInv : QueueInv generateId h m) (hat : AtEntry m)
    (hstep : retryStep maxRetries m a = some m') :
    1 + stepsLeft maxRetries m' ≤ stepsLeft maxRetries m := by
  cases a with
  | snapshot order =>
    obtain ⟨hidle, hne, hperm, rfl⟩ := retryStep_snapshot hstep
    exact stepsLeft_snapshot hidle hne hperm rfl rfl
  | abandon id =>
    obtain ⟨r, fw, rest, hr, _, htodo, _, rfl⟩ := retryStep_abandon hstep
    exact stepsLeft_close hr htodo rfl rfl
  | keep id =>
    obtain ⟨r, fw, rest, hr, hstage, htodo, _, rfl⟩ := retryStep_keep hstep
    exact stepsLeft_stay hr htodo (by rw [hstage]; decide) rfl rfl
  | isEnabled =>
    obtain ⟨r, hr, hstage, rfl⟩ := retryStep_isEnabled hstep
    have hne : r.todo ≠ [] := by
      intro htodo
      exact absurd (hat r hr htodo) (by rw [hstage]; decide)
    obtain ⟨e, rest, htodo⟩ := List.exists_cons_of_ne_nil hne
    refine stepsLeft_stay hr htodo ?_ rfl rfl
    rw [hstage]
    split <;> decide
  | drop id =>
    obtain ⟨r, fw, rest, hr, _, htodo, _, rfl⟩ := retryStep_drop hstep
    exact stepsLeft_close hr htodo (Writer.failedWrites_shouldSkipTable m _) rfl
  | pass id =>
    obtain ⟨r, fw, rest, hr, hstage, htodo, _, rfl⟩ := retryStep_pass hstep
    exact stepsLeft_stay hr htodo (by rw [hstage]; decide)
      (Writer.failedWrites_shouldSkipTable m _) rfl
  | execute id cql o =>
    obtain ⟨r, fw, rest, hr, hstage, htodo, _, hm⟩ := retryStep_execute hstep
    obtain ⟨_, rfl⟩ | ⟨e, _, rfl⟩ := hm
    · exact stepsLeft_close hr htodo rfl rfl
    · have hlt := hinv.checked r id fw rest hr (by rw [hstage]; decide) htodo
      exact stepsLeft_fail hr htodo hlt rfl rfl
  | apply =>
    obtain ⟨r, hr, htodo, rfl⟩ := retryStep_apply hstep
    exact stepsLeft_apply hqueueInv hr htodo rfl rfl

theorem stepsLeft_step (hgen : Function.Injective generateId)
    {filter : Option BlacklistFilterGovernor} {p p' : State} {a : Action}
    (hrun : runs generateId maxRetries filter h = some p)
    (hstep : Pool.step (program generateId maxRetries) p a = some p') :
    (if isRetryStep a then 1 else 0) + stepsLeft maxRetries p'.mem ≤
      stepsLeft maxRetries p.mem + if isEnqueue a then 6 * max 1 maxRetries.toNat else 0 := by
  have hshadow := shadowInv_of_runs hgen hrun
  cases a with
  | spawn k =>
    rw [Pool.step_spawn hstep]
    simp [isRetryStep, isEnqueue]
  | act w b =>
    obtain ⟨c, m, c', hc, hthread, rfl⟩ := Pool.step_act hstep
    by_cases hb : b = .enqueue
    · subst hb
      obtain ⟨e, hpc, rfl, _⟩ := callStep_enqueue hthread
      have hst := (hshadow.2 w c hc).stage
      rw [stageInv, hpc] at hst
      simpa [isRetryStep, isEnqueue] using
        stepsLeft_enqueue hshadow.1.queue hgen hst.1.2
    · obtain ⟨hqueue, hretry⟩ := callStep_queue hthread hb
      rw [stepsLeft_congr hqueue hretry]
      simp [isRetryStep]
  | env e =>
    obtain ⟨m, henv, rfl⟩ := Pool.step_env hstep
    cases e with
    | retry a =>
      exact stepsLeft_retry (attemptInv_of_runs hgen hrun) hshadow.1.queue
        (atEntry_of_runs hrun) henv
    | reload =>
      obtain rfl := Option.some.inj henv
      show 0 + stepsLeft maxRetries _ ≤ stepsLeft maxRetries p.mem + 0
      rw [Nat.zero_add]
      exact (stepsLeft_congr rfl rfl).le

/-- While an entry waits or a cycle is in progress the retry thread has a next step. -/
theorem exists_retryStep (m : Writer) (hbusy : m.retry ≠ none ∨ m.failedWrites ≠ ∅) :
    ∃ a m', retryStep maxRetries m a = some m' := by
  cases hr : m.retry with
  | none =>
    have hkeys : m.failedWrites.keys ≠ [] := by
      intro hnil
      refine hbusy.elim (fun hne => hne hr) fun hne => hne (AList.ext ?_)
      exact List.map_eq_nil_iff.mp hnil
    exact ⟨.snapshot m.failedWrites.keys, _, if_pos ⟨hr, hkeys, List.Perm.refl _⟩⟩
  | some r =>
    cases htodo : r.todo with
    | nil => exact ⟨.apply, _, by rw [retryStep, hr]; exact if_pos htodo⟩
    | cons e rest =>
      have hhead : m.headAt r.stage e.1 = some (r, e.2) := by
        simp [Writer.headAt, hr, htodo]
      cases hstage : r.stage with
      | maxAttempts =>
        rw [hstage] at hhead
        by_cases hmax : maxRetries ≤ e.2.attempts
        · exact ⟨.abandon e.1, _, by rw [retryStep, hhead]; exact if_pos hmax⟩
        · exact ⟨.keep e.1, _, by rw [retryStep, hhead]; exact if_pos (UInt32.not_le.mp hmax)⟩
      | gate => exact ⟨.isEnabled, _, by rw [retryStep, hr]; exact if_pos hstage⟩
      | tableCheck =>
        rw [hstage] at hhead
        by_cases hskip : (m.shouldSkipTable e.2.keyspace).1 = .skipTable
        · exact ⟨.drop e.1, _, by rw [retryStep, hhead]; exact if_pos hskip⟩
        · exact ⟨.pass e.1, _, by rw [retryStep, hhead]; exact if_pos hskip⟩
      | execute =>
        rw [hstage] at hhead
        exact ⟨.execute e.1 e.2.cql .ok, _, by rw [retryStep, hhead]; exact if_pos rfl⟩

/-- In every run the retry thread takes at most `6 * max 1 max_retries` steps for each write
that was queued, and it is out of steps only when the queue is empty and each of these writes
has been retried with success, abandoned or dropped, once. -/
theorem retry_thread_drains (generateId : ℕ → String) (maxRetries : UInt32)
    (filter : Option BlacklistFilterGovernor) (h : List Action) (p : State)
    (hgen : Function.Injective generateId)
    (hrun : runs generateId maxRetries filter h = some p) :
    h.countP isRetryStep ≤ 6 * max 1 maxRetries.toNat * h.countP isEnqueue ∧
    ((∀ a, retryStep maxRetries p.mem a = none) →
      p.mem.retry = none ∧ p.mem.failedWrites = ∅ ∧
        ∀ w, Enqueued h w →
          h.countP (isRetrySuccess (generateId w)) + h.countP (isAbandon (generateId w)) +
            h.countP (isDrop (generateId w)) = 1) := by
  constructor
  · have hpaid := run_countP_le (fun p : State => stepsLeft maxRetries p.mem) isRetryStep
      isEnqueue (6 * max 1 maxRetries.toNat)
      (fun h s a s' hs hstep => stepsLeft_step hgen hs hstep) h p hrun
    have hinit : stepsLeft maxRetries (initial filter).mem = 0 := rfl
    omega
  · intro hrest
    have hidle : ¬ (p.mem.retry ≠ none ∨ p.mem.failedWrites ≠ ∅) := by
      intro hbusy
      obtain ⟨a, m', hstep⟩ := @exists_retryStep maxRetries p.mem hbusy
      exact Option.some_ne_none m' (hstep.symm.trans (hrest a))
    rw [not_or, not_not, not_not] at hidle
    refine ⟨hidle.1, hidle.2, fun w hw => ?_⟩
    rw [← closings_eq]
    refine (shadowInv_of_runs hgen hrun).1.queue.settled w hw ?_
    rintro ⟨hin, _⟩
    rw [hidle.2] at hin
    exact AList.notMem_empty _ hin

theorem retry_thread_drains_abandonedSecond :
    abandonedSecond.countP isRetryStep = 8 ∧
      abandonedSecond.countP isRetryStep ≤ 6 * max 1 (2 : UInt32).toNat * 1 ∧
      abandonedSecondState.mem.failedWrites = ∅ := by
  have hrun : runs unaryId 2 none abandonedSecond = some abandonedSecondState := by rfl
  have hall := retry_thread_drains unaryId 2 none abandonedSecond abandonedSecondState
    unaryId_injective hrun
  refine ⟨by decide, hall.1, (hall.2 fun a => ?_).2.1⟩
  cases a with
  | snapshot order =>
    refine if_neg fun hcond => hcond.2.1 ?_
    exact List.perm_nil.mp hcond.2.2
  | _ => rfl

end DualWriter
end ScyllaClusterSync
