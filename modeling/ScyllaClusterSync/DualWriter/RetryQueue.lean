import ScyllaClusterSync.DualWriter.WriterHistory

/-!
# The retry queue: what relates the map, the cycle in progress and the history

The retry loop works on a copy of `failed_writes_` while calls keep adding to it, and
writes its findings back in a second critical section. `QueueInv` is what holds at every
point in between:

* every entry, wherever a copy of it is, belongs to one call that enqueued it after the
  source had accepted its statement (`owned`);
* the entries the cycle has in hand are distinct and still in the map (`nodup`, `present`);
* an entry has been disposed of exactly once if it was enqueued and is no longer pending,
  and not at all otherwise (`opened`, `settled`).
-/

namespace ScyllaClusterSync
namespace DualWriter

open Svckit Lib

namespace Writer

/-! ## Where an entry can be -/

/-- The entries of the snapshot not yet dealt with. -/
def todo (m : Writer) : List (String × FailedWrite) :=
  match m.retry with
  | none => []
  | some r => r.todo

/-- The ids to erase in the apply step. -/
def toRemove (m : Writer) : List String :=
  match m.retry with
  | none => []
  | some r => r.toRemove

/-- The entries to write back in the apply step. -/
def toUpdate (m : Writer) : List (String × FailedWrite) :=
  match m.retry with
  | none => []
  | some r => r.toUpdate

/-- The ids the cycle in progress has in hand. -/
def inHand (m : Writer) : List String :=
  m.todo.map Prod.fst ++ (m.toRemove ++ m.toUpdate.map Prod.fst)

/-- A copy of the entry is in the map, in the snapshot or among the updates. -/
def HasCopy (m : Writer) (id : String) (fw : FailedWrite) : Prop :=
  m.failedWrites.lookup id = some fw ∨ (id, fw) ∈ m.todo ∨ (id, fw) ∈ m.toUpdate

/-- The entry is in the map and the cycle in progress will not erase it. -/
def Pending (m : Writer) (id : String) : Prop := id ∈ m.failedWrites ∧ id ∉ m.toRemove

variable {m : Writer} {r : RetryCycle}

/-- In front of an entry, the cycle has its id in hand before all the others. -/
theorem inHand_of_head {id : String} {fw : FailedWrite} {rest : List (String × FailedWrite)}
    (hcycle : m.retry = some r) (htodo : r.todo = (id, fw) :: rest) :
    m.inHand = id :: (rest.map Prod.fst ++ (r.toRemove ++ r.toUpdate.map Prod.fst)) := by
  simp only [inHand, todo, toRemove, toUpdate, hcycle, htodo, List.map_cons, List.cons_append]

/-- At the end of the snapshot only what is to be applied is left. -/
theorem inHand_of_done (hcycle : m.retry = some r) (htodo : r.todo = []) :
    m.inHand = r.toRemove ++ r.toUpdate.map Prod.fst := by
  simp only [inHand, todo, toRemove, toUpdate, hcycle, htodo, List.map_nil, List.nil_append]

theorem hasCopy_of_head {id : String} {fw : FailedWrite} {rest : List (String × FailedWrite)}
    (hcycle : m.retry = some r) (htodo : r.todo = (id, fw) :: rest) : m.HasCopy id fw := by
  refine Or.inr (Or.inl ?_)
  simp only [todo, hcycle, htodo]
  exact List.mem_cons_self

end Writer

/-! ## The invariant -/

structure QueueInv (generateId : ℕ → String) (h : List Action) (m : Writer) : Prop where
  owned : ∀ id fw, m.HasCopy id fw →
    ∃ w, generateId w = id ∧ Enqueued h w ∧ SourceAccepted h w fw.cql
  nodup : m.inHand.Nodup
  present : ∀ id ∈ m.inHand, id ∈ m.failedWrites
  opened : ∀ w, (Enqueued h w → m.Pending (generateId w)) → closings h (generateId w) = 0
  settled : ∀ w, Enqueued h w → ¬ m.Pending (generateId w) → closings h (generateId w) = 1

variable {generateId : ℕ → String} {h : List Action} {m m' : Writer}

theorem queueInv_init (filter : Option BlacklistFilterGovernor) :
    QueueInv generateId [] { filter := filter } where
  owned := by
    intro id fw hcopy
    simp [Writer.HasCopy, Writer.todo, Writer.toUpdate] at hcopy
  nodup := by simp [Writer.inHand, Writer.todo, Writer.toRemove, Writer.toUpdate]
  present := by simp [Writer.inHand, Writer.todo, Writer.toRemove, Writer.toUpdate]
  opened := by simp [closings]
  settled := by simp [Enqueued]

/-- More history does not take an owner away. -/
theorem QueueInv.owned_mono (hinv : QueueInv generateId h m) (a : Action) {id : String}
    {fw : FailedWrite} (hcopy : m.HasCopy id fw) :
    ∃ w, generateId w = id ∧ Enqueued (h ++ [a]) w ∧ SourceAccepted (h ++ [a]) w fw.cql := by
  obtain ⟨w, hid, henq, hsrc⟩ := hinv.owned id fw hcopy
  exact ⟨w, hid, List.mem_append_left _ henq, List.mem_append_left _ hsrc⟩

/-- An action that neither enqueues nor disposes of anything keeps the invariant, as long
as the queue and the cycle stay as they are. -/
theorem QueueInv.frame (hinv : QueueInv generateId h m) {a : Action}
    (hqueue : m'.failedWrites = m.failedWrites) (hretry : m'.retry = m.retry)
    (hclosed : closedId a = none) (henq : ∀ w, a ≠ .act w .enqueue) :
    QueueInv generateId (h ++ [a]) m' := by
  have hcopy : ∀ id fw, m'.HasCopy id fw ↔ m.HasCopy id fw := by
    intro id fw
    simp only [Writer.HasCopy, Writer.todo, Writer.toUpdate, hqueue, hretry]
  have hhand : m'.inHand = m.inHand := by
    simp only [Writer.inHand, Writer.todo, Writer.toRemove, Writer.toUpdate, hretry]
  have hpending : ∀ id, m'.Pending id ↔ m.Pending id := by
    intro id
    simp only [Writer.Pending, Writer.toRemove, hqueue, hretry]
  have henq' : ∀ w, Enqueued (h ++ [a]) w ↔ Enqueued h w := by
    intro w
    simp [Enqueued, (henq w).symm]
  refine ⟨fun id fw hc => hinv.owned_mono a ((hcopy id fw).mp hc), ?_, ?_, ?_, ?_⟩
  · rw [hhand]; exact hinv.nodup
  · intro id hid
    rw [hqueue]
    exact hinv.present id (hhand ▸ hid)
  · intro w hw
    rw [closings_concat_of_none _ hclosed]
    exact hinv.opened w fun he => (hpending _).mp (hw ((henq' w).mpr he))
  · intro w he hp
    rw [closings_concat_of_none _ hclosed]
    exact hinv.settled w ((henq' w).mp he) fun hp' => hp ((hpending _).mpr hp')

/-- The entry a cycle is at has not been put aside for removal. -/
theorem QueueInv.head_notMem_toRemove (hinv : QueueInv generateId h m) {r : RetryCycle}
    {id : String} {fw : FailedWrite} {rest : List (String × FailedWrite)}
    (hcycle : m.retry = some r) (htodo : r.todo = (id, fw) :: rest) : id ∉ r.toRemove := by
  have hnd := hinv.nodup
  rw [Writer.inHand_of_head hcycle htodo, List.nodup_cons] at hnd
  intro hmem
  exact hnd.1 (List.mem_append_right _ (List.mem_append_left _ hmem))

/-- What a finished cycle removes and what it updates are different entries. -/
theorem QueueInv.nodup_of_done (hinv : QueueInv generateId h m) {r : RetryCycle}
    (hcycle : m.retry = some r) (htodo : r.todo = []) :
    (r.toUpdate.map Prod.fst).Nodup ∧ r.toRemove.Disjoint (r.toUpdate.map Prod.fst) := by
  have hnd := hinv.nodup
  rw [Writer.inHand_of_done hcycle htodo] at hnd
  exact ⟨hnd.of_append_right, List.disjoint_of_nodup_append hnd⟩

/-! ## `enqueue_failed_write` -/

/-- The id a call draws is not in the map before the call has enqueued. -/
theorem QueueInv.fresh (hinv : QueueInv generateId h m)
    (hgen : Function.Injective generateId) {w : ℕ} (hw : ¬ Enqueued h w) :
    m.failedWrites.lookup (generateId w) = none := by
  by_contra hsome
  obtain ⟨fw, hfw⟩ := Option.ne_none_iff_exists'.mp hsome
  obtain ⟨w', hid, henq, _⟩ := hinv.owned _ fw (Or.inl hfw)
  exact hw (hgen hid ▸ henq)

theorem QueueInv.notMem_toRemove (hinv : QueueInv generateId h m)
    (hgen : Function.Injective generateId) {w : ℕ} (hw : ¬ Enqueued h w) :
    generateId w ∉ m.toRemove := by
  intro hrem
  have hin : generateId w ∈ m.inHand := by
    simp only [Writer.inHand, List.mem_append]
    exact Or.inr (Or.inl hrem)
  exact AList.lookup_eq_none.mp (hinv.fresh hgen hw) (hinv.present _ hin)

/-- The new entry belongs to the call, and nothing has been disposed of. -/
theorem QueueInv.enqueue (hinv : QueueInv generateId h m)
    (hgen : Function.Injective generateId) {w : ℕ} {cql keyspace e : String}
    (hw : ¬ Enqueued h w) (hsrc : SourceAccepted h w cql) :
    QueueInv generateId (h ++ [(.act w .enqueue : Action)])
      (m.enqueueFailedWrite (generateId w) cql keyspace e) := by
  -- the call draws an id that no entry has, as an entry with it would be of a call that has
  -- enqueued
  have hnone := hinv.fresh hgen hw
  have hself : (m.enqueueFailedWrite (generateId w) cql keyspace e).failedWrites.lookup
      (generateId w) = some ⟨generateId w, cql, keyspace, e, 1⟩ :=
    Writer.lookup_enqueue_self hnone
  have hother : ∀ id, id ≠ generateId w →
      (m.enqueueFailedWrite (generateId w) cql keyspace e).failedWrites.lookup id =
        m.failedWrites.lookup id := fun id hid => Writer.lookup_enqueue_ne hid
  have hmem : ∀ id, id ∈ (m.enqueueFailedWrite (generateId w) cql keyspace e).failedWrites ↔
      id = generateId w ∨ id ∈ m.failedWrites := by
    intro id
    by_cases hid : id = generateId w
    · subst hid
      simp [← AList.lookup_isSome, hself]
    · rw [← AList.lookup_isSome, hother id hid, AList.lookup_isSome]
      simp [hid]
  have hnew := hinv.notMem_toRemove hgen hw
  have henq : ∀ w', Enqueued (h ++ [(.act w .enqueue : Action)]) w' ↔ w' = w ∨ Enqueued h w' := by
    intro w'
    simp only [Enqueued, List.mem_append, List.mem_singleton, PoolAction.act.injEq, and_true]
    exact or_comm
  have hclosed : closedId (.act w .enqueue) = none := rfl
  refine ⟨?_, hinv.nodup, ?_, ?_, ?_⟩
  · -- the copies: those that were there before, and the new entry
    intro id fw hcopy
    by_cases hid : m.HasCopy id fw
    · exact hinv.owned_mono _ hid
    · have hlook : (m.enqueueFailedWrite (generateId w) cql keyspace e).failedWrites.lookup id
          = some fw := by
        rcases hcopy with hl | hl
        · exact hl
        · exact absurd (Or.inr hl) hid
      have hidw : id = generateId w := by
        by_contra hne
        rw [hother id hne] at hlook
        exact hid (Or.inl hlook)
      subst hidw
      rw [hself] at hlook
      have hfw := Option.some.inj hlook
      subst hfw
      exact ⟨w, rfl, (henq w).mpr (Or.inl rfl), List.mem_append_left _ hsrc⟩
  · intro id hid
    exact (hmem id).mpr (Or.inr (hinv.present id hid))
  · -- the ledger: the new entry is pending, and for all others nothing has changed
    intro w' hw'
    rw [closings_concat_of_none _ hclosed]
    apply hinv.opened w'
    intro he
    have hp := hw' ((henq w').mpr (Or.inr he))
    refine ⟨?_, hp.2⟩
    rcases (hmem _).mp hp.1 with heq | hin
    · exact absurd (hgen heq ▸ he) hw
    · exact hin
  · intro w' he hp
    rw [closings_concat_of_none _ hclosed]
    rcases (henq w').mp he with heq | he
    · subst heq
      exact absurd ⟨(hmem _).mpr (Or.inl rfl), hnew⟩ hp
    · exact hinv.settled w' he fun hp' => hp ⟨(hmem _).mpr (Or.inr hp'.1), hp'.2⟩

/-! ## The retry thread -/

section Moves

variable {a : RetryAction}

theorem closedId_retry : closedId (.env (.retry a)) = a.closed := rfl

theorem enqueued_concat_retry {w : ℕ} :
    Enqueued (h ++ [(.env (.retry a) : Action)]) w ↔ Enqueued h w := by
  simp [Enqueued]

/-- A move that disposes of nothing and leaves every entry as pending as it was keeps the
two halves of the ledger. -/
theorem QueueInv.ledger_of_none (hinv : QueueInv generateId h m) (hclosed : a.closed = none)
    (hpending : ∀ id, m'.Pending id ↔ m.Pending id) :
    (∀ w, (Enqueued (h ++ [(.env (.retry a) : Action)]) w → m'.Pending (generateId w)) →
      closings (h ++ [(.env (.retry a) : Action)]) (generateId w) = 0) ∧
    (∀ w, Enqueued (h ++ [(.env (.retry a) : Action)]) w → ¬ m'.Pending (generateId w) →
      closings (h ++ [(.env (.retry a) : Action)]) (generateId w) = 1) := by
  constructor
  · intro w hw
    rw [closings_concat_of_none _ (closedId_retry.trans hclosed)]
    exact hinv.opened w fun he => (hpending _).mp (hw (enqueued_concat_retry.mpr he))
  · intro w he hp
    rw [closings_concat_of_none _ (closedId_retry.trans hclosed)]
    exact hinv.settled w (enqueued_concat_retry.mp he) fun hp' => hp ((hpending _).mpr hp')

/-- The snapshot: the cycle has every entry of the map in hand. -/
theorem QueueInv.snapshot (hinv : QueueInv generateId h m) {order : List String}
    (hidle : m.retry = none) (hperm : order.Perm m.failedWrites.keys) (hclosed : a.closed = none)
    (hqueue : m'.failedWrites = m.failedWrites)
    (hretry : m'.retry = some { todo := KVMap.entriesAt m.failedWrites order }) :
    QueueInv generateId (h ++ [(.env (.retry a) : Action)]) m' := by
  have hkeys : ∀ id ∈ order, id ∈ m.failedWrites := fun id hid => hperm.mem_iff.mp hid
  have hhand : m'.inHand = order := by
    simp only [Writer.inHand, Writer.todo, Writer.toRemove, Writer.toUpdate, hretry,
      List.map_nil, List.append_nil]
    exact KVMap.map_fst_entriesAt hkeys
  have hpending : ∀ id, m'.Pending id ↔ m.Pending id := by
    intro id
    simp only [Writer.Pending, Writer.toRemove, hqueue, hretry, hidle]
  obtain ⟨hopened, hsettled⟩ := hinv.ledger_of_none hclosed hpending
  refine ⟨?_, ?_, ?_, hopened, hsettled⟩
  · intro id fw hcopy
    apply hinv.owned_mono
    simp only [Writer.HasCopy, Writer.todo, Writer.toUpdate, hqueue, hretry, List.not_mem_nil,
      or_false] at hcopy
    rcases hcopy with hl | hl
    · exact Or.inl hl
    · exact Or.inl (KVMap.mem_entriesAt.mp hl).2
  · rw [hhand]
    exact hperm.nodup_iff.mpr (AList.keys_nodup _)
  · intro id hid
    rw [hqueue]
    exact hkeys id (hhand ▸ hid)

/-- A step between the checks of one entry. -/
theorem QueueInv.stay (hinv : QueueInv generateId h m) {r : RetryCycle} {stage : RetryStage}
    (hcycle : m.retry = some r) (hclosed : a.closed = none)
    (hqueue : m'.failedWrites = m.failedWrites)
    (hretry : m'.retry = some { r with stage := stage }) :
    QueueInv generateId (h ++ [(.env (.retry a) : Action)]) m' := by
  have hhand : m'.inHand = m.inHand := by
    simp only [Writer.inHand, Writer.todo, Writer.toRemove, Writer.toUpdate, hretry, hcycle]
  have hpending : ∀ id, m'.Pending id ↔ m.Pending id := by
    intro id
    simp only [Writer.Pending, Writer.toRemove, hqueue, hretry, hcycle]
  obtain ⟨hopened, hsettled⟩ := hinv.ledger_of_none hclosed hpending
  refine ⟨?_, ?_, ?_, hopened, hsettled⟩
  · intro id fw hcopy
    apply hinv.owned_mono
    simpa only [Writer.HasCopy, Writer.todo, Writer.toUpdate, hqueue, hretry, hcycle] using hcopy
  · rw [hhand]; exact hinv.nodup
  · intro id hid
    rw [hqueue]
    exact hinv.present id (hhand ▸ hid)

/-- Abandoned, dropped or executed: the head of the snapshot is disposed of. -/
theorem QueueInv.close (hinv : QueueInv generateId h m) (hgen : Function.Injective generateId)
    {r : RetryCycle} {id : String} {fw : FailedWrite} {rest : List (String × FailedWrite)}
    (hcycle : m.retry = some r) (htodo : r.todo = (id, fw) :: rest)
    (hclosed : a.closed = some id) (hqueue : m'.failedWrites = m.failedWrites)
    (hretry : m'.retry = some (r.remove id)) :
    QueueInv generateId (h ++ [(.env (.retry a) : Action)]) m' := by
  have hhand := Writer.inHand_of_head hcycle htodo
  have hhand' : m'.inHand.Perm m.inHand := by
    rw [hhand]
    simp only [Writer.inHand, Writer.todo, Writer.toRemove, Writer.toUpdate, hretry,
      RetryCycle.remove, htodo, List.tail_cons, List.append_assoc, List.singleton_append]
    rw [← List.append_assoc, ← List.append_assoc]
    exact List.perm_middle
  have hrem : id ∉ m.toRemove := by
    simp only [Writer.toRemove, hcycle]
    exact hinv.head_notMem_toRemove hcycle htodo
  have hpend : m.Pending id := ⟨hinv.present id (hhand ▸ List.mem_cons_self), hrem⟩
  have hpend' : ∀ id', m'.Pending id' ↔ m.Pending id' ∧ id' ≠ id := by
    intro id'
    simp only [Writer.Pending, Writer.toRemove, hqueue, hretry, hcycle, RetryCycle.remove,
      List.mem_append, List.mem_singleton, not_or]
    tauto
  -- the call that has enqueued this entry is the only one whose ledger changes
  obtain ⟨w₀, hid₀, henq₀, _⟩ := hinv.owned id fw (Writer.hasCopy_of_head hcycle htodo)
  refine ⟨?_, hhand'.nodup_iff.mpr hinv.nodup, ?_, ?_, ?_⟩
  · intro id' fw' hcopy
    apply hinv.owned_mono
    simp only [Writer.HasCopy, Writer.todo, Writer.toUpdate, hqueue, hretry, hcycle,
      RetryCycle.remove, htodo, List.tail_cons, List.mem_cons] at hcopy ⊢
    tauto
  · intro id' hid'
    rw [hqueue]
    exact hinv.present id' (hhand'.mem_iff.mp hid')
  · intro w hw
    by_cases hwid : generateId w = id
    · have he : Enqueued h w := hgen (hwid.trans hid₀.symm) ▸ henq₀
      exact absurd hwid ((hpend' _).mp (hw (enqueued_concat_retry.mpr he))).2
    · rw [closings_concat, closedId_retry, hclosed,
        if_neg fun heq => hwid (Option.some.inj heq).symm, Nat.add_zero]
      exact hinv.opened w fun he => ((hpend' _).mp (hw (enqueued_concat_retry.mpr he))).1
  · intro w he hp
    by_cases hwid : generateId w = id
    · -- it was open until now, as the entry was pending: this is its one closing
      rw [closings_concat, closedId_retry, hclosed, if_pos (congrArg some hwid.symm),
        hinv.opened w fun _ => hwid ▸ hpend]
    · rw [closings_concat, closedId_retry, hclosed,
        if_neg fun heq => hwid (Option.some.inj heq).symm, Nat.add_zero]
      exact hinv.settled w (enqueued_concat_retry.mp he) fun hp' => hp ((hpend' _).mpr ⟨hp', hwid⟩)

/-- A failed retry: the head of the snapshot goes to the updates. -/
theorem QueueInv.fail (hinv : QueueInv generateId h m) {r : RetryCycle} {id e : String}
    {fw : FailedWrite} {rest : List (String × FailedWrite)} (hcycle : m.retry = some r)
    (htodo : r.todo = (id, fw) :: rest) (ha : a = .execute id fw.cql (.syncError e))
    (hqueue : m'.failedWrites = m.failedWrites) (hretry : m'.retry = some (r.update id fw e)) :
    QueueInv generateId (h ++ [(.env (.retry a) : Action)]) m' := by
  have hhand := Writer.inHand_of_head hcycle htodo
  have hhand' : m'.inHand.Perm m.inHand := by
    rw [hhand]
    simp only [Writer.inHand, Writer.todo, Writer.toRemove, Writer.toUpdate, hretry,
      RetryCycle.update, htodo, List.tail_cons, List.map_append, List.map_cons, List.map_nil]
    rw [← List.append_assoc, ← List.append_assoc, ← List.append_assoc]
    exact List.perm_append_singleton id _
  have hclosed : a.closed = none := by rw [ha]; rfl
  have hpending : ∀ id, m'.Pending id ↔ m.Pending id := by
    intro id
    simp only [Writer.Pending, Writer.toRemove, hqueue, hretry, hcycle, RetryCycle.update]
  obtain ⟨hopened, hsettled⟩ := hinv.ledger_of_none hclosed hpending
  refine ⟨?_, hhand'.nodup_iff.mpr hinv.nodup, ?_, hopened, hsettled⟩
  · intro id' fw' hcopy
    simp only [Writer.HasCopy, Writer.todo, Writer.toUpdate, hqueue, hretry,
      RetryCycle.update, htodo, List.tail_cons, List.mem_append, List.mem_singleton,
      Prod.mk.injEq] at hcopy
    have hold : ∀ {fw'}, m.failedWrites.lookup id' = some fw' ∨ (id', fw') ∈ r.todo ∨
        (id', fw') ∈ r.toUpdate → m.HasCopy id' fw' := by
      intro fw' hc
      simpa only [Writer.HasCopy, Writer.todo, Writer.toUpdate, hcycle] using hc
    rcases hcopy with hl | hl | hl | ⟨hid, hfw⟩
    · exact hinv.owned_mono _ (hold (Or.inl hl))
    · exact hinv.owned_mono _ (hold (Or.inr (Or.inl (htodo ▸ List.mem_cons_of_mem _ hl))))
    · exact hinv.owned_mono _ (hold (Or.inr (Or.inr hl)))
    · -- the updated entry keeps the statement of the one it replaces
      subst hid hfw
      have howner := hinv.owned_mono (.env (.retry a)) (Writer.hasCopy_of_head hcycle htodo)
      exact howner
  · intro id' hid'
    rw [hqueue]
    exact hinv.present id' (hhand'.mem_iff.mp hid')

/-- After the second critical section the updated entries are in the map. -/
theorem QueueInv.lookup_apply_of_mem (hinv : QueueInv generateId h m) {r : RetryCycle}
    (hcycle : m.retry = some r) (htodo : r.todo = [])
    (hqueue : m'.failedWrites =
      KVMap.insertAll (KVMap.eraseAll m.failedWrites r.toRemove) r.toUpdate)
    {id : String} {fw : FailedWrite} (hmem : (id, fw) ∈ r.toUpdate) :
    m'.failedWrites.lookup id = some fw := by
  rw [hqueue]
  exact KVMap.lookup_insertAll_of_mem (hinv.nodup_of_done hcycle htodo).1 hmem

/-- The removed entries are gone then, and the rest is as before. -/
theorem lookup_apply_of_notMem {r : RetryCycle}
    (hqueue : m'.failedWrites =
      KVMap.insertAll (KVMap.eraseAll m.failedWrites r.toRemove) r.toUpdate)
    {id : String} (hid : id ∉ r.toUpdate.map Prod.fst) :
    m'.failedWrites.lookup id = if id ∈ r.toRemove then none else m.failedWrites.lookup id := by
  rw [hqueue, KVMap.lookup_insertAll_eraseAll_of_notMem hid]

/-- The map is shorter by the removed entries. -/
theorem QueueInv.length_apply (hinv : QueueInv generateId h m) {r : RetryCycle}
    (hcycle : m.retry = some r) (htodo : r.todo = [])
    (hqueue : m'.failedWrites =
      KVMap.insertAll (KVMap.eraseAll m.failedWrites r.toRemove) r.toUpdate) :
    m'.pendingRetryCount + r.toRemove.length = m.pendingRetryCount := by
  have hhand := Writer.inHand_of_done hcycle htodo
  have hnd : r.toRemove.Nodup := (hhand ▸ hinv.nodup).of_append_left
  have hdisj := (hinv.nodup_of_done hcycle htodo).2
  have hin : ∀ id ∈ r.toRemove, id ∈ m.failedWrites := by
    intro id hid
    exact hinv.present id (hhand ▸ List.mem_append_left _ hid)
  have hup : ∀ id ∈ r.toUpdate.map Prod.fst, id ∈ KVMap.eraseAll m.failedWrites r.toRemove := by
    intro id hid
    have hold := hinv.present id (hhand ▸ List.mem_append_right _ hid)
    rw [← AList.lookup_isSome, KVMap.lookup_eraseAll, if_neg fun hr => hdisj hr hid,
      AList.lookup_isSome]
    exact hold
  rw [Writer.pendingRetryCount, hqueue, KVMap.length_keys_insertAll hup]
  exact KVMap.length_keys_eraseAll hnd hin

/-- The second critical section: erase, then write back. -/
theorem QueueInv.apply (hinv : QueueInv generateId h m) {r : RetryCycle}
    (hcycle : m.retry = some r) (htodo : r.todo = []) (hclosed : a.closed = none)
    (hqueue : m'.failedWrites =
      KVMap.insertAll (KVMap.eraseAll m.failedWrites r.toRemove) r.toUpdate)
    (hretry : m'.retry = none) :
    QueueInv generateId (h ++ [(.env (.retry a) : Action)]) m' := by
  have hhand := Writer.inHand_of_done hcycle htodo
  have hdisj := (hinv.nodup_of_done hcycle htodo).2
  have hup : ∀ id fw, (id, fw) ∈ r.toUpdate → m'.failedWrites.lookup id = some fw :=
    fun _ _ hmem => hinv.lookup_apply_of_mem hcycle htodo hqueue hmem
  have hpending : ∀ id, m'.Pending id ↔ m.Pending id := by
    intro id
    simp only [Writer.Pending, Writer.toRemove, hretry, hcycle, List.not_mem_nil,
      not_false_eq_true, and_true]
    -- the updates are written back under ids that were in the map, the removals are pending neither
    -- before nor after
    by_cases hid : id ∈ r.toUpdate.map Prod.fst
    · obtain ⟨⟨id', fw⟩, hmem, hfst⟩ := List.mem_map.mp hid
      subst hfst
      have hin : id' ∈ m'.failedWrites := by
        rw [← AList.lookup_isSome, hup id' fw hmem]; rfl
      have hold : id' ∈ m.failedWrites :=
        hinv.present id' (hhand ▸ List.mem_append_right _ hid)
      exact ⟨fun _ => ⟨hold, fun hr => hdisj hr hid⟩, fun _ => hin⟩
    · rw [← AList.lookup_isSome, lookup_apply_of_notMem hqueue hid, ← AList.lookup_isSome]
      by_cases hr : id ∈ r.toRemove <;> simp [hr]
  obtain ⟨hopened, hsettled⟩ := hinv.ledger_of_none hclosed hpending
  refine ⟨?_, ?_, ?_, hopened, hsettled⟩
  · intro id fw hcopy
    apply hinv.owned_mono
    simp only [Writer.HasCopy, Writer.todo, Writer.toUpdate, hretry, hcycle, List.not_mem_nil,
      or_false] at hcopy ⊢
    by_cases hid : id ∈ r.toUpdate.map Prod.fst
    · obtain ⟨⟨id', fw'⟩, hmem, hfst⟩ := List.mem_map.mp hid
      subst hfst
      rw [hup id' fw' hmem] at hcopy
      exact Or.inr (Or.inr (Option.some.inj hcopy ▸ hmem))
    · rw [lookup_apply_of_notMem hqueue hid] at hcopy
      by_cases hr : id ∈ r.toRemove
      · simp [hr] at hcopy
      · rw [if_neg hr] at hcopy
        exact Or.inl hcopy
  · simp [Writer.inHand, Writer.todo, Writer.toRemove, Writer.toUpdate, hretry]
  · simp [Writer.inHand, Writer.todo, Writer.toRemove, Writer.toUpdate, hretry]

/-- Every step of the retry thread keeps the invariant. -/
theorem QueueInv.retry (hinv : QueueInv generateId h m) (hgen : Function.Injective generateId)
    (hmove : QueueMove m m' a) : QueueInv generateId (h ++ [(.env (.retry a) : Action)]) m' := by
  cases hmove with
  | snapshot order hidle hperm hclosed hqueue hretry =>
    exact hinv.snapshot hidle hperm hclosed hqueue hretry
  | stay r stage hcycle hclosed hqueue hretry => exact hinv.stay hcycle hclosed hqueue hretry
  | close r id fw rest hcycle htodo hclosed hqueue hretry =>
    exact hinv.close hgen hcycle htodo hclosed hqueue hretry
  | fail r id fw rest e hcycle htodo ha hqueue hretry =>
    exact hinv.fail hcycle htodo ha hqueue hretry
  | apply r hcycle htodo hclosed hqueue hretry =>
    exact hinv.apply hcycle htodo hclosed hqueue hretry

end Moves

end DualWriter
end ScyllaClusterSync
