import ScyllaClusterSync.DualWriter.Convergence

/-!
# When the target converges to the source

The retry loop replays a queued statement whenever its cycle comes around, whatever has
been written since, so a queued write can overwrite a newer one. `target_converges` shows
that this is the only way to diverge: as long as no write to a row is issued while an
earlier write to the row is still in `failed_writes_`, the target is `Lagging` behind the
source at every step, and equal to it once nothing is pending.
-/

namespace ScyllaClusterSync
namespace DualWriter

open Svckit Lib

variable {generateId : ℕ → String} {maxRetries : UInt32} {h : List Action} {m m' : Writer}
  {a : RetryAction}

/-! ## What is still to be replayed -/

/-- All copies of an entry have the same statement. -/
def OneText (m : Writer) : Prop :=
  ∀ id fw fw', m.HasCopy id fw → m.HasCopy id fw' → fw.cql = fw'.cql

theorem oneText_of_runs (hgen : Function.Injective generateId)
    {filter : Option BlacklistFilterGovernor} {p : State}
    (hrun : runs generateId maxRetries filter h = some p) : OneText p.mem := by
  have hinv := shadowInv_of_runs hgen hrun
  intro id fw fw' hfw hfw'
  -- both copies belong to the one call that has drawn the id
  obtain ⟨w, hid, _, hsrc⟩ := hinv.1.queue.owned id fw hfw
  obtain ⟨w', hid', _, hsrc'⟩ := hinv.1.queue.owned id fw' hfw'
  have hw : w' = w := hgen (hid'.trans hid.symm)
  rw [hw] at hsrc'
  have hc : CallInv h w _ := hinv.2 w _ (List.getElem?_eq_getElem (Pool.lt_length_of_mem hrun hsrc))
  rw [hc.sourceText _ _ hsrc, hc.sourceText _ _ hsrc']

theorem toReplay_congr (hqueue : m'.failedWrites = m.failedWrites) (hretry : m'.retry = m.retry)
    (cql : String) : m'.ToReplay cql ↔ m.ToReplay cql := by
  simp only [Writer.ToReplay, Writer.HasCopy, Writer.todo, Writer.toUpdate, Writer.toRemove, hqueue,
    hretry]

/-- An idle retry thread: what is to be replayed is what is in the map. -/
theorem toReplay_of_idle (hidle : m.retry = none) {cql : String} :
    m.ToReplay cql ↔ ∃ id fw, m.failedWrites.lookup id = some fw ∧ fw.cql = cql := by
  simp [Writer.ToReplay, Writer.HasCopy, Writer.todo, Writer.toUpdate, Writer.toRemove, hidle]

/-- A failed retry keeps the statement of the entry among the updates. -/
theorem toReplay_fail {r : RetryCycle} {id e : String} {fw : FailedWrite}
    {rest : List (String × FailedWrite)} (hcycle : m.retry = some r)
    (htodo : r.todo = (id, fw) :: rest) (hqueue : m'.failedWrites = m.failedWrites)
    (hretry : m'.retry = some (r.update id fw e)) (cql : String) :
    m'.ToReplay cql ↔ m.ToReplay cql := by
  -- the copy leaves the snapshot and comes back among the updates, with the same statement
  simp only [Writer.ToReplay, Writer.HasCopy, Writer.todo, Writer.toUpdate, Writer.toRemove,
    hqueue, hretry, hcycle, RetryCycle.update, htodo, List.tail_cons, List.mem_append,
    List.mem_cons, List.not_mem_nil, or_false, Prod.mk.injEq]
  constructor
  · rintro ⟨id', fw', hcopy, hrem, hq⟩
    rcases hcopy with hl | hl | hl | ⟨hid, hfw⟩
    · exact ⟨id', fw', Or.inl hl, hrem, hq⟩
    · exact ⟨id', fw', Or.inr (Or.inl (Or.inr hl)), hrem, hq⟩
    · exact ⟨id', fw', Or.inr (Or.inr hl), hrem, hq⟩
    · subst hid hfw
      exact ⟨id', fw, Or.inr (Or.inl (Or.inl ⟨rfl, rfl⟩)), hrem, hq⟩
  · rintro ⟨id', fw', hcopy, hrem, hq⟩
    rcases hcopy with hl | (⟨hid, hfw⟩ | hl) | hl
    · exact ⟨id', fw', Or.inl hl, hrem, hq⟩
    · subst hid hfw
      exact ⟨id', _, Or.inr (Or.inr (Or.inr ⟨rfl, rfl⟩)), hrem, hq⟩
    · exact ⟨id', fw', Or.inr (Or.inl hl), hrem, hq⟩
    · exact ⟨id', fw', Or.inr (Or.inr (Or.inl hl)), hrem, hq⟩

/-- The second critical section erases exactly what was not to be replayed any more. -/
theorem toReplay_apply (hinv : QueueInv generateId h m) (hone : OneText m) {r : RetryCycle}
    (hcycle : m.retry = some r) (htodo : r.todo = [])
    (hqueue : m'.failedWrites =
      KVMap.insertAll (KVMap.eraseAll m.failedWrites r.toRemove) r.toUpdate)
    (hretry : m'.retry = none) (cql : String) : m'.ToReplay cql ↔ m.ToReplay cql := by
  have hdisj := (hinv.nodup_of_done hcycle htodo).2
  have hup : ∀ id fw, (id, fw) ∈ r.toUpdate → m'.failedWrites.lookup id = some fw :=
    fun _ _ hmem => hinv.lookup_apply_of_mem hcycle htodo hqueue hmem
  have hcopyUp : ∀ id fw, (id, fw) ∈ r.toUpdate → m.HasCopy id fw := by
    intro id fw hmem
    simp only [Writer.HasCopy, Writer.toUpdate, hcycle]
    exact Or.inr (Or.inr hmem)
  rw [toReplay_of_idle hretry]
  constructor
  · -- an entry of the new map is an update, or an old entry that was not removed
    rintro ⟨id, fw, hl, hq⟩
    by_cases hid : id ∈ r.toUpdate.map Prod.fst
    · obtain ⟨⟨id', fw'⟩, hmem, hfst⟩ := List.mem_map.mp hid
      subst hfst
      rw [hup id' fw' hmem] at hl
      refine ⟨id', fw', hcopyUp id' fw' hmem, ?_, Option.some.inj hl ▸ hq⟩
      simp only [Writer.toRemove, hcycle]
      exact fun hrem => hdisj hrem hid
    · rw [lookup_apply_of_notMem hqueue hid] at hl
      by_cases hrem : id ∈ r.toRemove
      · simp [hrem] at hl
      · rw [if_neg hrem] at hl
        refine ⟨id, fw, Or.inl hl, ?_, hq⟩
        simpa only [Writer.toRemove, hcycle] using hrem
  · -- an old copy is replaced by its update, or is itself still in the map
    rintro ⟨id, fw, hcopy, hrem, hq⟩
    simp only [Writer.toRemove, hcycle] at hrem
    by_cases hid : id ∈ r.toUpdate.map Prod.fst
    · obtain ⟨⟨id', fw'⟩, hmem, hfst⟩ := List.mem_map.mp hid
      subst hfst
      exact ⟨id', fw', hup id' fw' hmem, (hone id' fw' fw (hcopyUp _ _ hmem) hcopy).trans hq⟩
    · have hlook : m.failedWrites.lookup id = some fw := by
        simp only [Writer.HasCopy, Writer.todo, Writer.toUpdate, hcycle, htodo, List.not_mem_nil,
          false_or] at hcopy
        exact hcopy.resolve_right fun hmem => hid (List.mem_map_of_mem hmem)
      refine ⟨id, fw, ?_, hq⟩
      rw [lookup_apply_of_notMem hqueue hid, if_neg hrem]
      exact hlook

/-- What is to be replayed is in the map. -/
theorem mem_entries_of_toReplay (hinv : QueueInv generateId h m) (hone : OneText m) {cql : String}
    (hrep : m.ToReplay cql) : ∃ e ∈ m.failedWrites.entries, e.2.cql = cql := by
  obtain ⟨id, fw, hcopy, _, hq⟩ := hrep
  have hin : id ∈ m.failedWrites := by
    rcases hcopy with hl | hl
    · rw [← AList.lookup_isSome, hl]
      rfl
    · apply hinv.present
      simp only [Writer.inHand, List.mem_append, List.mem_map]
      rcases hl with hl | hl
      · exact Or.inl ⟨_, hl, rfl⟩
      · exact Or.inr (Or.inr ⟨_, hl, rfl⟩)
  obtain ⟨fw', hfw'⟩ := Option.isSome_iff_exists.mp (AList.lookup_isSome.mpr hin)
  refine ⟨⟨id, fw'⟩, AList.mem_lookup_iff.mp hfw', ?_⟩
  exact (hone id fw' fw (Or.inl hfw') hcopy).trans hq

/-- A move that disposes of nothing leaves the same statements to be replayed. -/
theorem toReplay_of_move (hinv : QueueInv generateId h m) (hone : OneText m)
    (hmove : QueueMove m m' a) (hclosed : a.closed = none) (cql : String) :
    m'.ToReplay cql ↔ m.ToReplay cql := by
  cases hmove with
  | snapshot order hidle hperm _ hqueue hretry =>
    rw [toReplay_of_idle hidle]
    simp only [Writer.ToReplay, Writer.HasCopy, Writer.todo, Writer.toUpdate, Writer.toRemove,
      hqueue, hretry, KVMap.mem_entriesAt, List.not_mem_nil, or_false, not_false_eq_true, true_and]
    constructor
    · rintro ⟨id, fw, hl | ⟨_, hl⟩, hq⟩
      · exact ⟨id, fw, hl, hq⟩
      · exact ⟨id, fw, hl, hq⟩
    · rintro ⟨id, fw, hl, hq⟩
      exact ⟨id, fw, Or.inl hl, hq⟩
  | stay r stage hcycle _ hqueue hretry =>
    simp only [Writer.ToReplay, Writer.HasCopy, Writer.todo, Writer.toUpdate, Writer.toRemove,
      hqueue, hretry, hcycle]
  | close r id fw rest hcycle htodo hclosed' hqueue hretry =>
    rw [hclosed] at hclosed'
    exact absurd hclosed' (by simp)
  | fail r id fw rest e hcycle htodo ha hqueue hretry =>
    exact toReplay_fail hcycle htodo hqueue hretry cql
  | apply r hcycle htodo _ hqueue hretry =>
    exact toReplay_apply hinv hone hcycle htodo hqueue hretry cql

/-- Disposing of an entry takes at most its own statement away. -/
theorem toReplay_close (hinv : QueueInv generateId h m) (hone : OneText m) {r : RetryCycle}
    {id : String} {fw : FailedWrite} {rest : List (String × FailedWrite)}
    (hcycle : m.retry = some r) (htodo : r.todo = (id, fw) :: rest)
    (hqueue : m'.failedWrites = m.failedWrites) (hretry : m'.retry = some (r.remove id)) :
    m.ToReplay fw.cql ∧ (∀ cql, m'.ToReplay cql → m.ToReplay cql) ∧
      ∀ cql, m.ToReplay cql → m'.ToReplay cql ∨ cql = fw.cql := by
  have hhead := Writer.hasCopy_of_head hcycle htodo
  have hrem := hinv.head_notMem_toRemove hcycle htodo
  refine ⟨⟨id, fw, hhead, ?_, rfl⟩, ?_, ?_⟩
  · simpa only [Writer.toRemove, hcycle] using hrem
  · rintro cql ⟨id', fw', hcopy, hrem', hq⟩
    simp only [Writer.HasCopy, Writer.todo, Writer.toUpdate, Writer.toRemove, hqueue, hretry,
      RetryCycle.remove, htodo, List.tail_cons, List.mem_append, List.mem_singleton,
      not_or] at hcopy hrem'
    refine ⟨id', fw', ?_, ?_, hq⟩
    · simp only [Writer.HasCopy, Writer.todo, Writer.toUpdate, hcycle, htodo, List.mem_cons]
      tauto
    · simpa only [Writer.toRemove, hcycle] using hrem'.1
  · rintro cql ⟨id', fw', hcopy, hrem', hq⟩
    by_cases hid : id' = id
    · -- another copy of the entry has the same text
      subst hid
      exact Or.inr ((hone id' fw' fw hcopy hhead ▸ hq).symm)
    · left
      simp only [Writer.HasCopy, Writer.todo, Writer.toUpdate, Writer.toRemove, hcycle, htodo,
        List.mem_cons, Prod.mk.injEq] at hcopy hrem'
      refine ⟨id', fw', ?_, ?_, hq⟩
      · simp only [Writer.HasCopy, Writer.todo, Writer.toUpdate, hqueue, hretry, RetryCycle.remove,
          htodo, List.tail_cons]
        tauto
      · simp only [Writer.toRemove, hretry, RetryCycle.remove, List.mem_append,
          List.mem_singleton, not_or]
        exact ⟨hrem', hid⟩

/-- Queueing adds the statement of the call. -/
theorem toReplay_enqueue {id cql keyspace e : String} (hfresh : m.failedWrites.lookup id = none)
    (hrem : id ∉ m.toRemove) (q : String) :
    (m.enqueueFailedWrite id cql keyspace e).ToReplay q ↔ m.ToReplay q ∨ q = cql := by
  have hself : (m.enqueueFailedWrite id cql keyspace e).failedWrites.lookup id =
      some ⟨id, cql, keyspace, e, 1⟩ := Writer.lookup_enqueue_self hfresh
  constructor
  · rintro ⟨id', fw, hcopy, hrem', hq⟩
    rcases hcopy with hl | hl
    · by_cases hid : id' = id
      · rw [hid, hself] at hl
        have hfw := Option.some.inj hl
        subst hfw
        exact Or.inr hq.symm
      · rw [Writer.lookup_enqueue_ne hid] at hl
        exact Or.inl ⟨id', fw, Or.inl hl, hrem', hq⟩
    · exact Or.inl ⟨id', fw, Or.inr hl, hrem', hq⟩
  · intro hor
    rcases hor with ⟨id', fw, hcopy, hrem', hq⟩ | hq
    · rcases hcopy with hl | hl
      · have hid : id' ≠ id := by
          intro hid
          rw [hid, hfresh] at hl
          exact absurd hl (by simp)
        exact ⟨id', fw, Or.inl ((Writer.lookup_enqueue_ne hid).trans hl), hrem', hq⟩
      · exact ⟨id', fw, Or.inr hl, hrem', hq⟩
    · exact ⟨id, _, Or.inl hself, hrem, hq.symm⟩

/-! ## The invariant -/

section Rows

variable {R V : Type} [DecidableEq R] (effect : String → R × V) (rows : R → V)

/-- One client that waits for each write before it issues the next. -/
def OneAtATime (p : State) : Action → Prop
  | .spawn _ => ∀ c ∈ p.threads, c.pc.isReturned
  | _ => True

instance (p : State) (a : Action) : Decidable (OneAtATime p a) :=
  match a with
  | .spawn _ => inferInstanceAs (Decidable (∀ c ∈ p.threads, c.pc.isReturned))
  | .act _ _ => inferInstanceAs (Decidable True)
  | .env _ => inferInstanceAs (Decidable True)

/-- No write is issued to a row that an entry of `failed_writes_` is about. -/
def RowNotQueued (p : State) : Action → Prop
  | .spawn k => ∀ e ∈ p.mem.failedWrites.entries, (effect e.2.cql).1 ≠ (effect k.cql).1
  | _ => True

instance (p : State) (a : Action) : Decidable (RowNotQueued effect p a) :=
  match a with
  | .spawn k => inferInstanceAs (Decidable
      (∀ e ∈ p.mem.failedWrites.entries, (effect e.2.cql).1 ≠ (effect k.cql).1))
  | .act _ _ => inferInstanceAs (Decidable True)
  | .env _ => inferInstanceAs (Decidable True)

/-- Neither a write that is filtered, abandoned or dropped, nor a failed source execute. -/
def undisturbed : Action → Bool
  | .act _ .countFiltered => false
  | .act _ (.sourceExecute _ (.syncError _)) => false
  | .env (.retry (.abandon _)) => false
  | .env (.retry (.drop _)) => false
  | _ => true

/-- The conditions together, on one step. -/
def Orderly (p : State) (a : Action) : Prop :=
  (OneAtATime p a ∧ RowNotQueued effect p a) ∧ undisturbed a

structure Converging (generateId : ℕ → String) (maxRetries : UInt32)
    (filter : Option BlacklistFilterGovernor) (h : List Action) (p : State) : Prop where
  isRun : runs generateId maxRetries filter h = some p
  lagging : Lagging (sourceRows effect rows h) (targetRows effect rows h) (pendingWrites effect p)
  sequential : ∀ (i : ℕ) (c : WriteCall), p.threads[i]? = some c → i + 1 < p.threads.length →
    c.pc.isReturned
  rowFree : ∀ (i : ℕ) (c : WriteCall), p.threads[i]? = some c → c.pc.beforeSource →
    ∀ q, p.mem.ToReplay q → (effect q).1 ≠ (effect c.cql).1
  unfiltered : ∀ (i : ℕ) (c : WriteCall), p.threads[i]? = some c → c.pc ≠ .sourceOnly

variable {effect rows} {filter : Option BlacklistFilterGovernor} {p : State}

omit [DecidableEq R] in
/-- Every other call has returned, so the writes under way are the queued ones and that of
the call itself. -/
theorem mem_pendingWrites {i : ℕ} {c : WriteCall} (ht : p.threads[i]? = some c)
    (hothers : ∀ j u, p.threads[j]? = some u → j ≠ i → u.pc.isReturned) {e : R × V} :
    e ∈ pendingWrites effect p ↔
      ∃ q, effect q = e ∧ (p.mem.ToReplay q ∨ (c.pc.awaitsTarget ∧ c.cql = q)) := by
  constructor
  · rintro ⟨q, hq, hor⟩
    rcases hor with hr | ⟨j, u, hu, hawaits, htext⟩
    · exact ⟨q, hq, Or.inl hr⟩
    · by_cases hji : j = i
      · rw [hji, ht] at hu
        have huc := Option.some.inj hu
        subst huc
        exact ⟨q, hq, Or.inr ⟨hawaits, htext⟩⟩
      · rw [Pc.awaitsTarget_of_isReturned (hothers j u hu hji)] at hawaits
        exact absurd hawaits Bool.false_ne_true
  · rintro ⟨q, hq, hor⟩
    rcases hor with hr | ⟨hawaits, htext⟩
    · exact ⟨q, hq, Or.inl hr⟩
    · exact ⟨q, hq, Or.inr ⟨i, c, ht, hawaits, htext⟩⟩

/-! ## A step of a call -/

theorem callStep_not_returned {w : ℕ} {c c' : WriteCall} {b : CallAction}
    (hstep : callStep generateId w m c b = some (m', c')) : c.pc.isReturned = false := by
  cases hpc : c.pc with
  | returned r => cases b <;> simp [callStep, hpc] at hstep
  | _ => rfl

theorem Converging.others (hinv : Converging effect rows generateId maxRetries filter h p) {i : ℕ}
    {c : WriteCall} (ht : p.threads[i]? = some c) (hpc : c.pc.isReturned = false) {j : ℕ}
    {u : WriteCall} (hu : p.threads[j]? = some u) (hji : j ≠ i) : u.pc.isReturned := by
  apply hinv.sequential j u hu
  have hi := (List.getElem?_eq_some_iff.mp ht).1
  have hj := (List.getElem?_eq_some_iff.mp hu).1
  have hlast : p.threads.length ≤ i + 1 := by
    by_contra hlt
    rw [hinv.sequential i c ht (by omega)] at hpc
    exact absurd hpc (by simp)
  omega

/-- What remains to be shown of a step of a call. -/
theorem Converging.of_call (hinv : Converging effect rows generateId maxRetries filter h p)
    {i : ℕ} {c c' : WriteCall} {b : CallAction} (ht : p.threads[i]? = some c)
    (hstep : callStep generateId i p.mem c b = some (m', c'))
    (hbefore : c'.pc.beforeSource →
      c.pc.beforeSource ∧ ∀ q, m'.ToReplay q → p.mem.ToReplay q)
    (hsource : c'.pc ≠ .sourceOnly)
    (hlag : Lagging (sourceRows effect rows (h ++ [PoolAction.act i b]))
      (targetRows effect rows (h ++ [PoolAction.act i b]))
      {e | ∃ q, effect q = e ∧ (m'.ToReplay q ∨ (c'.pc.awaitsTarget ∧ c'.cql = q))}) :
    Converging effect rows generateId maxRetries filter (h ++ [PoolAction.act i b])
      { mem := m', threads := p.threads.set i c' } := by
  have hi := (List.getElem?_eq_some_iff.mp ht).1
  have hothers : ∀ j u, p.threads[j]? = some u → j ≠ i → u.pc.isReturned :=
    fun j u hu hji => hinv.others ht (callStep_not_returned hstep) hu hji
  -- the call that makes the step is the only one that has not returned
  have hret : ∀ j u, (p.threads.set i c')[j]? = some u → j ≠ i → u.pc.isReturned := by
    intro j u hu hji
    rcases Pool.of_getElem?_set ht hu with ⟨hj, _⟩ | ⟨_, hu'⟩
    · exact absurd hj hji
    · exact hothers j u hu' hji
  refine ⟨?_, ?_, ?_, ?_, ?_⟩
  · rw [runs, run_concat_eq_some]
    refine ⟨p, hinv.isRun, ?_⟩
    simp only [Pool.step, ht, Option.bind_some]
    rw [show (program generateId maxRetries).thread i p.mem c b = some (m', c') from hstep]
    rfl
  · have hpend : pendingWrites effect ⟨m', p.threads.set i c'⟩ =
        {e | ∃ q, effect q = e ∧ (m'.ToReplay q ∨ (c'.pc.awaitsTarget ∧ c'.cql = q))} := by
      ext e
      exact mem_pendingWrites (List.getElem?_set_self hi) hret
    rw [hpend]
    exact hlag
  · intro j u hu hlt
    rw [List.length_set] at hlt
    rcases Pool.of_getElem?_set ht hu with ⟨hj, _⟩ | ⟨_, hu'⟩
    · rw [hj] at hlt
      have hpc := hinv.sequential i c ht hlt
      rw [callStep_not_returned hstep] at hpc
      exact absurd hpc (by simp)
    · exact hinv.sequential j u hu' hlt
  · intro j u hu hbef q hq
    rcases Pool.of_getElem?_set ht hu with ⟨_, huc⟩ | ⟨hji, hu'⟩
    · subst huc
      rw [(callStep_request hstep).1]
      exact hinv.rowFree i c ht (hbefore hbef).1 q ((hbefore hbef).2 q hq)
    · rw [Pc.beforeSource_of_isReturned (hothers j u hu' hji)] at hbef
      exact absurd hbef Bool.false_ne_true
  · intro j u hu
    rcases Pool.of_getElem?_set ht hu with ⟨_, huc⟩ | ⟨_, hu'⟩
    · subst huc
      exact hsource
    · exact hinv.unfiltered j u hu'

/-- The writes under way, seen from the one call that has not returned. -/
theorem Converging.lagging_call (hinv : Converging effect rows generateId maxRetries filter h p)
    {i : ℕ} {c : WriteCall} (ht : p.threads[i]? = some c) (hpc : c.pc.isReturned = false) :
    Lagging (sourceRows effect rows h) (targetRows effect rows h)
      {e | ∃ q, effect q = e ∧ (p.mem.ToReplay q ∨ (c.pc.awaitsTarget ∧ c.cql = q))} := by
  have hpend : pendingWrites effect p =
      {e | ∃ q, effect q = e ∧ (p.mem.ToReplay q ∨ (c.pc.awaitsTarget ∧ c.cql = q))} := by
    ext e
    exact mem_pendingWrites ht fun j u hu hji => hinv.others ht hpc hu hji
  rw [← hpend]
  exact hinv.lagging

/-- A step that nothing accepts, and that changes neither the queue nor the part of the
call in the writes under way. -/
theorem Converging.of_quiet (hinv : Converging effect rows generateId maxRetries filter h p)
    {i : ℕ} {c c' : WriteCall} {b : CallAction} (ht : p.threads[i]? = some c)
    (hstep : callStep generateId i p.mem c b = some (m', c')) (henq : b ≠ .enqueue)
    (hs : sourceOk (.act i b) = none) (ht' : targetOk (.act i b) = none)
    (hawait : c'.pc.awaitsTarget = c.pc.awaitsTarget)
    (hbefore : c'.pc.beforeSource → c.pc.beforeSource) (hsource : c'.pc ≠ .sourceOnly) :
    Converging effect rows generateId maxRetries filter (h ++ [PoolAction.act i b])
      { mem := m', threads := p.threads.set i c' } := by
  obtain ⟨hqueue, hretry⟩ := callStep_queue hstep henq
  have hsame : ∀ q, m'.ToReplay q ↔ p.mem.ToReplay q := toReplay_congr hqueue hretry
  refine hinv.of_call ht hstep (fun hb => ⟨hbefore hb, fun q => (hsame q).mp⟩) hsource ?_
  rw [sourceRows, targetRows, rowsAfter_concat_none effect rows hs,
    rowsAfter_concat_none effect rows ht']
  simp only [hsame, hawait, (callStep_request hstep).1]
  exact hinv.lagging_call ht (callStep_not_returned hstep)

/-- The source execute of a call: a write to a row that nothing under way is about. -/
theorem Converging.source (hinv : Converging effect rows generateId maxRetries filter h p)
    {i : ℕ} {c : WriteCall} {q : String} (ht : p.threads[i]? = some c)
    (hpc : c.pc = .dualSource) (hq : q = c.cql) :
    Lagging (sourceRows effect rows (h ++ [(.act i (.sourceExecute q .ok) : Action)]))
      (targetRows effect rows (h ++ [(.act i (.sourceExecute q .ok) : Action)]))
      {e | ∃ q, effect q = e ∧ (p.mem.ToReplay q ∨ c.cql = q)} := by
  have hret : c.pc.isReturned = false := by rw [hpc]; rfl
  have hold := hinv.lagging_call ht hret
  simp only [hpc, Pc.awaitsTarget, Bool.false_eq_true, false_and, or_false] at hold
  have hs : sourceOk (.act i (.sourceExecute q .ok)) = some q := rfl
  have ht' : targetOk (.act i (.sourceExecute q .ok)) = none := rfl
  rw [sourceRows, targetRows, rowsAfter_concat_some effect rows hs,
    rowsAfter_concat_none effect rows ht']
  refine hold.write ?_ ?_
  · rintro e ⟨q', he, hrep⟩
    have hbef : c.pc.beforeSource := by rw [hpc]; rfl
    rw [← he, hq]
    exact hinv.rowFree i c ht hbef q' hrep
  · intro e
    constructor
    · rintro ⟨q', he, hor⟩
      rcases hor with hrep | htext
      · exact Or.inl ⟨q', he, hrep⟩
      · exact Or.inr (by rw [← he, ← htext, hq])
    · intro hor
      rcases hor with ⟨q', he, hrep⟩ | he
      · exact ⟨q', he, Or.inl hrep⟩
      · exact ⟨c.cql, by rw [he, hq], Or.inr rfl⟩

/-- The target execute of a call. -/
theorem Converging.target (hinv : Converging effect rows generateId maxRetries filter h p)
    {i : ℕ} {c : WriteCall} {q : String} (ht : p.threads[i]? = some c)
    (hpc : c.pc = .dualTarget) (hq : q = c.cql) :
    Lagging (sourceRows effect rows (h ++ [(.act i (.targetExecute q .ok) : Action)]))
      (targetRows effect rows (h ++ [(.act i (.targetExecute q .ok) : Action)]))
      {e | ∃ q, effect q = e ∧ p.mem.ToReplay q} := by
  have hret : c.pc.isReturned = false := by rw [hpc]; rfl
  have hold := hinv.lagging_call ht hret
  simp only [hpc, Pc.awaitsTarget, true_and] at hold
  have hs : sourceOk (.act i (.targetExecute q .ok)) = none := rfl
  have ht' : targetOk (.act i (.targetExecute q .ok)) = some q := rfl
  rw [sourceRows, targetRows, rowsAfter_concat_none effect rows hs,
    rowsAfter_concat_some effect rows ht']
  refine hold.deliver ⟨q, rfl, Or.inr hq.symm⟩ ?_ ?_
  · rintro e ⟨q', he, hrep⟩
    exact ⟨q', he, Or.inl hrep⟩
  · rintro e ⟨q', he, hor⟩
    rcases hor with hrep | htext
    · exact Or.inl ⟨q', he, hrep⟩
    · exact Or.inr (by rw [← he, ← htext, hq])

/-- Every step of a call keeps the target lagging behind the source. -/
theorem Converging.call (hinv : Converging effect rows generateId maxRetries filter h p)
    (hgen : Function.Injective generateId) {i : ℕ} {c c' : WriteCall} {b : CallAction}
    (ht : p.threads[i]? = some c) (hcalm : undisturbed (.act i b))
    (hstep : callStep generateId i p.mem c b = some (m', c')) :
    Converging effect rows generateId maxRetries filter (h ++ [PoolAction.act i b])
      { mem := m', threads := p.threads.set i c' } := by
  cases b with
  -- the steps of the filter gate execute nothing and queue nothing
  | countTotal =>
    obtain ⟨hpc, _, hc⟩ := callStep_countTotal hstep
    refine hinv.of_quiet ht hstep (by simp) rfl rfl ?_ ?_ ?_ <;> rw [hc] <;>
      simp [hpc, Pc.awaitsTarget, Pc.beforeSource]
  | isEnabled =>
    obtain ⟨hpc, _, hc⟩ := callStep_isEnabled hstep
    refine hinv.of_quiet ht hstep (by simp) rfl rfl ?_ ?_ ?_ <;> rw [hc] <;>
      cases p.mem.filterEnabled <;> simp [hpc, Pc.awaitsTarget, Pc.beforeSource]
  | shouldSkipTable =>
    obtain ⟨hpc, _, hc⟩ := callStep_shouldSkipTable hstep
    refine hinv.of_quiet ht hstep (by simp) rfl rfl ?_ ?_ ?_ <;> rw [hc] <;>
      by_cases hskip : (p.mem.shouldSkipTable c.keyspace).1 = .skipTable <;>
      simp [hskip, hpc, Pc.awaitsTarget, Pc.beforeSource]
  -- a filtered write never reaches the target: these runs have none
  | countFiltered => exact absurd hcalm (by simp [undisturbed])
  | sourceExecute q o =>
    obtain ⟨hq, hm, hor⟩ := callStep_sourceExecute hstep
    cases o with
    | syncError e => exact absurd hcalm (by simp [undisturbed])
    | ok =>
      rcases hor with ⟨hpc, _⟩ | ⟨hpc, hc⟩
      · exact absurd hpc (hinv.unfiltered i c ht)
      · have hlag := hinv.source ht hpc hq
        subst hm hc
        refine hinv.of_call ht hstep ?_ ?_ ?_
        · simp [afterSource, Pc.beforeSource]
        · simp [afterSource]
        · simpa [afterSource, Pc.awaitsTarget] using hlag
  | targetExecute q o =>
    obtain ⟨hq, hpc, hm, hc⟩ := callStep_targetExecute hstep
    cases o with
    | ok =>
      have hlag := hinv.target ht hpc hq
      subst hm hc
      refine hinv.of_call ht hstep ?_ ?_ ?_
      · simp [afterTarget, Pc.beforeSource]
      · simp [afterTarget]
      · simpa [afterTarget, Pc.awaitsTarget] using hlag
    | syncError e =>
      -- the write is still on its way to the target: the call queues it next
      refine hinv.of_quiet ht hstep (by simp) rfl rfl ?_ ?_ ?_ <;> rw [hc] <;>
        simp [hpc, afterTarget, Pc.awaitsTarget, Pc.beforeSource]
  | enqueue =>
    obtain ⟨e, hpc, hm, hc⟩ := callStep_enqueue hstep
    have hholds := shadowInv_of_runs hgen hinv.isRun
    have hlocal : CallInv h i c := hholds.2 i c ht
    have hst := hlocal.stage
    rw [stageInv, hpc] at hst
    have hsame : ∀ q, m'.ToReplay q ↔ p.mem.ToReplay q ∨ q = c.cql := by
      rw [hm]
      exact toReplay_enqueue (hholds.1.queue.fresh hgen hst.1.2)
        (hholds.1.queue.notMem_toRemove hgen hst.1.2)
    refine hinv.of_call ht hstep ?_ ?_ ?_
    · rw [hc]; simp [Pc.beforeSource]
    · rw [hc]; simp
    · -- the write moves from the call to the queue
      have hlag := hinv.lagging_call ht (callStep_not_returned hstep)
      rw [sourceRows, targetRows, rowsAfter_concat_none effect rows rfl,
        rowsAfter_concat_none effect rows rfl]
      simpa [hsame, hc, hpc, Pc.awaitsTarget, sourceRows, targetRows, eq_comm] using hlag
  | finish =>
    obtain ⟨r, hpc, _, hc⟩ := callStep_finish hstep
    refine hinv.of_quiet ht hstep (by simp) rfl rfl ?_ ?_ ?_ <;> rw [hc] <;>
      simp [hpc, Pc.awaitsTarget, Pc.beforeSource]

/-! ## The retry thread, reloads and new calls -/

/-- Steps outside the calls: the calls stay where they are, and nothing is added to what
is to be replayed. -/
theorem Converging.of_env (hinv : Converging effect rows generateId maxRetries filter h p)
    {e : EnvAction} (hstep : envStep maxRetries p.mem e = some m')
    (hreplay : ∀ q, m'.ToReplay q → p.mem.ToReplay q)
    (hlag : Lagging (sourceRows effect rows (h ++ [PoolAction.env e]))
      (targetRows effect rows (h ++ [PoolAction.env e]))
      (pendingWrites effect { p with mem := m' })) :
    Converging effect rows generateId maxRetries filter (h ++ [PoolAction.env e]) { p with mem := m' } := by
  refine ⟨?_, hlag, hinv.sequential, ?_, hinv.unfiltered⟩
  · rw [runs, run_concat_eq_some]
    refine ⟨p, hinv.isRun, ?_⟩
    simp only [Pool.step]
    rw [show (program generateId maxRetries).env p.mem e = some m' from hstep]
    rfl
  · intro i c hc hbef q hq
    exact hinv.rowFree i c hc hbef q (hreplay q hq)

omit [DecidableEq R] in
theorem pendingWrites_congr {m' : Writer} (hsame : ∀ q, m'.ToReplay q ↔ p.mem.ToReplay q) :
    pendingWrites effect { p with mem := m' } = pendingWrites effect p := by
  simp only [pendingWrites, hsame]

/-- A successful retry: the newest write on its row reaches the target. -/
theorem Converging.replayed (hinv : Converging effect rows generateId maxRetries filter h p)
    (hone : OneText p.mem) (hqueue : QueueInv generateId h p.mem) {id q : String}
    (hstep : retryStep maxRetries p.mem (.execute id q .ok) = some m') :
    Converging effect rows generateId maxRetries filter
      (h ++ [(.env (.retry (.execute id q .ok)) : Action)])
      { p with mem := m' } := by
  obtain ⟨r, fw, rest, hr, _, htodo, hq, hor⟩ := retryStep_execute hstep
  have hm : m' = { p.mem with
      stats.retriedWrites := p.mem.stats.retriedWrites + 1
      retry := some (r.remove id) } := by
    rcases hor with ⟨_, hm⟩ | ⟨e, ho, _⟩
    · exact hm
    · exact absurd ho (by simp)
  have hfields : m'.failedWrites = p.mem.failedWrites ∧ m'.retry = some (r.remove id) := by
    rw [hm]
    exact ⟨rfl, rfl⟩
  obtain ⟨hhead, hsub, hrest⟩ := toReplay_close hqueue hone hr htodo hfields.1 hfields.2
  refine hinv.of_env hstep hsub ?_
  have hs : sourceOk (.env (.retry (.execute id q .ok))) = none := rfl
  have ht : targetOk (.env (.retry (.execute id q .ok))) = some q := rfl
  rw [sourceRows, targetRows, rowsAfter_concat_none effect rows hs,
    rowsAfter_concat_some effect rows ht]
  refine hinv.lagging.deliver ⟨q, rfl, Or.inl (hq ▸ hhead)⟩ ?_ ?_
  · rintro e ⟨q', he, hor⟩
    exact ⟨q', he, hor.imp_left (hsub q')⟩
  · rintro e ⟨q', he, hor⟩
    rcases hor with hrep | hcall
    · rcases hrest q' hrep with hrep' | heq
      · exact Or.inl ⟨q', he, Or.inl hrep'⟩
      · exact Or.inr (by rw [← he, heq, hq])
    · exact Or.inl ⟨q', he, Or.inr hcall⟩

/-- A step of the retry thread or a reload. -/
theorem Converging.env (hinv : Converging effect rows generateId maxRetries filter h p)
    (hgen : Function.Injective generateId) {e : EnvAction} (hcalm : undisturbed (.env e))
    (hstep : envStep maxRetries p.mem e = some m') :
    Converging effect rows generateId maxRetries filter (h ++ [PoolAction.env e]) { p with mem := m' } := by
  have hholds := shadowInv_of_runs hgen hinv.isRun
  have hone : OneText p.mem := oneText_of_runs hgen hinv.isRun
  have hsource : sourceOk (.env e) = none := by
    cases e with
    | reload => rfl
    | retry a => cases a <;> rfl
  have hquiet : targetOk (.env e) = none → (∀ q, m'.ToReplay q ↔ p.mem.ToReplay q) →
      Converging effect rows generateId maxRetries filter (h ++ [PoolAction.env e])
        { p with mem := m' } := by
    intro htarget hsame
    refine hinv.of_env hstep (fun q => (hsame q).mp) ?_
    rw [pendingWrites_congr hsame, sourceRows, targetRows, rowsAfter_concat_none effect rows hsource,
      rowsAfter_concat_none effect rows htarget]
    exact hinv.lagging
  cases e with
  | reload =>
    have hm := Option.some.inj hstep
    subst hm
    exact hquiet rfl (toReplay_congr rfl rfl)
  | retry a =>
    have hret : retryStep maxRetries p.mem a = some m' := hstep
    have hmove := retryStep_move hret
    cases hclosed : a.closed with
    | none =>
      refine hquiet ?_ (toReplay_of_move hholds.1.queue hone hmove hclosed)
      cases a with
      | execute id q o => cases o <;> first | rfl | exact absurd hclosed (by simp [RetryAction.closed])
      | _ => rfl
    | some id =>
      -- only a successful execute is left: abandoning and dropping are excluded
      cases a with
      | execute id' q o =>
        cases o with
        | syncError e => exact absurd hclosed (by simp [RetryAction.closed])
        | ok => exact hinv.replayed hone hholds.1.queue hret
      | abandon id' => exact absurd hcalm (by simp [undisturbed])
      | drop id' => exact absurd hcalm (by simp [undisturbed])
      | _ => exact absurd hclosed (by simp [RetryAction.closed])

/-- A new call, to a row that nothing in the queue is about. -/
theorem Converging.spawn (hinv : Converging effect rows generateId maxRetries filter h p)
    (hgen : Function.Injective generateId) {k : WriteRequest}
    (hreturned : OneAtATime p (.spawn k)) (hrow : RowNotQueued effect p (.spawn k)) :
    Converging effect rows generateId maxRetries filter (h ++ [PoolAction.spawn k])
      { p with threads := p.threads ++ [{ cql := k.cql, keyspace := k.keyspace }] } := by
  have hholds := shadowInv_of_runs hgen hinv.isRun
  have hone : OneText p.mem := oneText_of_runs hgen hinv.isRun
  refine ⟨?_, ?_, ?_, ?_, ?_⟩
  · rw [runs, run_concat_eq_some]
    exact ⟨p, hinv.isRun, rfl⟩
  · -- the new call has executed nothing yet
    have hpend : pendingWrites effect
        { p with threads := p.threads ++ [⟨k.cql, k.keyspace, .entered⟩] } =
        pendingWrites effect p := by
      ext e
      constructor
      · rintro ⟨q, he, hor⟩
        rcases hor with hrep | ⟨i, c, hc, hawaits, htext⟩
        · exact ⟨q, he, Or.inl hrep⟩
        · rcases Pool.of_getElem?_concat hc with hc | ⟨_, hc⟩
          · exact ⟨q, he, Or.inr ⟨i, c, hc, hawaits, htext⟩⟩
          · rw [hc] at hawaits
            exact absurd hawaits (by simp [Pc.awaitsTarget])
      · rintro ⟨q, he, hor⟩
        rcases hor with hrep | ⟨i, c, hc, hawaits, htext⟩
        · exact ⟨q, he, Or.inl hrep⟩
        · refine ⟨q, he, Or.inr ⟨i, c, ?_, hawaits, htext⟩⟩
          rw [List.getElem?_append_left (List.getElem?_eq_some_iff.mp hc).1]
          exact hc
    rw [hpend, sourceRows, targetRows, rowsAfter_concat_none effect rows rfl,
      rowsAfter_concat_none effect rows rfl]
    exact hinv.lagging
  · intro i c hc hlt
    rw [List.length_append, List.length_singleton] at hlt
    rcases Pool.of_getElem?_concat hc with hc | ⟨hi, _⟩
    · exact hreturned c (List.mem_of_getElem? hc)
    · omega
  · intro i c hc hbef q hq
    rcases Pool.of_getElem?_concat hc with hc | ⟨_, hc⟩
    · exact hinv.rowFree i c hc hbef q hq
    · -- here the condition on queued rows is used
      obtain ⟨e, he, htext⟩ := mem_entries_of_toReplay hholds.1.queue hone hq
      rw [hc, ← htext]
      exact hrow e he
  · intro i c hc
    rcases Pool.of_getElem?_concat hc with hc | ⟨_, hc⟩
    · exact hinv.unfiltered i c hc
    · rw [hc]; simp

/-! ## The result -/

/-- The target lags behind the source in every orderly run. -/
theorem converging_of_orderly (hgen : Function.Injective generateId)
    (hmeets : Meets (Pool.step (program generateId maxRetries)) (fun _ p a => Orderly effect p a) []
      (initial filter) h)
    (hrun : runs generateId maxRetries filter h = some p) :
    Converging effect rows generateId maxRetries filter h p := by
  refine run_invariant_of_meets ?_ ?_ h p hmeets hrun
  · refine ⟨rfl, ?_, by simp [initial, Pool.init], by simp [initial, Pool.init],
      by simp [initial, Pool.init]⟩
    have hpend : pendingWrites effect (initial filter) = ∅ := by
      ext e
      simp [pendingWrites, initial, Pool.init, Writer.ToReplay, Writer.HasCopy, Writer.todo,
        Writer.toUpdate]
    rw [hpend]
    exact Lagging.refl rows
  · intro h p a p' hinv hC hstep
    cases a with
    | spawn k =>
      rw [Pool.step_spawn hstep]
      exact hinv.spawn hgen hC.1.1 hC.1.2
    | act i b =>
      obtain ⟨c, m', c', ht, hthread, hp'⟩ := Pool.step_act hstep
      rw [hp']
      exact hinv.call hgen ht hC.2 hthread
    | env e =>
      obtain ⟨m', henv, hp'⟩ := Pool.step_env hstep
      rw [hp']
      exact hinv.env hgen hC.2 henv

end Rows

/-- One client issues its writes one after another, none to a row that still has an entry
in `failed_writes_`; no source execute fails and nothing is filtered, abandoned or
dropped. Whenever no call and no retry cycle is in progress and nothing is queued, the
target has the rows of the source. -/
theorem target_converges {R V : Type} [DecidableEq R] (effect : String → R × V) (rows : R → V)
    (generateId : ℕ → String) (maxRetries : UInt32) (filter : Option BlacklistFilterGovernor)
    (h : List Action) (p : State) (hgen : Function.Injective generateId)
    (hrun : runs generateId maxRetries filter h = some p)
    (hclient : Meets (Pool.step (program generateId maxRetries))
      (fun _ p a => OneAtATime p a ∧ RowNotQueued effect p a) [] (initial filter) h)
    (hcalm : ∀ a ∈ h, undisturbed a)
    (hreturned : ∀ c ∈ p.threads, c.pc.isReturned) (hidle : p.mem.retry = none)
    (hempty : p.mem.pendingRetryCount = 0) :
    targetRows effect rows h = sourceRows effect rows h := by
  have hmeets := hclient.and_of_mem hcalm
  have hinv : Converging effect rows generateId maxRetries filter h p :=
    converging_of_orderly hgen hmeets hrun
  have hnothing : pendingWrites effect p = ∅ := by
    have hkeys : p.mem.failedWrites.keys = [] := List.eq_nil_of_length_eq_zero hempty
    ext e
    simp only [Set.mem_empty_iff_false, iff_false]
    rintro ⟨q, _, hor⟩
    -- under way is what is queued, or held by a call: there is neither
    rcases hor with hrep | ⟨i, c, hc, hawaits, _⟩
    · obtain ⟨id, fw, hl, _⟩ := (toReplay_of_idle hidle).mp hrep
      have hin : id ∈ p.mem.failedWrites.keys := by
        rw [← AList.mem_keys, ← AList.lookup_isSome, hl]
        rfl
      rw [hkeys] at hin
      exact absurd hin (by simp)
    · have hret := hreturned c (List.mem_of_getElem? hc)
      rw [Pc.awaitsTarget_of_isReturned hret] at hawaits
      exact absurd hawaits Bool.false_ne_true
  have hlag := hinv.lagging
  rw [hnothing] at hlag
  exact hlag.eq_of_empty.symm

/-- The steps of call `w` whose shadow write times out and is queued. -/
def queuedWrite (w : ℕ) (cql : String) : List Action :=
  [.spawn ⟨cql, "ks.t"⟩, .act w .countTotal, .act w .isEnabled,
    .act w (.sourceExecute cql .ok), .act w (.targetExecute cql (.syncError "timeout")),
    .act w .enqueue, .act w .finish]

/-- The steps of call `w` when both clusters accept the statement. -/
def directWrite (w : ℕ) (cql : String) : List Action :=
  [.spawn ⟨cql, "ks.t"⟩, .act w .countTotal, .act w .isEnabled,
    .act w (.sourceExecute cql .ok), .act w (.targetExecute cql .ok), .act w .finish]

/-- A retry cycle that finds one entry and executes it. -/
def retryCycle (id cql : String) : List Action :=
  [.env (.retry (.snapshot [id])), .env (.retry (.keep id)), .env (.retry .isEnabled),
    .env (.retry (.execute id cql .ok)), .env (.retry .apply)]

/-- Two statements on one row. -/
def rowEffect (cql : String) : ℕ × ℕ :=
  if cql = "UPDATE ks.t SET v = 1 WHERE k = 0" then (0, 1) else (0, 2)

theorem target_converges_retried :
    targetRows rowEffect (fun _ => 0)
        (queuedWrite 0 "UPDATE ks.t SET v = 1 WHERE k = 0" ++
          retryCycle "" "UPDATE ks.t SET v = 1 WHERE k = 0") =
      sourceRows rowEffect (fun _ => 0)
        (queuedWrite 0 "UPDATE ks.t SET v = 1 WHERE k = 0" ++
          retryCycle "" "UPDATE ks.t SET v = 1 WHERE k = 0") :=
  target_converges rowEffect (fun _ => 0) unaryId 3 none
    (queuedWrite 0 "UPDATE ks.t SET v = 1 WHERE k = 0" ++
      retryCycle "" "UPDATE ks.t SET v = 1 WHERE k = 0")
    { mem := { filter := none
               stats := { totalWrites := 1, successfulWrites := 1, retriedWrites := 1 } }
      threads := [{ cql := "UPDATE ks.t SET v = 1 WHERE k = 0", keyspace := "ks.t",
                    pc := .returned (Writer.shadowFailed "timeout") }] }
    unaryId_injective rfl (by decide) (by decide) (by decide) rfl rfl

/-- Without the condition on queued rows: the first write to a row is queued, the second
reaches both clusters, and the retry puts the first one's value back on the target. -/
theorem stale_replay_diverges :
    ¬ ∀ (effect : String → ℕ × ℕ) (rows : ℕ → ℕ) (generateId : ℕ → String) (maxRetries : UInt32)
        (filter : Option BlacklistFilterGovernor) (h : List Action) (p : State),
      Function.Injective generateId →
      runs generateId maxRetries filter h = some p →
      Meets (Pool.step (program generateId maxRetries)) (fun _ p a => OneAtATime p a) []
        (initial filter) h →
      (∀ a ∈ h, undisturbed a) → (∀ c ∈ p.threads, c.pc.isReturned) → p.mem.retry = none →
      p.mem.pendingRetryCount = 0 →
      targetRows effect rows h = sourceRows effect rows h := by
  intro hall
  have heq := hall rowEffect (fun _ => 0) unaryId 3 none
    (queuedWrite 0 "UPDATE ks.t SET v = 1 WHERE k = 0" ++
      (directWrite 1 "UPDATE ks.t SET v = 2 WHERE k = 0" ++
        retryCycle "" "UPDATE ks.t SET v = 1 WHERE k = 0"))
    { mem := { filter := none
               stats := { totalWrites := 2, successfulWrites := 2, retriedWrites := 1 } }
      threads := [{ cql := "UPDATE ks.t SET v = 1 WHERE k = 0", keyspace := "ks.t",
                    pc := .returned (Writer.shadowFailed "timeout") },
                  { cql := "UPDATE ks.t SET v = 2 WHERE k = 0", keyspace := "ks.t",
                    pc := .returned { sourceOk := true, targetOk := true } }] }
    unaryId_injective rfl (by decide) (by decide) (by decide) rfl rfl
  exact absurd (congrFun heq 0) (by decide)

end DualWriter
end ScyllaClusterSync
