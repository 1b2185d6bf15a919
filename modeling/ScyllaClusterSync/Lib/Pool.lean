import ScyllaClusterSync.Lib.Transition

/-!
# Threads over a shared memory

A pool is a shared memory together with the threads started so far. One action either
starts a thread, lets one thread take an atomic step on the memory, or lets the
environment change the memory. Nothing bounds the number of threads, and every
interleaving of their steps is a run of `Pool.step`.

`Pool.invariant_of_meets` is the proof rule: a global assertion `G` on history and
memory, and a local assertion `L` on each thread. A step of thread `i` may use `G` and
its own `L`; it has to re-establish both and must not disturb the local assertion of any
other thread.
-/

namespace ScyllaClusterSync
namespace Lib

/-- A shared memory and the threads started so far, in the order they were started. -/
structure Pool (μ τ : Type*) where
  mem : μ
  threads : List τ
deriving DecidableEq

/-- One action of a pool: `κ` starts a thread, `α` is a step of a thread, `ε` one of the
environment. -/
inductive PoolAction (κ α ε : Type*) where
  | spawn (k : κ)
  | act (i : ℕ) (a : α)
  | env (e : ε)
deriving DecidableEq

namespace Pool

variable {μ τ κ α ε : Type*}

/-- What a pool is made of: how a thread starts, how thread `i` steps, how the
environment steps. -/
structure Program (μ τ κ α ε : Type*) where
  start : κ → τ
  thread : ℕ → μ → τ → α → Option (μ × τ)
  env : μ → ε → Option μ

variable (P : Program μ τ κ α ε)

/-- One action of the pool. -/
def step (p : Pool μ τ) : PoolAction κ α ε → Option (Pool μ τ)
  | .spawn k => some { p with threads := p.threads ++ [P.start k] }
  | .act i a => p.threads[i]?.bind fun t => (P.thread i p.mem t a).map fun (m, t') =>
    { mem := m, threads := p.threads.set i t' }
  | .env e => (P.env p.mem e).map fun m => { p with mem := m }

/-- The pool before anything has been started. -/
def init (m : μ) : Pool μ τ := { mem := m, threads := [] }

variable {P}

theorem step_spawn {p p' : Pool μ τ} {k : κ} (h : step P p (.spawn k) = some p') :
    p' = { p with threads := p.threads ++ [P.start k] } :=
  (Option.some.inj h).symm

theorem step_act {p p' : Pool μ τ} {i : ℕ} {a : α} (h : step P p (.act i a) = some p') :
    ∃ t m t', p.threads[i]? = some t ∧ P.thread i p.mem t a = some (m, t') ∧
      p' = { mem := m, threads := p.threads.set i t' } := by
  simp only [step, Option.bind_eq_some_iff, Option.map_eq_some_iff] at h
  obtain ⟨t, ht, ⟨m, t'⟩, hm, hp⟩ := h
  exact ⟨t, m, t', ht, hm, hp.symm⟩

theorem step_env {p p' : Pool μ τ} {e : ε} (h : step P p (.env e) = some p') :
    ∃ m, P.env p.mem e = some m ∧ p' = { p with mem := m } := by
  simp only [step, Option.map_eq_some_iff] at h
  obtain ⟨m, hm, hp⟩ := h
  exact ⟨m, hm, hp.symm⟩

/-! ## The threads after a step -/

/-- After a step of thread `i`: thread `i` as the step left it, or another one as it was. -/
theorem of_getElem?_set {ts : List τ} {i j : ℕ} {t t' u : τ} (ht : ts[i]? = some t)
    (hu : (ts.set i t')[j]? = some u) : (j = i ∧ u = t') ∨ (j ≠ i ∧ ts[j]? = some u) := by
  by_cases hji : j = i
  · subst hji
    rw [List.getElem?_set_self (List.getElem?_eq_some_iff.mp ht).1] at hu
    exact Or.inl ⟨rfl, (Option.some.inj hu).symm⟩
  · rw [List.getElem?_set_ne (Ne.symm hji)] at hu
    exact Or.inr ⟨hji, hu⟩

/-- After a start: one of the old threads, or the new one in the last place. -/
theorem of_getElem?_concat {ts : List τ} {i : ℕ} {t u : τ} (hu : (ts ++ [t])[i]? = some u) :
    ts[i]? = some u ∨ (i = ts.length ∧ u = t) := by
  rcases Nat.lt_or_ge i ts.length with hi | hi
  · rw [List.getElem?_append_left hi] at hu
    exact Or.inl hu
  · rw [List.getElem?_append_right hi] at hu
    obtain ⟨hlt, rfl⟩ := List.getElem?_eq_some_iff.mp hu
    rw [List.length_singleton] at hlt
    refine Or.inr ⟨by omega, ?_⟩
    simp

/-- The threads with a property, after a step of one of them. -/
theorem countP_set_add {ts : List τ} {i : ℕ} {t : τ} (ht : ts[i]? = some t) (f : τ → Bool)
    (t' : τ) :
    (ts.set i t').countP f + (if f t then 1 else 0) = ts.countP f + if f t' then 1 else 0 := by
  obtain ⟨hi, hget⟩ := List.getElem?_eq_some_iff.mp ht
  have hle : (if f t then 1 else 0) ≤ ts.countP f := by
    split
    next hft => exact List.countP_pos_iff.mpr ⟨t, hget ▸ List.getElem_mem hi, hft⟩
    · exact Nat.zero_le _
  rw [List.countP_set hi, hget]
  omega

/-- A started thread goes on as it was, unless the step was its own. -/
theorem getElem?_of_step {p p' : Pool μ τ} {a : PoolAction κ α ε} (h : step P p a = some p')
    {i : ℕ} {t : τ} (ht : p.threads[i]? = some t) :
    p'.threads[i]? = some t ∨
      ∃ b t', a = .act i b ∧ P.thread i p.mem t b = some (p'.mem, t') ∧
        p'.threads[i]? = some t' := by
  cases a with
  | spawn k =>
    obtain rfl := step_spawn h
    left
    show (p.threads ++ [P.start k])[i]? = some t
    rw [List.getElem?_append_left (List.getElem?_eq_some_iff.mp ht).1, ht]
  | act j b =>
    obtain ⟨u, m, u', hu, hm, rfl⟩ := step_act h
    by_cases hij : j = i
    · subst hij
      obtain rfl := Option.some.inj (ht.symm.trans hu)
      exact Or.inr ⟨b, u', rfl, hm, List.getElem?_set_self (List.getElem?_eq_some_iff.mp ht).1⟩
    · left
      show (p.threads.set j u')[i]? = some t
      rw [List.getElem?_set_ne hij, ht]
  | env e =>
    obtain ⟨m, _, rfl⟩ := step_env h
    exact Or.inl ht

/-- Among the threads: thread `i`, or another one. -/
theorem exists_getElem?_iff {ts : List τ} {i : ℕ} {t : τ} (ht : ts[i]? = some t)
    {Q : ℕ → τ → Prop} : (∃ j u, ts[j]? = some u ∧ Q j u) ↔
      Q i t ∨ ∃ j u, j ≠ i ∧ ts[j]? = some u ∧ Q j u := by
  constructor
  · intro hex
    obtain ⟨j, u, hu, hQ⟩ := hex
    by_cases hji : j = i
    · subst hji
      obtain rfl := Option.some.inj (hu.symm.trans ht)
      exact Or.inl hQ
    · exact Or.inr ⟨j, u, hji, hu, hQ⟩
  · intro hor
    rcases hor with hQ | ⟨j, u, _, hu, hQ⟩
    · exact ⟨i, t, ht, hQ⟩
    · exact ⟨j, u, hu, hQ⟩

/-- Among the threads after a step of thread `i`: thread `i`, or another one as it was. -/
theorem exists_getElem?_set_iff {ts : List τ} {i : ℕ} {t t' : τ} (ht : ts[i]? = some t)
    {Q : ℕ → τ → Prop} : (∃ j u, (ts.set i t')[j]? = some u ∧ Q j u) ↔
      Q i t' ∨ ∃ j u, j ≠ i ∧ ts[j]? = some u ∧ Q j u := by
  have hself : (ts.set i t')[i]? = some t' :=
    List.getElem?_set_self (List.getElem?_eq_some_iff.mp ht).1
  rw [exists_getElem?_iff hself]
  constructor
  · intro hor
    rcases hor with hQ | ⟨j, u, hji, hu, hQ⟩
    · exact Or.inl hQ
    · rw [List.getElem?_set_ne (Ne.symm hji)] at hu
      exact Or.inr ⟨j, u, hji, hu, hQ⟩
  · intro hor
    rcases hor with hQ | ⟨j, u, hji, hu, hQ⟩
    · exact Or.inl hQ
    · refine Or.inr ⟨j, u, hji, ?_, hQ⟩
      rw [List.getElem?_set_ne (Ne.symm hji)]
      exact hu

/-- Among the threads after a start: the new one, or one of the old. -/
theorem exists_getElem?_concat_iff {ts : List τ} {t : τ} {Q : ℕ → τ → Prop} :
    (∃ j u, (ts ++ [t])[j]? = some u ∧ Q j u) ↔
      Q ts.length t ∨ ∃ j u, ts[j]? = some u ∧ Q j u := by
  constructor
  · intro hex
    obtain ⟨j, u, hu, hQ⟩ := hex
    rcases of_getElem?_concat hu with hold | ⟨rfl, rfl⟩
    · exact Or.inr ⟨j, u, hold, hQ⟩
    · exact Or.inl hQ
  · intro hor
    rcases hor with hQ | ⟨j, u, hu, hQ⟩
    · exact ⟨ts.length, t, by simp, hQ⟩
    · refine ⟨j, u, ?_, hQ⟩
      rw [List.getElem?_append_left (List.getElem?_eq_some_iff.mp hu).1]
      exact hu

/-! ## Threads are only ever added -/

theorem length_le_of_step {p p' : Pool μ τ} {a : PoolAction κ α ε} (h : step P p a = some p') :
    p.threads.length ≤ p'.threads.length := by
  cases a with
  | spawn k => rw [step_spawn h]; simp
  | act i a =>
    obtain ⟨t, m, t', -, -, rfl⟩ := step_act h
    simp
  | env e =>
    obtain ⟨m, -, rfl⟩ := step_env h
    simp

/-- Only threads that have been started occur in the history. -/
theorem lt_length_of_mem {m₀ : μ} {h : List (PoolAction κ α ε)} {p : Pool μ τ}
    (hrun : run (step P) (init m₀) h = some p) {i : ℕ} {a : α} (ha : .act i a ∈ h) :
    i < p.threads.length := by
  have hstep : ∀ (h : List (PoolAction κ α ε)) (p : Pool μ τ) (b : PoolAction κ α ε)
      (p' : Pool μ τ), (.act i a ∈ h → i < p.threads.length) → step P p b = some p' →
      .act i a ∈ h ++ [b] → i < p'.threads.length := by
    intro h p b p' hinv hstep hmem
    rw [List.mem_append, List.mem_singleton] at hmem
    rcases hmem with hmem | rfl
    · exact Nat.lt_of_lt_of_le (hinv hmem) (length_le_of_step hstep)
    · obtain ⟨t, m, t', ht, -, -⟩ := step_act hstep
      exact Nat.lt_of_lt_of_le (List.getElem?_eq_some_iff.mp ht).1 (length_le_of_step hstep)
  exact @run_invariant _ _ (step P) (init m₀) (fun h p => .act i a ∈ h → i < p.threads.length)
    (by simp) hstep h p hrun ha

/-- There is no thread until one has been started. -/
theorem threads_eq_nil_iff {m₀ : μ} {h : List (PoolAction κ α ε)} {p : Pool μ τ}
    (hrun : run (step P) (init m₀) h = some p) :
    p.threads = [] ↔ ∀ k, .spawn k ∉ h := by
  have hstep : ∀ (h : List (PoolAction κ α ε)) (p : Pool μ τ) (b : PoolAction κ α ε)
      (p' : Pool μ τ), (p.threads = [] ↔ ∀ k, .spawn k ∉ h) → step P p b = some p' →
      (p'.threads = [] ↔ ∀ k, .spawn k ∉ h ++ [b]) := by
    intro h p b p' hinv hstep
    cases b with
    | spawn k =>
      rw [step_spawn hstep]
      refine iff_of_false (by simp) fun hnone => ?_
      exact hnone k (List.mem_append_right _ (List.mem_singleton_self _))
    | act i a =>
      obtain ⟨t, m, t', -, -, rfl⟩ := step_act hstep
      simpa using hinv
    | env e =>
      obtain ⟨m, -, rfl⟩ := step_env hstep
      simpa using hinv
  exact @run_invariant _ _ (step P) (init m₀) (fun h p => p.threads = [] ↔ ∀ k, .spawn k ∉ h)
    (by simp [init]) hstep h p hrun

/-! ## The steps of one thread in a history -/

/-- The steps of thread `i`, in order. -/
def stepsOf (i : ℕ) (h : List (PoolAction κ α ε)) : List α :=
  h.filterMap fun b => match b with
    | .act j a => if j = i then some a else none
    | _ => none

theorem mem_stepsOf {i : ℕ} {h : List (PoolAction κ α ε)} {a : α} :
    a ∈ stepsOf i h ↔ .act i a ∈ h := by
  unfold stepsOf
  rw [List.mem_filterMap]
  constructor
  · intro hex
    obtain ⟨b, hb, heq⟩ := hex
    cases b with
    | act j a' =>
      simp only [Option.ite_none_right_eq_some, Option.some.injEq] at heq
      rw [← heq.1, ← heq.2]
      exact hb
    | spawn k => simp at heq
    | env e => simp at heq
  · intro hmem
    exact ⟨_, hmem, by simp⟩

theorem stepsOf_concat_self (i : ℕ) (h : List (PoolAction κ α ε)) (a : α) :
    stepsOf i (h ++ [.act i a]) = stepsOf i h ++ [a] := by
  simp [stepsOf, List.filterMap_append]

/-- What is not a step of thread `i` does not count. -/
theorem stepsOf_concat_other {i : ℕ} (h : List (PoolAction κ α ε)) {b : PoolAction κ α ε}
    (hb : ∀ a, b ≠ .act i a) : stepsOf i (h ++ [b]) = stepsOf i h := by
  unfold stepsOf
  rw [List.filterMap_append]
  cases b with
  | act j a =>
    have hji : j ≠ i := fun heq => hb a (by rw [heq])
    simp [hji]
  | spawn k => simp
  | env e => simp

theorem stepsOf_eq_nil {i : ℕ} {h : List (PoolAction κ α ε)} (hnew : ∀ a, .act i a ∉ h) :
    stepsOf i h = [] := by
  rw [List.eq_nil_iff_forall_not_mem]
  intro a ha
  exact hnew a (mem_stepsOf.mp ha)

/-! ## A thread that runs alone -/

/-- The steps of thread `i` on its own, as a machine on memory and thread. -/
def solo (P : Program μ τ κ α ε) (i : ℕ) (s : μ × τ) (a : α) : Option (μ × τ) :=
  P.thread i s.1 s.2 a

/-- What a thread does alone is a run of the pool that leaves the other threads as they are. -/
theorem run_solo {i : ℕ} {as : List α} {p : Pool μ τ} {t : τ} {s : μ × τ}
    (ht : p.threads[i]? = some t) (hrun : run (solo P i) (p.mem, t) as = some s) :
    run (step P) p (as.map (.act i)) = some { mem := s.1, threads := p.threads.set i s.2 } := by
  induction as generalizing p t with
  | nil =>
    -- nothing was done, and setting the thread to what it is changes nothing
    simp only [run_nil, Option.some.injEq] at hrun
    subst hrun
    have hset : p.threads.set i t = p.threads := by
      obtain ⟨hi, rfl⟩ := List.getElem?_eq_some_iff.mp ht
      exact List.set_getElem_self hi
    rw [List.map_nil, run_nil, hset]
  | cons a as ih =>
    simp only [run, Option.bind_eq_some_iff] at hrun
    obtain ⟨⟨m, t'⟩, hstep, hrest⟩ := hrun
    have hp : step P p (.act i a) = some { mem := m, threads := p.threads.set i t' } := by
      simp only [step, ht, Option.bind_some]
      rw [show P.thread i p.mem t a = some (m, t') from hstep]
      rfl
    have hlt : i < p.threads.length := (List.getElem?_eq_some_iff.mp ht).1
    have ht' : (Pool.mk m (p.threads.set i t')).threads[i]? = some t' :=
      List.getElem?_set_self hlt
    have hrun' := ih ht' hrest
    rw [List.map_cons, run, hp, Option.bind_some, hrun', List.set_set]

/-- The only thread that is ever started. -/
theorem run_spawn_solo {k : κ} {as : List α} {m₀ : μ} {s : μ × τ}
    (hrun : run (solo P 0) (m₀, P.start k) as = some s) :
    run (step P) (init m₀) (.spawn k :: as.map (.act 0)) =
      some { mem := s.1, threads := [s.2] } := by
  let p : Pool μ τ := { mem := m₀, threads := [P.start k] }
  have ht : p.threads[0]? = some (P.start k) := rfl
  have hsolo := run_solo ht hrun
  exact hsolo

/-! ## The proof rule -/

/-- The global assertion holds of the memory and every thread satisfies its local one. -/
def Holds (G : List (PoolAction κ α ε) → μ → Prop)
    (L : List (PoolAction κ α ε) → μ → ℕ → τ → Prop)
    (h : List (PoolAction κ α ε)) (p : Pool μ τ) : Prop :=
  G h p.mem ∧ ∀ i t, p.threads[i]? = some t → L h p.mem i t

/-- Global and local assertions that every step keeps, and that no step of another
thread disturbs, hold throughout every run whose steps meet `C`. -/
theorem invariant_of_meets {G : List (PoolAction κ α ε) → μ → Prop}
    {L : List (PoolAction κ α ε) → μ → ℕ → τ → Prop}
    {C : List (PoolAction κ α ε) → Pool μ τ → PoolAction κ α ε → Prop} {m₀ : μ}
    (hinit : G [] m₀)
    (hspawn : ∀ h p k, Holds G L h p → C h p (.spawn k) →
      (∀ a, PoolAction.act p.threads.length a ∉ h) →
      G (h ++ [PoolAction.spawn k]) p.mem ∧
        L (h ++ [PoolAction.spawn k]) p.mem p.threads.length (P.start k) ∧
        ∀ j u, L h p.mem j u → L (h ++ [PoolAction.spawn k]) p.mem j u)
    (hact : ∀ h p i a t m t', Holds G L h p → C h p (.act i a) → p.threads[i]? = some t →
      P.thread i p.mem t a = some (m, t') →
      G (h ++ [PoolAction.act i a]) m ∧ L (h ++ [PoolAction.act i a]) m i t' ∧
        ∀ j u, j ≠ i → L h p.mem j u → L (h ++ [PoolAction.act i a]) m j u)
    (henv : ∀ h p e m, Holds G L h p → C h p (.env e) → P.env p.mem e = some m →
      G (h ++ [PoolAction.env e]) m ∧ ∀ j u, L h p.mem j u → L (h ++ [PoolAction.env e]) m j u) :
    ∀ h p, Meets (step P) C [] (init m₀) h → run (step P) (init m₀) h = some p →
      Holds G L h p := by
  intro h
  induction h using List.reverseRecOn with
  | nil =>
    intro p _ hp
    simp only [run_nil, Option.some.injEq] at hp
    subst hp
    exact ⟨hinit, by simp [init]⟩
  | append_singleton h b ih =>
    intro p' hm hp'
    obtain ⟨p, hrun, hstep⟩ := run_concat_eq_some.mp hp'
    obtain ⟨hm', hC⟩ := hm.concat hrun
    have hp := ih p hm' hrun
    cases b with
    | spawn k =>
      obtain rfl := step_spawn hstep
      -- the new thread has the first free index, so no action so far is one of its steps
      have hnew : ∀ a, PoolAction.act p.threads.length a ∉ h := fun a ha =>
        Nat.lt_irrefl _ (lt_length_of_mem hrun ha)
      obtain ⟨hG, hL, hframe⟩ := hspawn h p k hp hC hnew
      refine ⟨hG, fun i t ht => ?_⟩
      rcases of_getElem?_concat ht with ht | ⟨rfl, rfl⟩
      · exact hframe i t (hp.2 i t ht)
      · exact hL
    | act i a =>
      -- its own step keeps the assertion of thread `i`, and the others are not disturbed
      obtain ⟨t, m, t', ht, hthread, rfl⟩ := step_act hstep
      obtain ⟨hG, hL, hframe⟩ := hact h p i a t m t' hp hC ht hthread
      refine ⟨hG, fun j u hu => ?_⟩
      rcases of_getElem?_set ht hu with ⟨rfl, rfl⟩ | ⟨hji, hu⟩
      · exact hL
      · exact hframe j u hji (hp.2 j u hu)
    | env e =>
      obtain ⟨m, henvm, rfl⟩ := step_env hstep
      obtain ⟨hG, hframe⟩ := henv h p e m hp hC henvm
      exact ⟨hG, fun i t ht => hframe i t (hp.2 i t ht)⟩

/-- Every run meets the condition that asks for nothing. -/
theorem meets_true {m₀ : μ} (h : List (PoolAction κ α ε)) :
    Meets (step P) (fun _ _ _ => True) [] (init m₀) h := by
  suffices hgen : ∀ (as g : List (PoolAction κ α ε)) (p : Pool μ τ),
      Meets (step P) (fun _ _ _ => True) g p as from hgen h [] (init m₀)
  intro as
  induction as with
  | nil => intro _ _; trivial
  | cons a as ih =>
    intro g p
    refine ⟨trivial, ?_⟩
    cases step P p a with
    | none => trivial
    | some p' => exact ih _ _

end Pool
end Lib
end ScyllaClusterSync
