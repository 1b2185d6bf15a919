import ScyllaClusterSync.Lib.Pool

/-!
# A second layer over a pool

An overlay gives each thread of a program notes of its own, and the shared memory a part the
program does not know of. A step of the program leaves notes with its thread; a step of the
overlay reads the thread, and changes only its notes and the part of the memory that is the
overlay's. So the overlay never disturbs the program: a run of both is a run of the program
with steps of the overlay between (`run_erase`), and what is known of the program's runs holds
under any overlay.
-/

namespace ScyllaClusterSync
namespace Lib

/-- Notes `σ` on the threads `τ`, a memory `ν`, and steps `β` over the steps `α` of a program. -/
structure Overlay (τ ν σ α β : Type*) where
  fresh : σ
  note : α → σ → σ
  act : ν → τ → σ → β → Option (ν × σ)

namespace Overlay

variable {μ τ ν σ κ α β ε : Type*}

/-- The program together with the overlay. -/
def program (P : Pool.Program μ τ κ α ε) (O : Overlay τ ν σ α β) :
    Pool.Program (μ × ν) (τ × σ) κ (α ⊕ β) ε where
  start k := (P.start k, O.fresh)
  thread i m t
    | .inl a => (P.thread i m.1 t.1 a).map fun r => ((r.1, m.2), (r.2, O.note a t.2))
    | .inr b => (O.act m.2 t.1 t.2 b).map fun r => ((m.1, r.1), (t.1, r.2))
  env m e := (P.env m.1 e).map fun m' => (m', m.2)

/-- The pool under the overlay. -/
def erase (p : Pool (μ × ν) (τ × σ)) : Pool μ τ where
  mem := p.mem.1
  threads := p.threads.map Prod.fst

/-- The action of the program, if it is one. -/
def eraseAction : PoolAction κ (α ⊕ β) ε → Option (PoolAction κ α ε)
  | .spawn k => some (.spawn k)
  | .act i (.inl a) => some (.act i a)
  | .act _ (.inr _) => none
  | .env e => some (.env e)

variable {P : Pool.Program μ τ κ α ε} {O : Overlay τ ν σ α β} {p p' : Pool (μ × ν) (τ × σ)}

/-- A step of the program under the overlay. -/
theorem thread_inl {i : ℕ} {m m' : μ × ν} {t t' : τ × σ} {a : α}
    (h : (O.program P).thread i m t (.inl a) = some (m', t')) :
    P.thread i m.1 t.1 a = some (m'.1, t'.1) ∧ m'.2 = m.2 ∧ t'.2 = O.note a t.2 := by
  obtain ⟨r, hr, heq⟩ := Option.map_eq_some_iff.mp h
  obtain ⟨rfl, rfl⟩ := Prod.mk.inj heq
  exact ⟨hr, rfl, rfl⟩

/-- A step of the overlay. -/
theorem thread_inr {i : ℕ} {m m' : μ × ν} {t t' : τ × σ} {b : β}
    (h : (O.program P).thread i m t (.inr b) = some (m', t')) :
    O.act m.2 t.1 t.2 b = some (m'.2, t'.2) ∧ m'.1 = m.1 ∧ t'.1 = t.1 := by
  obtain ⟨r, hr, heq⟩ := Option.map_eq_some_iff.mp h
  obtain ⟨rfl, rfl⟩ := Prod.mk.inj heq
  exact ⟨hr, rfl, rfl⟩

/-- A step of the environment. -/
theorem env_eq_some {m m' : μ × ν} {e : ε} (h : (O.program P).env m e = some m') :
    P.env m.1 e = some m'.1 ∧ m'.2 = m.2 := by
  obtain ⟨r, hr, rfl⟩ := Option.map_eq_some_iff.mp h
  exact ⟨hr, rfl⟩

/-- One step, as the program takes it. -/
theorem step_erase {a : PoolAction κ (α ⊕ β) ε}
    (h : Pool.step (O.program P) p a = some p') :
    run (Pool.step P) (erase p) (eraseAction a).toList = some (erase p') := by
  cases a with
  | spawn k =>
    obtain rfl := Pool.step_spawn h
    simp [eraseAction, erase, run, Pool.step, program]
  | act i b =>
    obtain ⟨t, m, t', ht, hthread, rfl⟩ := Pool.step_act h
    have hget : (erase p).threads[i]? = some t.1 := by
      simp only [erase, List.getElem?_map, ht, Option.map_some]
    cases b with
    | inl a =>
      obtain ⟨hstep, _, _⟩ := thread_inl hthread
      have hmem : (erase p).mem = p.mem.1 := rfl
      simp only [eraseAction, Option.toList_some, run, Pool.step, hget, Option.bind_some, hmem,
        hstep, Option.map_some]
      simp [erase, List.map_set]
    | inr b =>
      -- the thread and the memory are as before
      obtain ⟨_, hm, ht'⟩ := thread_inr hthread
      obtain ⟨hi, hi'⟩ := List.getElem?_eq_some_iff.mp ht
      have hsame : (p.threads.set i t').map Prod.fst = p.threads.map Prod.fst := by
        have hget' : (p.threads.map Prod.fst)[i]? = some t'.1 := by
          rw [ht']
          exact hget
        rw [List.map_set]
        obtain ⟨hlt, heq⟩ := List.getElem?_eq_some_iff.mp hget'
        rw [← heq, List.set_getElem_self]
      simp [eraseAction, erase, hm, hsame]
  | env e =>
    obtain ⟨m, henv, rfl⟩ := Pool.step_env h
    obtain ⟨hstep, _⟩ := env_eq_some henv
    have hmem : (erase p).mem = p.mem.1 := rfl
    simp only [eraseAction, Option.toList_some, run, Pool.step, hmem, hstep, Option.map_some,
      Option.bind_some]
    rfl

/-- A run with the overlay, as the program takes it. -/
theorem run_erase {h : List (PoolAction κ (α ⊕ β) ε)} :
    ∀ {p p' : Pool (μ × ν) (τ × σ)}, run (Pool.step (O.program P)) p h = some p' →
      run (Pool.step P) (erase p) (h.filterMap eraseAction) = some (erase p') := by
  induction h with
  | nil =>
    intro p p' hrun
    obtain rfl := Option.some.inj hrun
    rfl
  | cons a h ih =>
    intro p p' hrun
    obtain ⟨q, hstep, hrest⟩ := Option.bind_eq_some_iff.mp hrun
    have hfirst := step_erase hstep
    have hcons : (a :: h).filterMap eraseAction =
        (eraseAction a).toList ++ h.filterMap eraseAction := by
      rw [List.filterMap_cons]
      cases eraseAction a <;> rfl
    rw [hcons, run_append, hfirst, Option.bind_some]
    exact ih hrest

end Overlay
end Lib
end ScyllaClusterSync
