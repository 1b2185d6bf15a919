import Mathlib

/-!
# A store and a replica that lags behind it

A store maps rows to values and its writes overwrite one row each: `replay` is the store
after a list of writes, the last one on a row wins. `Lagging S T pending` relates a store
`S` to a replica `T` that some writes have not reached yet. It is kept as long as a row is
only written while no write to it is pending, and it ends in `S = T` once nothing is
pending. Where a row is written while older writes to it are pending, `supersede` and
`clobber` say which of them count.
-/

namespace ScyllaClusterSync
namespace Lib

variable {R V : Type*} [DecidableEq R]

/-- The store after one more write. -/
def overwrite (S : R → V) (e : R × V) : R → V := Function.update S e.1 e.2

/-- The store after a list of writes, in order. -/
def replay (S : R → V) (es : List (R × V)) : R → V := es.foldl overwrite S

@[simp] theorem replay_nil (S : R → V) : replay S [] = S := rfl

theorem replay_concat (S : R → V) (es : List (R × V)) (e : R × V) :
    replay S (es ++ [e]) = overwrite (replay S es) e := by
  rw [replay, List.foldl_append]
  rfl

theorem overwrite_self (S : R → V) (e : R × V) : overwrite S e e.1 = e.2 :=
  Function.update_self ..

theorem overwrite_of_ne (S : R → V) {e : R × V} {r : R} (h : r ≠ e.1) : overwrite S e r = S r :=
  Function.update_of_ne h ..

/-- The replica `T` differs from the store `S` only in rows that a pending write is about,
and every pending write is the newest one on its row. -/
structure Lagging (S T : R → V) (pending : Set (R × V)) : Prop where
  newest : ∀ e ∈ pending, S e.1 = e.2
  covered : ∀ r, S r ≠ T r → ∃ e ∈ pending, e.1 = r

namespace Lagging

variable {S T : R → V} {pending pending' : Set (R × V)}

omit [DecidableEq R] in
theorem refl (S : R → V) : Lagging S S ∅ where
  newest := by simp
  covered := by simp

omit [DecidableEq R] in
/-- Nothing pending: the replica has caught up. -/
theorem eq_of_empty (h : Lagging S T ∅) : S = T := by
  funext r
  by_contra hne
  obtain ⟨e, he, _⟩ := h.covered r hne
  exact he

omit [DecidableEq R] in
/-- A row that no pending write is about has caught up. -/
theorem eq_of_free (h : Lagging S T pending) {r : R} (hfree : ∀ e ∈ pending, e.1 ≠ r) :
    S r = T r := by
  by_contra hne
  obtain ⟨e, he, hrow⟩ := h.covered r hne
  exact hfree e he hrow

/-- A write reaches the store, and what was pending on its row counts no longer. -/
theorem supersede (h : Lagging S T pending) {e : R × V}
    (hpending : ∀ e', e' ∈ pending' ↔ (e' ∈ pending ∧ e'.1 ≠ e.1) ∨ e' = e) :
    Lagging (overwrite S e) T pending' := by
  refine ⟨?_, ?_⟩
  · intro e' he'
    rcases (hpending e').mp he' with hold | hnew
    · rw [overwrite_of_ne S hold.2]
      exact h.newest e' hold.1
    · rw [hnew]
      exact overwrite_self S e
  · intro r hr
    by_cases hre : r = e.1
    · exact ⟨e, (hpending e).mpr (Or.inr rfl), hre.symm⟩
    · rw [overwrite_of_ne S hre] at hr
      obtain ⟨e', he', hrow⟩ := h.covered r hr
      exact ⟨e', (hpending e').mpr (Or.inl ⟨he', hrow ▸ hre⟩), hrow⟩

/-- A write to a row that no pending write is about reaches the store. -/
theorem write (h : Lagging S T pending) {e : R × V} (hfree : ∀ e' ∈ pending, e'.1 ≠ e.1)
    (hpending : ∀ e', e' ∈ pending' ↔ e' ∈ pending ∨ e' = e) :
    Lagging (overwrite S e) T pending' := by
  apply h.supersede
  intro e'
  rw [hpending]
  constructor
  · intro hor
    rcases hor with hold | hnew
    · exact Or.inl ⟨hold, hfree e' hold⟩
    · exact Or.inr hnew
  · intro hor
    rcases hor with hold | hnew
    · exact Or.inl hold.1
    · exact Or.inr hnew

omit [DecidableEq R] in
/-- What the store holds already may become pending once more. -/
theorem join (h : Lagging S T pending) {e : R × V} (he : S e.1 = e.2)
    (hpending : ∀ e', e' ∈ pending' ↔ e' ∈ pending ∨ e' = e) : Lagging S T pending' := by
  refine ⟨?_, ?_⟩
  · intro e' he'
    rcases (hpending e').mp he' with hold | hnew
    · exact h.newest e' hold
    · rw [hnew]
      exact he
  · intro r hr
    obtain ⟨e', he', hrow⟩ := h.covered r hr
    exact ⟨e', (hpending e').mpr (Or.inl he'), hrow⟩

/-- Any write reaches the replica in a row that a pending write is still to reach. -/
theorem clobber (h : Lagging S T pending) {e e' : R × V} (he' : e' ∈ pending)
    (hrow : e'.1 = e.1) : Lagging S (overwrite T e) pending := by
  refine ⟨h.newest, ?_⟩
  intro r hr
  by_cases hre : r = e.1
  · exact ⟨e', he', hrow.trans hre.symm⟩
  · rw [overwrite_of_ne T hre] at hr
    exact h.covered r hr

/-- A pending write reaches the replica; it may stay pending or not. -/
theorem deliver (h : Lagging S T pending) {e : R × V} (he : e ∈ pending)
    (hsub : ∀ e' ∈ pending', e' ∈ pending) (hrest : ∀ e' ∈ pending, e' ∈ pending' ∨ e' = e) :
    Lagging S (overwrite T e) pending' := by
  refine ⟨fun e' he' => h.newest e' (hsub e' he'), ?_⟩
  intro r hr
  by_cases hre : r = e.1
  · -- the delivered write is the newest on its row, so the row agrees now
    subst hre
    rw [overwrite_self] at hr
    exact absurd (h.newest e he) hr
  · rw [overwrite_of_ne T hre] at hr
    obtain ⟨e', he', hrow⟩ := h.covered r hr
    rcases hrest e' he' with hin | heq
    · exact ⟨e', hin, hrow⟩
    · rw [heq] at hrow
      exact absurd hrow.symm hre

end Lagging
end Lib
end ScyllaClusterSync
