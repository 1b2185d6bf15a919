import ScyllaClusterSync.Lib.Transition

/-!
# Typestate

Every handle of a kind `H` is in a phase, and a use of it is lawful or not depending on that
phase: `δ : P → U → Option P` is the life of one handle. `typestep` lets a list of uses of any
handles act on the phases of all of them, and `run_usesOf_of_run` says that in a lawful list the
uses of each handle are lawful.
-/

namespace ScyllaClusterSync
namespace Lib

variable {H P U : Type*} [DecidableEq H] {δ : P → U → Option P}

/-- One use of one handle. -/
def typestep (δ : P → U → Option P) (phases : H → P) (use : H × U) : Option (H → P) :=
  (δ (phases use.1) use.2).map (Function.update phases use.1)

/-- What happens to the handle `h`. -/
def usesOf (h : H) (uses : List (H × U)) : List U :=
  (uses.filter fun use => use.1 = h).map Prod.snd

theorem usesOf_cons_self (h : H) (u : U) (us : List (H × U)) :
    usesOf h ((h, u) :: us) = u :: usesOf h us := by
  simp [usesOf]

theorem usesOf_cons_ne {h h' : H} (hne : h' ≠ h) (u : U) (us : List (H × U)) :
    usesOf h ((h', u) :: us) = usesOf h us := by
  simp [usesOf, hne]

/-- A lawful use, and the phase it leads to. -/
theorem typestep_of_eq {phases : H → P} {h : H} {u : U} {p : P} (hp : δ (phases h) u = some p) :
    typestep δ phases (h, u) = some (Function.update phases h p) := by
  rw [typestep, hp, Option.map_some]

theorem run_cons_of_eq {phases : H → P} {h : H} {u : U} {p : P} (hp : δ (phases h) u = some p)
    (us : List (H × U)) :
    run (typestep δ) phases ((h, u) :: us) =
      run (typestep δ) (Function.update phases h p) us := by
  rw [run, typestep_of_eq hp, Option.bind_some]

/-- The phases after a list of uses are those each handle's own uses lead to. -/
theorem run_usesOf_of_run {us : List (H × U)} : ∀ {phases phases' : H → P},
    run (typestep δ) phases us = some phases' →
      ∀ h, run δ (phases h) (usesOf h us) = some (phases' h) := by
  induction us with
  | nil =>
    intro phases phases' hrun h
    obtain rfl := Option.some.inj hrun
    rfl
  | cons use us ih =>
    intro phases phases' hrun h
    simp only [run, typestep, Option.bind_eq_some_iff, Option.map_eq_some_iff] at hrun
    obtain ⟨_, ⟨p, hp, rfl⟩, hrest⟩ := hrun
    have hrest' := ih hrest h
    by_cases hh : use.1 = h
    · subst hh
      rw [Function.update_self] at hrest'
      rw [usesOf_cons_self, run, hp, Option.bind_some, hrest']
    · rw [Function.update_of_ne (Ne.symm hh)] at hrest'
      rw [usesOf_cons_ne hh, hrest']

end Lib
end ScyllaClusterSync
