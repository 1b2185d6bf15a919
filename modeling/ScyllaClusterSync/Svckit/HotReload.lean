import ScyllaClusterSync.Lib.Transition
import ScyllaClusterSync.Svckit.FilterGovernor

/-!
# Hot reload of a filter governor

`reload_config` is part of `FilterGovernorBase`, and all three services run it while the
rules on disk are edited. A `GovernorClass` is what a class derived from it offers;
`reloadStep` is the life of one governor between edits, reloads and decisions.
-/

namespace ScyllaClusterSync
namespace Svckit

open Lib

variable {R G Q D : Type*}

/-- A governor class: its constructor, `reload_config` and its decision functions. -/
structure GovernorClass (R G Q D : Type*) where
  ofConfig : R → G
  reloadConfig : G → G
  decide : G → Q → D × G

/-- A governor and the rules on disk. -/
structure ReloadState (R G : Type*) where
  disk : R
  edited : Bool := false
  governor : G
  /-- The rules on disk at the last reload, if they had been edited by then. -/
  reloaded : Option R := none

inductive ReloadAction (R Q : Type*) where
  | edit (rules : R)
  | reload
  | decide (q : Q)

/-- One action. Each of them is always possible. -/
def reloadStep (C : GovernorClass R G Q D) (s : ReloadState R G) :
    ReloadAction R Q → Option (ReloadState R G)
  | .edit rules => some { s with disk := rules, edited := true }
  | .reload => some { s with
      governor := C.reloadConfig s.governor
      reloaded := if s.edited then some s.disk else s.reloaded }
  | .decide q => some { s with governor := (C.decide s.governor q).2 }

/-- A service that has just read its rules. -/
def ReloadState.start (C : GovernorClass R G Q D) (rules : R) : ReloadState R G where
  disk := rules
  governor := C.ofConfig rules

/-- A decision after a reload that follows an edit is the one of a governor constructed from
the rules that were reloaded. -/
def FollowsRules (C : GovernorClass R G Q D) (s : ReloadState R G) (a : ReloadAction R Q)
    (_ : ReloadState R G) : Prop :=
  ∀ q rules, a = .decide q → s.reloaded = some rules →
    (C.decide s.governor q).1 = (C.decide (C.ofConfig rules) q).1

/-- The rules that were reloaded give the same answer as those the service was started
with. -/
def SameAnswer (answer : R → Q → D) (start : R) (s : ReloadState R G) (a : ReloadAction R Q)
    (_ : ReloadState R G) : Prop :=
  ∀ q rules, a = .decide q → s.reloaded = some rules → answer start q = answer rules q

/-- The governor answers from the configuration it was constructed with, which neither
`reload_config` nor a decision changes. -/
structure AnswersConfig (C : GovernorClass R G Q D) (config : G → R) (answer : R → Q → D) :
    Prop where
  config_ofConfig : ∀ r, config (C.ofConfig r) = r
  config_reloadConfig : ∀ g, config (C.reloadConfig g) = config g
  config_decide : ∀ g q, config (C.decide g q).2 = config g
  decide_fst : ∀ g q, (C.decide g q).1 = answer (config g) q

variable {C : GovernorClass R G Q D} {config : G → R} {answer : R → Q → D}

theorem exists_reloadStep (s : ReloadState R G) (a : ReloadAction R Q) :
    ∃ s', reloadStep C s a = some s' := by
  cases a <;> exact ⟨_, rfl⟩

/-- The configuration stays the one of the start. -/
theorem AnswersConfig.config_step (hC : AnswersConfig C config answer) {s s' : ReloadState R G}
    {a : ReloadAction R Q} (hstep : reloadStep C s a = some s') :
    config s'.governor = config s.governor := by
  cases a with
  | edit rules =>
    obtain rfl := Option.some.inj hstep
    rfl
  | reload =>
    obtain rfl := Option.some.inj hstep
    exact hC.config_reloadConfig s.governor
  | decide q =>
    obtain rfl := Option.some.inj hstep
    exact hC.config_decide s.governor q

/-- A governor of this kind follows the rules file along exactly the runs in which the edits
make no difference. -/
theorem AnswersConfig.followsRules_iff (hC : AnswersConfig C config answer) (start : R)
    (h : List (ReloadAction R Q)) :
    Along (reloadStep C) (.start C start) (FollowsRules C) h ↔
      Along (reloadStep C) (.start C start) (SameAnswer answer start) h := by
  obtain ⟨s, hs⟩ := exists_run_of_total exists_reloadStep (.start C start) h
  refine @along_congr _ _ (reloadStep C) (.start C start) (FollowsRules C) (SameAnswer answer start)
    (fun s => config s.governor = start) ?_ ?_ ?_ h s hs
  · exact hC.config_ofConfig start
  · intro s a s' hinv _ hstep
    rw [hC.config_step hstep, hinv]
  · intro s a s' hinv _
    refine forall_congr' fun q => forall_congr' fun rules => forall_congr' fun _ =>
      forall_congr' fun _ => ?_
    rw [hC.decide_fst, hC.decide_fst, hinv, hC.config_ofConfig]

end Svckit
end ScyllaClusterSync
