import Mathlib

/-!
# Runs of a partial step function

A machine is a partial step function `step : σ → α → Option σ`: `none` says that the
action is not enabled. `run` plays a list of actions, and the list itself is the history
that statements about a run quantify over, so that no ghost state has to be carried along.

* `run_invariant` is the induction rule over whole runs: what holds of the empty history
  and is kept by one more action holds of every run;
* `Meets` says that every step of a run satisfies a condition on the history so far, the
  state before the step and the action; `run_invariant_of_meets` is the same rule for
  such runs;
* `EachStep` says that every action of a history satisfies a condition on the history
  before it;
* `Along` says that every step of a run satisfies a relation between the state before it,
  the action and the state after it.
-/

namespace ScyllaClusterSync
namespace Lib

variable {σ α : Type*}

/-! ## Runs -/

/-- The state a list of actions leads to, `none` as soon as one of them is not enabled. -/
def run (step : σ → α → Option σ) : σ → List α → Option σ
  | s, [] => some s
  | s, a :: as => (step s a).bind fun s' => run step s' as

@[simp] theorem run_nil (step : σ → α → Option σ) (s : σ) : run step s [] = some s := rfl

theorem run_append (step : σ → α → Option σ) (s : σ) (as bs : List α) :
    run step s (as ++ bs) = (run step s as).bind fun s' => run step s' bs := by
  induction as generalizing s with
  | nil => rfl
  | cons a as ih =>
    simp only [List.cons_append, run]
    cases step s a with
    | none => rfl
    | some s' => exact ih s'

theorem run_concat (step : σ → α → Option σ) (s : σ) (as : List α) (a : α) :
    run step s (as ++ [a]) = (run step s as).bind fun s' => step s' a := by
  rw [run_append]
  congr 1
  funext s'
  simp only [run]
  cases step s' a <;> rfl

/-- A run that ends with `a` splits into the run before it and the step itself. -/
theorem run_concat_eq_some {step : σ → α → Option σ} {s s' : σ} {as : List α} {a : α} :
    run step s (as ++ [a]) = some s' ↔ ∃ t, run step s as = some t ∧ step t a = some s' := by
  rw [run_concat, Option.bind_eq_some_iff]

/-- A run splits at each of its actions. -/
theorem run_append_cons_eq_some {step : σ → α → Option σ} {s s' : σ} {as bs : List α} {a : α}
    (h : run step s (as ++ a :: bs) = some s') :
    ∃ t t', run step s as = some t ∧ step t a = some t' ∧ run step t' bs = some s' := by
  rw [run_append, Option.bind_eq_some_iff] at h
  obtain ⟨t, ht, h⟩ := h
  simp only [run, Option.bind_eq_some_iff] at h
  obtain ⟨t', ht', h⟩ := h
  exact ⟨t, t', ht, ht', h⟩

/-- When every action is enabled in every state, every list of actions is a run. -/
theorem exists_run_of_total {step : σ → α → Option σ} (htotal : ∀ s a, ∃ s', step s a = some s')
    (s : σ) (as : List α) : ∃ s', run step s as = some s' := by
  induction as generalizing s with
  | nil => exact ⟨s, rfl⟩
  | cons a as ih =>
    obtain ⟨t, ht⟩ := htotal s a
    obtain ⟨s', hs'⟩ := ih t
    exact ⟨s', by rw [run, ht, Option.bind_some, hs']⟩

/-- The induction rule over runs, with the history as the list of actions taken. -/
theorem run_invariant {step : σ → α → Option σ} {s₀ : σ} {Inv : List α → σ → Prop}
    (hinit : Inv [] s₀)
    (hstep : ∀ h s a s', Inv h s → step s a = some s' → Inv (h ++ [a]) s') :
    ∀ as s, run step s₀ as = some s → Inv as s := by
  intro as
  induction as using List.reverseRecOn with
  | nil =>
    intro s hs
    simp only [run_nil, Option.some.injEq] at hs
    exact hs ▸ hinit
  | append_singleton as a ih =>
    intro s' hs
    obtain ⟨s, hrun, hs'⟩ := run_concat_eq_some.mp hs
    exact hstep as s a s' (ih s hrun) hs'

/-- The same rule for an invariant whose step uses that the state is reachable. -/
theorem run_invariant_of_run {step : σ → α → Option σ} {s₀ : σ} {Inv : List α → σ → Prop}
    (hinit : Inv [] s₀)
    (hstep : ∀ h s a s', run step s₀ h = some s → Inv h s → step s a = some s' →
      Inv (h ++ [a]) s') :
    ∀ as s, run step s₀ as = some s → Inv as s := by
  have hboth : ∀ as s, run step s₀ as = some s → run step s₀ as = some s ∧ Inv as s := by
    apply run_invariant
    · exact ⟨rfl, hinit⟩
    · intro h s a s' hs hs'
      exact ⟨run_concat_eq_some.mpr ⟨s, hs.1, hs'⟩, hstep h s a s' hs.1 hs.2 hs'⟩
  exact fun as s hs => (hboth as s hs).2

/-! ## Runs whose steps meet a condition -/

/-- Every step of the run from `s` with history `h` meets the condition `C`. -/
def Meets (step : σ → α → Option σ) (C : List α → σ → α → Prop) : List α → σ → List α → Prop
  | _, _, [] => True
  | h, s, a :: as => C h s a ∧ match step s a with
    | none => True
    | some s' => Meets step C (h ++ [a]) s' as

instance Meets.decidable (step : σ → α → Option σ) (C : List α → σ → α → Prop)
    [∀ h s a, Decidable (C h s a)] : ∀ h s as, Decidable (Meets step C h s as)
  | _, _, [] => inferInstanceAs (Decidable True)
  | h, s, a :: as =>
    have : Decidable (match step s a with
        | none => True
        | some s' => Meets step C (h ++ [a]) s' as) :=
      match step s a with
      | none => inferInstanceAs (Decidable True)
      | some s' => Meets.decidable step C (h ++ [a]) s' as
    inferInstanceAs (Decidable (C h s a ∧ _))

/-- The last step of a run meets the condition, and so does the run before it. -/
theorem Meets.concat {step : σ → α → Option σ} {C : List α → σ → α → Prop} {as : List α} {a : α} :
    ∀ {h : List α} {s t : σ}, Meets step C h s (as ++ [a]) → run step s as = some t →
      Meets step C h s as ∧ C (h ++ as) t a := by
  induction as with
  | nil =>
    intro h s t hm hrun
    simp only [run_nil, Option.some.injEq] at hrun
    subst hrun
    simp only [List.nil_append, Meets, List.append_nil] at hm ⊢
    exact ⟨trivial, hm.1⟩
  | cons b as ih =>
    intro h s t hm hrun
    simp only [List.cons_append, Meets] at hm
    simp only [run] at hrun
    simp only [Meets]
    cases hb : step s b with
    | none => simp [hb] at hrun
    | some s' =>
      simp only [hb, Option.bind_some] at hrun hm
      obtain ⟨hm', hC⟩ := ih hm.2 hrun
      refine ⟨⟨hm.1, hm'⟩, ?_⟩
      rwa [List.append_assoc, List.singleton_append] at hC

/-- When the condition holds wherever a part of the run leads, every step meets it. -/
theorem meets_of_forall {step : σ → α → Option σ} {C : List α → σ → α → Prop} {as : List α} :
    ∀ {h : List α} {s : σ}, (∀ pre a post t, as = pre ++ a :: post → run step s pre = some t →
      C (h ++ pre) t a) → Meets step C h s as := by
  induction as with
  | nil =>
    intro h s _
    trivial
  | cons a as ih =>
    intro h s hall
    refine ⟨?_, ?_⟩
    · have hfirst := hall [] a as s rfl rfl
      rwa [List.append_nil] at hfirst
    · cases hs : step s a with
      | none => trivial
      | some s' =>
        refine ih fun pre b post t heq ht => ?_
        have hnext := hall (a :: pre) b post t (by rw [heq, List.cons_append]) (by
          rw [run, hs, Option.bind_some, ht])
        rwa [List.append_cons] at hnext

/-- The steps of the first part of a run meet the condition. -/
theorem Meets.of_append {step : σ → α → Option σ} {C : List α → σ → α → Prop} {as bs : List α} :
    ∀ {h : List α} {s : σ}, Meets step C h s (as ++ bs) → Meets step C h s as := by
  induction as with
  | nil =>
    intro h s _
    trivial
  | cons a as ih =>
    intro h s hm
    refine ⟨hm.1, ?_⟩
    have hrest := hm.2
    cases hs : step s a with
    | none => trivial
    | some s' =>
      rw [hs] at hrest
      exact ih hrest

/-- A condition on the steps together with one on the actions of the history. -/
theorem Meets.and_of_mem {step : σ → α → Option σ} {C : List α → σ → α → Prop} {Q : α → Prop}
    {as : List α} : ∀ {h : List α} {s : σ}, Meets step C h s as → (∀ a ∈ as, Q a) →
      Meets step (fun h s a => C h s a ∧ Q a) h s as := by
  induction as with
  | nil =>
    intro h s _ _
    trivial
  | cons a as ih =>
    intro h s hm hQ
    refine ⟨⟨hm.1, hQ a List.mem_cons_self⟩, ?_⟩
    have hrest := hm.2
    cases hs : step s a with
    | none => trivial
    | some s' =>
      rw [hs] at hrest
      exact ih hrest fun b hb => hQ b (List.mem_cons_of_mem _ hb)

/-- A weaker condition is met by the same runs. -/
theorem Meets.mono {step : σ → α → Option σ} {C D : List α → σ → α → Prop} {as : List α}
    (hCD : ∀ h s a, C h s a → D h s a) :
    ∀ {h : List α} {s : σ}, Meets step C h s as → Meets step D h s as := by
  induction as with
  | nil =>
    intro h s _
    trivial
  | cons a as ih =>
    intro h s hm
    refine ⟨hCD _ _ _ hm.1, ?_⟩
    have hrest := hm.2
    cases hs : step s a with
    | none => trivial
    | some s' =>
      rw [hs] at hrest
      exact ih hrest

/-- The induction rule over runs whose steps meet a condition, for an invariant whose step
uses that the state is reached by such a run. -/
theorem run_invariant_of_meets_run {step : σ → α → Option σ} {s₀ : σ} {Inv : List α → σ → Prop}
    {C : List α → σ → α → Prop} (hinit : Inv [] s₀)
    (hstep : ∀ h s a s', Meets step C [] s₀ h → run step s₀ h = some s → Inv h s → C h s a →
      step s a = some s' → Inv (h ++ [a]) s') :
    ∀ as s, Meets step C [] s₀ as → run step s₀ as = some s → Inv as s := by
  intro as
  induction as using List.reverseRecOn with
  | nil =>
    intro s _ hs
    simp only [run_nil, Option.some.injEq] at hs
    exact hs ▸ hinit
  | append_singleton as a ih =>
    intro s' hm hs
    obtain ⟨s, hrun, hs'⟩ := run_concat_eq_some.mp hs
    obtain ⟨hm', hC⟩ := hm.concat hrun
    exact hstep as s a s' hm' hrun (ih s hm' hrun) hC hs'

/-- The induction rule over runs whose steps meet a condition. -/
theorem run_invariant_of_meets {step : σ → α → Option σ} {s₀ : σ} {Inv : List α → σ → Prop}
    {C : List α → σ → α → Prop} (hinit : Inv [] s₀)
    (hstep : ∀ h s a s', Inv h s → C h s a → step s a = some s' → Inv (h ++ [a]) s') :
    ∀ as s, Meets step C [] s₀ as → run step s₀ as = some s → Inv as s :=
  run_invariant_of_meets_run hinit fun h s a s' _ _ => hstep h s a s'

/-! ## Events and the history before them -/

/-- Every action of the history satisfies `Q` of the history before it. -/
def EachStep (Q : List α → α → Prop) (h : List α) : Prop :=
  ∀ pre a post, h = pre ++ a :: post → Q pre a

theorem eachStep_nil (Q : List α → α → Prop) : EachStep Q [] := by
  intro pre a post h
  simp at h

/-- An action of a history that has grown by `b` is `b` itself, or was there before. -/
theorem concat_eq_append_cons {h pre post : List α} {a b : α} (heq : h ++ [b] = pre ++ a :: post) :
    (pre = h ∧ a = b ∧ post = []) ∨ ∃ post', post = post' ++ [b] ∧ h = pre ++ a :: post' := by
  rcases List.eq_nil_or_concat post with rfl | ⟨post', c, rfl⟩
  · obtain ⟨rfl, hb⟩ := List.append_inj' heq rfl
    exact Or.inl ⟨rfl, (List.singleton_inj.mp hb).symm, rfl⟩
  · have hsplit : h ++ [b] = (pre ++ a :: post') ++ [c] := by
      rw [heq, List.concat_eq_append, List.append_assoc, List.cons_append]
    obtain ⟨hh, hb⟩ := List.append_inj' hsplit rfl
    refine Or.inr ⟨post', ?_, hh⟩
    rw [List.concat_eq_append, List.singleton_inj.mp hb]

/-- One more action: the earlier ones are judged as before, the new one by all of them. -/
theorem EachStep.concat {Q : List α → α → Prop} {h : List α} {a : α} (hQ : EachStep Q h)
    (ha : Q h a) : EachStep Q (h ++ [a]) := by
  intro pre b post heq
  rcases concat_eq_append_cons heq with ⟨rfl, rfl, _⟩ | ⟨post', _, hh⟩
  · exact ha
  · exact hQ pre b post' hh

/-! ## Steps and the states on both sides of them -/

/-- Every step of the run from `s₀` satisfies `Q` of its two states and its action. -/
def Along (step : σ → α → Option σ) (s₀ : σ) (Q : σ → α → σ → Prop) (h : List α) : Prop :=
  ∀ pre a post s s', h = pre ++ a :: post → run step s₀ pre = some s → step s a = some s' → Q s a s'

variable {step : σ → α → Option σ} {s₀ : σ} {Q Q' : σ → α → σ → Prop}

theorem along_nil : Along step s₀ Q [] := by
  intro pre a post s s' heq
  simp at heq

/-- One more step: the earlier ones as before, and the new one. -/
theorem along_concat {h : List α} {a : α} {s s' : σ} (hrun : run step s₀ h = some s)
    (hstep : step s a = some s') : Along step s₀ Q (h ++ [a]) ↔ Along step s₀ Q h ∧ Q s a s' := by
  constructor
  · intro hall
    refine ⟨?_, hall h a [] s s' rfl hrun hstep⟩
    intro pre b post t t' heq
    refine hall pre b (post ++ [a]) t t' ?_
    rw [heq, List.append_assoc, List.cons_append]
  · intro hboth pre b post t t' heq ht ht'
    rcases concat_eq_append_cons heq with ⟨rfl, rfl, _⟩ | ⟨post', _, hh⟩
    · rw [hrun, Option.some.injEq] at ht
      subst ht
      rw [hstep, Option.some.injEq] at ht'
      exact ht' ▸ hboth.2
    · exact hboth.1 pre b post' t t' hh ht ht'

/-- The induction rule over runs whose steps satisfy `Q`. -/
theorem run_invariant_of_along {Inv : σ → Prop} (hinit : Inv s₀)
    (hstep : ∀ s a s', Inv s → Q s a s' → step s a = some s' → Inv s') :
    ∀ h s, Along step s₀ Q h → run step s₀ h = some s → Inv s := by
  intro h
  induction h using List.reverseRecOn with
  | nil =>
    intro s _ hs
    simp only [run_nil, Option.some.injEq] at hs
    exact hs ▸ hinit
  | append_singleton h a ih =>
    intro s' hall hs'
    obtain ⟨s, hrun, hs⟩ := run_concat_eq_some.mp hs'
    obtain ⟨hbefore, hQ⟩ := (along_concat hrun hs).mp hall
    exact hstep s a s' (ih s hbefore hrun) hQ hs

/-- Two step properties that agree on every step hold along the same histories. -/
theorem along_congr_of_iff (hiff : ∀ s a s', step s a = some s' → (Q s a s' ↔ Q' s a s'))
    (h : List α) : Along step s₀ Q h ↔ Along step s₀ Q' h := by
  constructor
  · intro hall pre a post s s' heq hrun hstep
    exact (hiff s a s' hstep).mp (hall pre a post s s' heq hrun hstep)
  · intro hall pre a post s s' heq hrun hstep
    exact (hiff s a s' hstep).mpr (hall pre a post s s' heq hrun hstep)

/-- Two step properties that agree in every state the run can be in hold along the same
runs. `Inv` is an invariant of the runs that satisfy the second one. -/
theorem along_congr {Inv : σ → Prop} (hinit : Inv s₀)
    (hinv : ∀ s a s', Inv s → Q' s a s' → step s a = some s' → Inv s')
    (hiff : ∀ s a s', Inv s → step s a = some s' → (Q s a s' ↔ Q' s a s')) :
    ∀ h s, run step s₀ h = some s → (Along step s₀ Q h ↔ Along step s₀ Q' h) := by
  intro h
  induction h using List.reverseRecOn with
  | nil =>
    intro s _
    exact iff_of_true along_nil along_nil
  | append_singleton h a ih =>
    intro s' hs'
    obtain ⟨s, hrun, hs⟩ := run_concat_eq_some.mp hs'
    rw [along_concat hrun hs, along_concat hrun hs, ih s hrun]
    constructor
    · intro hboth
      have hreached := run_invariant_of_along hinit hinv h s hboth.1 hrun
      exact ⟨hboth.1, (hiff s a s' hreached hs).mp hboth.2⟩
    · intro hboth
      have hreached := run_invariant_of_along hinit hinv h s hboth.1 hrun
      exact ⟨hboth.1, (hiff s a s' hreached hs).mpr hboth.2⟩

end Lib
end ScyllaClusterSync
