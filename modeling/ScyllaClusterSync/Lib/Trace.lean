import ScyllaClusterSync.Lib.Transition

/-!
# What a run shows

`trace` lists what `f` shows of each step of a run, given the state before the step and the
action. `total` adds the shown numbers up, and `observed` keeps what was shown of the steps
that show anything. Each of them has one lemma for one more step, which is all that an
invariant about it needs.
-/

namespace ScyllaClusterSync
namespace Lib

variable {σ α β : Type*} {step : σ → α → Option σ} {s t : σ} {as : List α}

def trace (step : σ → α → Option σ) (f : σ → α → β) : σ → List α → List β
  | _, [] => []
  | s, a :: as => f s a :: ((step s a).elim [] fun s' => trace step f s' as)

@[simp] theorem trace_nil (f : σ → α → β) : trace step f s [] = [] := rfl

/-- One more step shows one more thing. -/
theorem trace_concat (f : σ → α → β) (hrun : run step s as = some t) (a : α) :
    trace step f s (as ++ [a]) = trace step f s as ++ [f t a] := by
  induction as generalizing s with
  | nil =>
    simp only [run_nil, Option.some.injEq] at hrun
    rw [hrun]
    show f t a :: ((step t a).elim [] fun _ => []) = [f t a]
    cases step t a <;> rfl
  | cons b as ih =>
    simp only [run, Option.bind_eq_some_iff] at hrun
    obtain ⟨s', hs', hrun⟩ := hrun
    rw [List.cons_append, trace, trace, hs', Option.elim_some, Option.elim_some, ih hrun,
      List.cons_append]

/-! ## Numbers -/

/-- What a run adds up to. -/
def total (step : σ → α → Option σ) (f : σ → α → ℕ) (s : σ) (as : List α) : ℕ :=
  (trace step f s as).sum

@[simp] theorem total_nil (f : σ → α → ℕ) : total step f s [] = 0 := rfl

theorem total_concat (f : σ → α → ℕ) (hrun : run step s as = some t) (a : α) :
    total step f s (as ++ [a]) = total step f s as + f t a := by
  rw [total, trace_concat f hrun, List.sum_append, List.sum_singleton]
  rfl

/-! ## Events -/

/-- What was shown of the steps that show anything. -/
def observed (step : σ → α → Option σ) (f : σ → α → Option β) (s : σ) (as : List α) : List β :=
  (trace step f s as).filterMap id

@[simp] theorem observed_nil (f : σ → α → Option β) : observed step f s [] = [] := rfl

theorem observed_concat (f : σ → α → Option β) (hrun : run step s as = some t) (a : α) :
    observed step f s (as ++ [a]) = observed step f s as ++ (f t a).toList := by
  rw [observed, trace_concat f hrun, List.filterMap_append]
  cases f t a <;> simp [observed]

theorem observed_cons (f : σ → α → Option β) (s : σ) (a : α) (as : List α) :
    observed step f s (a :: as) =
      (f s a).toList ++ (step s a).elim [] fun s' => observed step f s' as := by
  unfold observed
  rw [trace]
  cases step s a <;> cases f s a <;> simp

/-- Actions that show nothing. -/
theorem observed_eq_nil {f : σ → α → Option β} (hnone : ∀ s, ∀ a ∈ as, f s a = none) (s : σ) :
    observed step f s as = [] := by
  induction as generalizing s with
  | nil => rfl
  | cons a as ih =>
    rw [observed_cons, hnone s a List.mem_cons_self]
    cases step s a with
    | none => rfl
    | some s' => exact ih (fun s b hb => hnone s b (List.mem_cons_of_mem _ hb)) s'

end Lib
end ScyllaClusterSync
