import ScyllaClusterSync.Lib.Transition

/-!
# Potentials

`run_countP_le` is the rule for how often some actions can occur in a run: each of them
takes one from a potential of the state, and what pays in adds at most `k` to it.
-/

namespace ScyllaClusterSync
namespace Lib

variable {σ α : Type*}

/-- Work is bounded by the potential at the start and what has been paid in since. -/
theorem run_countP_le {step : σ → α → Option σ} {s₀ : σ} (Φ : σ → ℕ) (works pays : α → Bool)
    (k : ℕ)
    (hstep : ∀ h s a s', run step s₀ h = some s → step s a = some s' →
      (if works a then 1 else 0) + Φ s' ≤ Φ s + if pays a then k else 0) :
    ∀ h s, run step s₀ h = some s → h.countP works + Φ s ≤ Φ s₀ + k * h.countP pays := by
  refine run_invariant_of_run ?_ ?_
  · simp
  · intro h s a s' hrun hinv hs'
    have hone := hstep h s a s' hrun hs'
    rw [List.countP_append, List.countP_singleton, List.countP_append, List.countP_singleton,
      Nat.mul_add]
    have hpay : (if pays a then k else 0) = k * (if pays a then 1 else 0) := by
      split <;> simp
    omega

end Lib
end ScyllaClusterSync
