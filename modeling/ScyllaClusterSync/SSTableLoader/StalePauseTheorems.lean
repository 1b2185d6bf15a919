import ScyllaClusterSync.SSTableLoader.CompletionTheorems
import ScyllaClusterSync.SSTableLoader.TokenRangeTheorems

/-!
# A pause left over from the migration before

`pause` and `resume` may come at any time, `stop_migration` clears `is_paused_` together
with `is_running_`, and neither `stop` nor a start clears it. Without a `pause` the flag is
never set, so that a migration that finds it clear does not wait. One that finds it set
waits at its first pause gate, whenever the pause was.
-/

namespace ScyllaClusterSync
namespace SSTableLoader

open Svckit Lib

variable {cfg : LoaderConfig} {h : List Action} {m m' : Loader} {r r' : TableRun} {c c' : Call}
  {i : ℕ} {p p' : State}

/-! ## What is claimed of a start and of a stop -/

/-- Without ranges per core a migration of a table does not get into its loop. -/
theorem not_hasRanges_step {a : TableAction} (hzero : cfg.numRangesPerCore = 0)
    (hr : r.stage.hasRanges = false) (hstep : migrateTableStep cfg m r a = some (m', r')) :
    r'.stage.hasRanges = false ∧ a ≠ .loadPaused true := by
  cases hstage : r.stage with
  | partitionKeys =>
    obtain ⟨schema, rfl⟩ := action_of_partitionKeys hstage hstep
    rw [(step_resolvePartitionKeys hstep).2.2]
    exact ⟨rfl, by simp⟩
  | ranges =>
    obtain ⟨peers, rfl⟩ := action_of_ranges hstage hstep
    obtain ⟨_, _, ⟨ranges, hcalc, _⟩ | hr'⟩ := step_calculateRanges hstep
    · rw [hzero, calculateRanges_zero] at hcalc
      simp at hcalc
    · rw [hr']
      exact ⟨rfl, by simp⟩
  | dividedByZero => cases a <;> simp [migrateTableStep, hstage] at hstep
  | _ => simp [hstage, Stage.hasRanges] at hr

/-- Call `i` is not inside the loop of a table. -/
def OutsideLoop (i : ℕ) (p : State) : Prop :=
  ∃ c, p.threads[i]? = some c ∧ OnTable (fun r => r.stage.hasRanges = false) c

theorem OutsideLoop.step {a : Action} (hp : OutsideLoop i p) (hzero : cfg.numRangesPerCore = 0)
    (hstep : Pool.step (program cfg) p a = some p') : OutsideLoop i p' := by
  obtain ⟨c, hc, hT⟩ := hp
  rcases Pool.getElem?_of_step hstep hc with hsame | ⟨b, c', _, hthread, hc'⟩
  · exact ⟨c, hsame, hT⟩
  · exact ⟨c', hc', hT.step hthread (fun _ _ _ => rfl) (fun _ _ => rfl)
      fun b r r' _ hr htable => (not_hasRanges_step hzero hr htable).1⟩

end SSTableLoader
end ScyllaClusterSync
