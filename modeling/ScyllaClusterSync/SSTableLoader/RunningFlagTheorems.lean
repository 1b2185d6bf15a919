import ScyllaClusterSync.SSTableLoader.CompletionTheorems
import ScyllaClusterSync.SSTableLoader.SingleMigrationTheorems

/-!
# What a call leaves in `is_running_` when it ends

A call that returns has cleared the flag on its way. An exception that is no `SyncError`
passes by every store of `false`: the flag stays what it was, and unless the call had been
stopped that is `true`, for which no later start gets past its guard.
-/

namespace ScyllaClusterSync
namespace SSTableLoader

open Svckit Lib

variable {cfg : LoaderConfig} {filter : Option SSTableBlacklistGovernor} {h : List Action}
  {i : ℕ} {p : State}

/-- The steps with which a call that passed its guard ends. -/
def CallAction.ends : CallAction → Bool
  | .finish => true
  | .rethrow => true
  | _ => false

/-- A start made now gets past its guard. -/
def Accepts (cfg : LoaderConfig) (p : State) : Prop :=
  ∀ k, k ≠ Request.stopMigration →
    (run (Pool.step (program cfg)) p [.spawn k, .act p.threads.length (.guard false)]).isSome

theorem accepts_iff : Accepts cfg p ↔ p.mem.isRunning = false := by
  have hstart : ∀ k, k ≠ Request.stopMigration →
      ((run (Pool.step (program cfg)) p
        [.spawn k, .act p.threads.length (.guard false)]).isSome ↔ p.mem.isRunning = false) := by
    intro k hk
    have hpc : entry k = .guard := by
      cases k with
      | stopMigration => exact absurd rfl hk
      | _ => rfl
    by_cases hrunning : p.mem.isRunning <;>
      simp [run, Pool.step, program, callStep, hpc, hrunning]
  constructor
  · intro haccepts
    exact (hstart (.startMigration []) (by simp)).mp (haccepts _ (by simp))
  · intro hrunning k hk
    exact (hstart k hk).mpr hrunning

/-- The flag at the end of a call. -/
theorem isRunning_of_ends {q : State} {c c' : Call} {m' : Loader} {a : CallAction}
    (hinv : ExclusiveInv h q) (hc : q.threads[i]? = some c)
    (hstep : callStep cfg q.mem c a = some (m', c')) (hends : a.ends = true) :
    m'.isRunning = false ↔ a = .finish ∨ stopped i h = true := by
  cases a with
  | finish =>
    obtain ⟨hpc, hm, _⟩ := callStep_finish hstep
    have hflag := hinv.flag i c hc (by rw [Call.live, hpc]; simp [Pc.phase])
    rw [hm, hflag, hpc]
    simp [Pc.phase]
  | rethrow =>
    -- the exception leaves the flag as the stops have left it
    obtain ⟨r, rest, hpc, _, hm, _⟩ := callStep_rethrow hstep
    have hflag := hinv.flag i c hc (by rw [Call.live, hpc]; simp [Pc.phase])
    rw [hm, hflag, hpc]
    simp [Pc.phase]
  | _ => simp [CallAction.ends] at hends

/-- In every run with one migration at a time, for every step with which a call ends: the
flag is released, and the next start accepted, exactly when the call returned or had been
stopped. -/
theorem running_flag_released_iff (cfg : LoaderConfig) (filter : Option SSTableBlacklistGovernor)
    (h : List Action) (i : ℕ) (a : CallAction) (p : State) (hends : a.ends = true)
    (hmeets : Meets (Pool.step (program cfg)) GuardOutsideWindows [] (initial filter)
      (h ++ [.act i a]))
    (hrun : runs cfg filter (h ++ [.act i a]) = some p) :
    (p.mem.isRunning = false ∧ Accepts cfg p) ↔ (a = .finish ∨ stopped i h = true) := by
  obtain ⟨q, hq, hstep⟩ := run_concat_eq_some.mp hrun
  have hinv := exclusiveInv_of_meets (hmeets.concat hq).1 hq
  obtain ⟨c, m', c', hc, hthread, rfl⟩ := Pool.step_act hstep
  rw [accepts_iff, and_self]
  exact isRunning_of_ends hinv hc hthread hends

/-- A migration of one table whose first worker thread cannot be started, up to the
exception. -/
def workerFails : List Action :=
  .spawn (.migrateSingleTable "app" "files") ::
    (enterTable ++ [.resolvePartitionKeys .ok, .calculateRanges .ok, .batchHead true,
      .loadPaused false, .startWorkerFails, .rethrow].map CallAction.table).map (PoolAction.act 0)

/-- The flag is still set. -/
theorem exists_workerFails : ∃ p, runs oneTable none (workerFails ++ [.act 0 .rethrow]) = some p ∧
    p.mem.isRunning = true := by
  have hflag : (runs oneTable none (workerFails ++ [.act 0 .rethrow])).map (·.mem.isRunning) =
      some true := by decide +kernel
  exact Option.map_eq_some_iff.mp hflag

theorem meets_workerFails : Meets (Pool.step (program oneTable)) GuardOutsideWindows []
    (initial none) (workerFails ++ [.act 0 .rethrow]) := by
  obtain ⟨p, hrun, _⟩ := exists_workerFails
  exact meets_of_one_migration hrun (by decide)

theorem running_flag_released_iff_workerFails :
    ∃ p, runs oneTable none (workerFails ++ [.act 0 .rethrow]) = some p ∧
      ((p.mem.isRunning = false ∧ Accepts oneTable p) ↔
        (CallAction.rethrow = .finish ∨ stopped 0 workerFails = true)) := by
  obtain ⟨p, hrun, _⟩ := exists_workerFails
  exact ⟨p, hrun, running_flag_released_iff oneTable none workerFails 0 .rethrow p rfl
    meets_workerFails hrun⟩

/-- The call that ends with that exception leaves `is_running_` set. -/
theorem running_flag_left_set :
    ¬ ∀ (cfg : LoaderConfig) (filter : Option SSTableBlacklistGovernor) (h : List Action) (i : ℕ)
      (a : CallAction) (p : State), a.ends = true →
      Meets (Pool.step (program cfg)) GuardOutsideWindows [] (initial filter) (h ++ [.act i a]) →
      runs cfg filter (h ++ [.act i a]) = some p → p.mem.isRunning = false := by
  intro hall
  obtain ⟨p, hrun, hflag⟩ := exists_workerFails
  have hcleared := hall _ _ _ _ _ p rfl meets_workerFails hrun
  rw [hflag] at hcleared
  exact Bool.noConfusion hcleared

end SSTableLoader
end ScyllaClusterSync
