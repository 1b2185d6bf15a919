import ScyllaClusterSync.SSTableLoader.TableCountersTheorems

/-!
# The counters that no migration counts

`total_rows_`, `migrated_rows_` and `filtered_rows_` are stored by the setup of a migration and
counted by functions that no migration calls yet. So they are zero in every state of every run
(`rowCounters_of_runs`).
-/

namespace ScyllaClusterSync
namespace SSTableLoader

open Svckit Lib

variable {cfg : LoaderConfig} {filter : Option SSTableBlacklistGovernor} {h : List Action}
  {m m' : Loader} {c c' : Call} {p : State}

def rowCounters : List Counter := [.totalRows, .migratedRows, .filteredRows]

theorem eventCount_rowCounters (a : CallAction) : ∀ k ∈ rowCounters, eventCount cfg a k = 0 := by
  intro k hk
  simp only [rowCounters, List.mem_cons, List.not_mem_nil, or_false] at hk
  rcases hk with rfl | rfl | rfl
  all_goals
    cases a with
    | table b =>
      cases b with
      | processRange table range o => cases o <;> rfl
      | _ => rfl
    | _ => rfl

/-- These stores leave zeros in the counters of rows. -/
def StoresZero (todo : List (Counter × ℕ)) : Prop := ∀ q ∈ todo, q.1 ∈ rowCounters → q.2 = 0

theorem storesZero_setupStores (request : Request) : StoresZero (setupStores request) := by
  cases request with
  | stopMigration => simp [StoresZero, setupStores]
  | _ => simp [StoresZero, setupStores, rowCounters]

/-- The stores still to come are those of the request, or what one of them leaves. -/
theorem setup_of_callStep {a : CallAction} (hstep : callStep cfg m c a = some (m', c'))
    {todo : List (Counter × ℕ)} (hpc : c'.pc = .setup todo) :
    todo = setupStores c.request ∨ ∃ q, c.pc = .setup (q :: todo) := by
  have hphase := callStep_phase hstep
  rw [hpc] at hphase
  cases a with
  | guard running =>
    obtain ⟨_, _, _, hc⟩ := callStep_guard hstep
    rw [hc] at hpc
    cases running with
    | true => cases hpc
    | false => exact Or.inl (Pc.setup.inj hpc).symm
  | setup =>
    obtain ⟨counter, v, rest, hbefore, _, hc⟩ := callStep_setup hstep
    rw [hc] at hpc
    obtain rfl := Pc.setup.inj hpc
    exact Or.inr ⟨(counter, v), hbefore⟩
  -- the other steps end in another phase, or start in one and stay there
  | setRunning => cases hphase
  | clearRunning => cases hphase
  | finish => cases hphase
  | rethrow => cases hphase
  | selectTables =>
    obtain ⟨_, hbefore, _⟩ := callStep_selectTables hstep
    rw [hbefore] at hphase
    cases hphase
  | leaveTables =>
    rw [(callStep_leaveTables hstep).1] at hphase
    cases hphase
  | tableHead running =>
    obtain ⟨_, _, hbefore, _⟩ := callStep_tableHead hstep
    rw [hbefore] at hphase
    cases hphase
  | shouldSkipTable =>
    obtain ⟨_, _, hbefore, _⟩ := callStep_shouldSkipTable hstep
    rw [hbefore] at hphase
    cases hphase
  | countSkipped =>
    obtain ⟨_, hbefore, _⟩ := callStep_countSkipped hstep
    rw [hbefore] at hphase
    cases hphase
  | table b =>
    obtain ⟨_, _, _, hbefore, _⟩ := callStep_table hstep
    rw [hbefore] at hphase
    cases hphase
  | countCompleted table =>
    obtain ⟨_, _, hbefore, _⟩ := callStep_countCompleted hstep
    rw [hbefore] at hphase
    cases hphase
  | stopGuard running =>
    rw [(callStep_stopGuard hstep).1] at hphase
    cases hphase
  | stopRunning =>
    rw [(callStep_stopRunning hstep).1] at hphase
    cases hphase
  | stopPaused =>
    rw [(callStep_stopPaused hstep).1] at hphase
    cases hphase

/-- One step of a call keeps the zeros, in the memory and in its own stores to come. -/
theorem rowCounters_callStep {a : CallAction} (hstep : callStep cfg m c a = some (m', c'))
    (hm : ∀ k ∈ rowCounters, m.counters.get k = 0)
    (hc : ∀ todo, c.pc = .setup todo → StoresZero todo) :
    (∀ k ∈ rowCounters, m'.counters.get k = 0) ∧
      ∀ todo, c'.pc = .setup todo → StoresZero todo := by
  refine ⟨fun k hk => ?_, fun todo hpc => ?_⟩
  · by_cases hsetup : a = .setup
    · subst hsetup
      obtain ⟨counter, v, todo, hpc, hm', _⟩ := callStep_setup hstep
      rw [hm', Loader.store, Counters.get_set]
      split
      next heq => exact hc _ hpc _ List.mem_cons_self (heq ▸ hk)
      · exact hm k hk
    by_cases hselect : a = .selectTables
    · subst hselect
      obtain ⟨_, _, _, hm', _⟩ := callStep_selectTables hstep
      -- the only counter it stores is not one of rows
      rw [hm', Loader.store, Counters.get_set, if_neg (fun heq => by simp [heq, rowCounters] at hk)]
      exact hm k hk
    rw [counters_callStep hstep hsetup hselect, hm k hk, eventCount_rowCounters a k hk]
  · rcases setup_of_callStep hstep hpc with rfl | ⟨q, hbefore⟩
    · exact storesZero_setupStores c.request
    · exact fun r hr => hc _ hbefore r (List.mem_cons_of_mem q hr)

theorem rowCounters_of_runs (hrun : runs cfg filter h = some p) :
    ∀ k ∈ rowCounters, p.mem.counters.get k = 0 := by
  have hholds := @Pool.invariant_of_meets _ _ _ _ _ (program cfg)
    (fun _ m => ∀ k ∈ rowCounters, m.counters.get k = 0)
    (fun _ _ _ c => ∀ todo, c.pc = .setup todo → StoresZero todo)
    (fun _ _ _ => True) { filter := filter } ?_ ?_ ?_ ?_ h p (Pool.meets_true h) hrun
  · exact hholds.1
  · intro k hk
    cases k <;> rfl
  · intro h p k hp _ _
    refine ⟨hp.1, ?_, fun _ _ hL => hL⟩
    intro todo hpc
    cases k <;> cases hpc
  · intro h p i a c m c' hp _ hc hthread
    obtain ⟨hG, hL⟩ := rowCounters_callStep hthread hp.1 (hp.2 i c hc)
    exact ⟨hG, hL, fun _ _ _ hother => hother⟩
  · intro h p e m hp _ henv
    obtain rfl := Option.some.inj henv
    refine ⟨?_, fun _ _ hL => hL⟩
    cases e <;> exact hp.1

end SSTableLoader
end ScyllaClusterSync
