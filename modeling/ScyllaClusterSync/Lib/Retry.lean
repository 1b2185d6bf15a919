import Mathlib

/-!
# A retry loop with an inclusive bound

`for (attempt = 0; attempt <= bound; ++attempt)` around an operation that may fail: a success
leaves the loop, a failure goes round again while `attempt < bound`, and gives up otherwise.
The counter has 32 bits. It cannot wrap, since the last failure leaves the loop before the
increment: `retry_upToFirstSuccess` says which executions there are, and `retry_exit` that
the loop never ends by its own condition.
-/

namespace ScyllaClusterSync
namespace Lib

variable {α ε : Type*}

/-- How the loop is left. -/
inductive RetryExit (ε : Type*) where
  | succeeded
  | gaveUp (error : ε)
  /-- The condition of the loop does not hold. -/
  | ranOut

/-- The executions, each with the counter it was made at, and the exit. -/
structure RetryRun (α ε : Type*) where
  attempts : List (UInt32 × α)
  exit : RetryExit ε

/-- Below the bound the counter goes up by one. -/
theorem toNat_add_one_of_lt {attempt bound : UInt32} (h : attempt < bound) :
    (attempt + 1).toNat = attempt.toNat + 1 := by
  have hlt := UInt32.lt_iff_toNat_lt.mp h
  have hbound := bound.toNat_lt
  rw [UInt32.toNat_add, UInt32.toNat_one, Nat.mod_eq_of_lt (by omega)]

/-- The loop from `attempt` on, where the next execution is the `i`-th one. -/
def retryFrom (error : α → Option ε) (answers : ℕ → α) (bound attempt : UInt32) (i : ℕ) :
    RetryRun α ε :=
  if attempt ≤ bound then
    match error (answers i) with
    | none => { attempts := [(attempt, answers i)], exit := .succeeded }
    | some e =>
      if h : attempt < bound then
        let rest := retryFrom error answers bound (attempt + 1) (i + 1)
        { attempts := (attempt, answers i) :: rest.attempts, exit := rest.exit }
      else { attempts := [(attempt, answers i)], exit := .gaveUp e }
  else { attempts := [], exit := .ranOut }
termination_by bound.toNat - attempt.toNat
decreasing_by
  rw [toNat_add_one_of_lt h]
  have hlt := UInt32.lt_iff_toNat_lt.mp h
  omega

/-- The whole loop. -/
def retry (error : α → Option ε) (answers : ℕ → α) (bound : UInt32) : RetryRun α ε :=
  retryFrom error answers bound 0 0

/-- Executions `i`, `i + 1` and so on, `n` of them. -/
def attemptsFrom (answers : ℕ → α) (i n : ℕ) : List (UInt32 × α) :=
  (List.range' i n).map fun j => (.ofNat j, answers j)

variable {error : α → Option ε} {answers : ℕ → α} {bound attempt : UInt32}

theorem attemptsFrom_succ (answers : ℕ → α) (i n : ℕ) :
    attemptsFrom answers i (n + 1) = (.ofNat i, answers i) :: attemptsFrom answers (i + 1) n := by
  rw [attemptsFrom, List.range'_succ, List.map_cons]
  rfl

theorem attemptsFrom_concat (answers : ℕ → α) (i n : ℕ) :
    attemptsFrom answers i (n + 1) =
      attemptsFrom answers i n ++ [(.ofNat (i + n), answers (i + n))] := by
  rw [attemptsFrom, List.range'_1_concat, List.map_append]
  rfl

/-- Counters below `2 ^ 32` are what they were made from. -/
theorem toNat_attemptsFrom (answers : ℕ → α) {i n : ℕ} (h : i + n ≤ 2 ^ 32) :
    (attemptsFrom answers i n).map (fun a => a.1.toNat) = List.range' i n := by
  rw [attemptsFrom, List.map_map]
  refine (List.map_congr_left fun j hj => ?_).trans (List.map_id _)
  have hlt := (List.mem_range'_1.mp hj).2
  exact UInt32.toNat_ofNat_of_lt' (Nat.lt_of_lt_of_le hlt h)

/-! ## One round of the loop -/

/-- A success leaves the loop. -/
theorem retryFrom_of_ok (hle : attempt ≤ bound) (hok : error (answers attempt.toNat) = none) :
    retryFrom error answers bound attempt attempt.toNat =
      ⟨attemptsFrom answers attempt.toNat 1, .succeeded⟩ := by
  rw [retryFrom, if_pos hle, hok, attemptsFrom_succ, UInt32.ofNat_toNat]
  rfl

/-- A failure at the bound gives up. -/
theorem retryFrom_of_last {e : ε} (hlast : attempt.toNat = bound.toNat)
    (herror : error (answers attempt.toNat) = some e) :
    retryFrom error answers bound attempt attempt.toNat =
      ⟨attemptsFrom answers attempt.toNat 1, .gaveUp e⟩ := by
  obtain rfl := UInt32.toNat_inj.mp hlast
  rw [retryFrom, if_pos (UInt32.le_refl _), herror, attemptsFrom_succ, UInt32.ofNat_toNat]
  simp only [UInt32.lt_irrefl, dite_false]
  rfl

/-- Any other failure goes round again. -/
theorem retryFrom_of_lt {e : ε} (hlt : attempt < bound)
    (herror : error (answers attempt.toNat) = some e) :
    retryFrom error answers bound attempt attempt.toNat =
      ⟨(attempt, answers attempt.toNat) ::
          (retryFrom error answers bound (attempt + 1) (attempt + 1).toNat).attempts,
        (retryFrom error answers bound (attempt + 1) (attempt + 1).toNat).exit⟩ := by
  rw [retryFrom, if_pos (UInt32.le_of_lt hlt), herror, toNat_add_one_of_lt hlt]
  simp only [dif_pos hlt]

/-! ## The whole loop -/

/-- From `n` below the bound on: up to the first success, or up to the bound. -/
theorem retryFrom_cases (n : ℕ) (hn : attempt.toNat + n = bound.toNat) :
    (∃ k ≤ n, (∀ j < k, error (answers (attempt.toNat + j)) ≠ none) ∧
      error (answers (attempt.toNat + k)) = none ∧
      retryFrom error answers bound attempt attempt.toNat =
        ⟨attemptsFrom answers attempt.toNat (k + 1), .succeeded⟩) ∨
    ((∀ j ≤ n, error (answers (attempt.toNat + j)) ≠ none) ∧
      ∃ e, error (answers bound.toNat) = some e ∧
        retryFrom error answers bound attempt attempt.toNat =
          ⟨attemptsFrom answers attempt.toNat (n + 1), .gaveUp e⟩) := by
  induction n generalizing attempt with
  | zero =>
    cases herror : error (answers attempt.toNat) with
    | none =>
      have hle : attempt ≤ bound := UInt32.le_iff_toNat_le.mpr (by omega)
      exact Or.inl ⟨0, le_refl 0, by simp, herror, retryFrom_of_ok hle herror⟩
    | some e =>
      refine Or.inr ⟨fun j hj => ?_, e, by rw [← hn]; exact herror, retryFrom_of_last hn herror⟩
      rw [Nat.le_zero.mp hj, Nat.add_zero, herror]
      simp
  | succ n ih =>
    have hlt : attempt < bound := UInt32.lt_iff_toNat_lt.mpr (by omega)
    have hnext := toNat_add_one_of_lt hlt
    cases herror : error (answers attempt.toNat) with
    | none =>
      have hle : attempt ≤ bound := UInt32.le_of_lt hlt
      exact Or.inl ⟨0, Nat.zero_le _, by simp, herror, retryFrom_of_ok hle herror⟩
    | some e =>
      -- this failure, and those of the rounds after it
      have hfirst : ∀ k, (∀ j < k, error (answers ((attempt + 1).toNat + j)) ≠ none) →
          ∀ j < k + 1, error (answers (attempt.toNat + j)) ≠ none := by
        intro k hrest j hj
        cases j with
        | zero =>
          rw [Nat.add_zero, herror]
          simp
        | succ j =>
          have hj' := hrest j (by omega)
          rwa [hnext, Nat.add_assoc, Nat.add_comm 1 j] at hj'
      rw [retryFrom_of_lt hlt herror]
      rcases @ih (attempt + 1) (by omega) with
        ⟨k, hk, hfailed, hok, hrun⟩ | ⟨hfailed, e', he', hrun⟩
      · refine Or.inl ⟨k + 1, by omega, hfirst k hfailed, ?_, ?_⟩
        · rwa [hnext, Nat.add_assoc, Nat.add_comm 1 k] at hok
        · rw [hrun, attemptsFrom_succ _ attempt.toNat, UInt32.ofNat_toNat, hnext]
      · refine Or.inr ⟨fun j hj => ?_, e', he', ?_⟩
        · exact hfirst (n + 1) (fun j hj => hfailed j (by omega)) j (by omega)
        · rw [hrun, attemptsFrom_succ _ attempt.toNat, UInt32.ofNat_toNat, hnext]

/-- The loop ends at the first success, or after `bound + 1` failures. -/
theorem retry_cases (error : α → Option ε) (answers : ℕ → α) (bound : UInt32) :
    (∃ k ≤ bound.toNat, (∀ j < k, error (answers j) ≠ none) ∧ error (answers k) = none ∧
      retry error answers bound = ⟨attemptsFrom answers 0 (k + 1), .succeeded⟩) ∨
    ((∀ j ≤ bound.toNat, error (answers j) ≠ none) ∧ ∃ e, error (answers bound.toNat) = some e ∧
      retry error answers bound = ⟨attemptsFrom answers 0 (bound.toNat + 1), .gaveUp e⟩) := by
  have hcases := @retryFrom_cases _ _ error answers bound 0 bound.toNat (Nat.zero_add _)
  simp only [UInt32.toNat_zero, Nat.zero_add] at hcases
  exact hcases

/-! ## The executions and the exit -/

theorem length_attemptsFrom (answers : ℕ → α) (i n : ℕ) : (attemptsFrom answers i n).length = n := by
  rw [attemptsFrom, List.length_map, List.length_range']

theorem mem_attemptsFrom_zero {n : ℕ} {a : UInt32 × α} :
    a ∈ attemptsFrom answers 0 n ↔ ∃ i < n, a = (.ofNat i, answers i) := by
  rw [attemptsFrom, ← List.range_eq_range', List.mem_map]
  simp only [List.mem_range, eq_comm]

/-- The executions a retry loop should make: one for each value of the counter from 0 on, at
most `bound + 1`, none after a success, and no end before there is one. -/
structure UpToFirstSuccess (error : α → Option ε) (answers : ℕ → α) (bound : UInt32)
    (attempts : List (UInt32 × α)) : Prop where
  counters : attempts.map (fun a => a.1.toNat) = List.range attempts.length
  outcomes : attempts.map Prod.snd = (List.range attempts.length).map answers
  bounded : attempts.length ≤ bound.toNat + 1
  failed : ∀ i, i + 1 < attempts.length → error (answers i) ≠ none
  last : (∃ a ∈ attempts, error a.2 = none) ∨ attempts.length = bound.toNat + 1

/-- The first `n + 1` executions, none but the last of which may have succeeded. -/
theorem upToFirstSuccess_attemptsFrom {n : ℕ} (hn : n ≤ bound.toNat)
    (hfailed : ∀ j < n, error (answers j) ≠ none)
    (hlast : error (answers n) = none ∨ n = bound.toNat) :
    UpToFirstSuccess error answers bound (attemptsFrom answers 0 (n + 1)) := by
  have hlength := length_attemptsFrom answers 0 (n + 1)
  have hbound := bound.toNat_lt
  refine ⟨?_, ?_, by omega, fun i hi => hfailed i (by omega), ?_⟩
  · rw [hlength, List.range_eq_range', toNat_attemptsFrom answers (by omega)]
  · rw [hlength, attemptsFrom, List.map_map, List.range_eq_range']
    rfl
  · rcases hlast with hok | hn
    · exact Or.inl ⟨_, mem_attemptsFrom_zero.mpr ⟨n, Nat.lt_succ_self n, rfl⟩, hok⟩
    · exact Or.inr (by rw [hlength, hn])

theorem retry_upToFirstSuccess (error : α → Option ε) (answers : ℕ → α) (bound : UInt32) :
    UpToFirstSuccess error answers bound (retry error answers bound).attempts := by
  rcases retry_cases error answers bound with ⟨k, hk, hfailed, hok, hrun⟩ | ⟨hfailed, e, _, hrun⟩
  · rw [hrun]
    exact upToFirstSuccess_attemptsFrom hk hfailed (Or.inl hok)
  · rw [hrun]
    exact upToFirstSuccess_attemptsFrom (Nat.le_refl _) (fun j hj => hfailed j (Nat.le_of_lt hj))
      (Or.inr rfl)

/-- The loop succeeds with an execution that did, and gives up when none did. -/
theorem retry_exit (error : α → Option ε) (answers : ℕ → α) (bound : UInt32) :
    ((retry error answers bound).exit = .succeeded ∧
        ∃ a ∈ (retry error answers bound).attempts, error a.2 = none) ∨
      ((∃ e, (retry error answers bound).exit = .gaveUp e) ∧
        ∀ a ∈ (retry error answers bound).attempts, error a.2 ≠ none) := by
  rcases retry_cases error answers bound with ⟨k, _, _, hok, hrun⟩ | ⟨hfailed, e, _, hrun⟩
  · rw [hrun]
    exact Or.inl ⟨rfl, _, mem_attemptsFrom_zero.mpr ⟨k, Nat.lt_succ_self k, rfl⟩, hok⟩
  · rw [hrun]
    refine Or.inr ⟨⟨e, rfl⟩, fun a ha => ?_⟩
    obtain ⟨i, hi, rfl⟩ := mem_attemptsFrom_zero.mp ha
    exact hfailed i (Nat.le_of_lt_succ hi)

end Lib
end ScyllaClusterSync
