import Mathlib

/-!
# An interval cut into consecutive cells

`Cuts` is a weakly increasing sequence of cut points with the number of cells it is used
for. Cell `i` is what lies between cut `i` and cut `i + 1`, and everything from the first
cut to the last lies in exactly one cell (`Cuts.existsUnique_cell`).

`equalWidth` cuts an interval of integers into `n` cells of one width, the truncated
quotient, where the last cell takes what the division leaves over.
-/

namespace ScyllaClusterSync
namespace Lib

/-- Cut points, weakly increasing, and how many cells they are used for. -/
structure Cuts (α : Type*) [Preorder α] where
  count : ℕ
  cut : ℕ → α
  mono : Monotone cut

namespace Cuts

/-- What lies between cut `i` and the next one. -/
def cell {α : Type*} [Preorder α] (c : Cuts α) (i : ℕ) : Set α :=
  Set.Ico (c.cut i) (c.cut (i + 1))

variable {α : Type*} [LinearOrder α] (c : Cuts α)

theorem exists_cell {x : α} (hx : x ∈ Set.Ico (c.cut 0) (c.cut c.count)) :
    ∃ i, i < c.count ∧ x ∈ c.cell i := by
  have hcover := Ico_subset_biUnion_Ico c.count c.cut hx
  simp only [Set.mem_iUnion, Finset.mem_range, exists_prop] at hcover
  exact hcover

theorem cell_unique {x : α} {i j : ℕ} (hi : x ∈ c.cell i) (hj : x ∈ c.cell j) : i = j := by
  by_contra hne
  have hdisjoint := c.mono.pairwise_disjoint_on_Ico_succ hne
  exact Set.disjoint_left.mp hdisjoint hi hj

/-- No gap and no overlap. -/
theorem existsUnique_cell {x : α} (hx : x ∈ Set.Ico (c.cut 0) (c.cut c.count)) :
    ∃! i, i < c.count ∧ x ∈ c.cell i := by
  obtain ⟨i, hi⟩ := c.exists_cell hx
  exact ⟨i, hi, fun j hj => c.cell_unique hj.2 hi.2⟩

end Cuts

/-! ## Cells of equal width -/

/-- `n` steps of the truncated width do not leave the interval. -/
theorem mul_width_le {lo hi : ℤ} (h : lo ≤ hi) {i n : ℕ} (hi' : i ≤ n) :
    lo + i * ((hi - lo) / n) ≤ hi := by
  rcases Nat.eq_zero_or_pos n with rfl | hn
  · obtain rfl : i = 0 := Nat.le_zero.mp hi'
    simpa using h
  have hwidth : 0 ≤ (hi - lo) / n := Int.ediv_nonneg (by omega) (Int.natCast_nonneg n)
  have hsteps : (i : ℤ) * ((hi - lo) / n) ≤ n * ((hi - lo) / n) :=
    mul_le_mul_of_nonneg_right (by exact_mod_cast hi') hwidth
  have htotal : (n : ℤ) * ((hi - lo) / n) ≤ hi - lo := 
    Int.mul_ediv_self_le (by omega)
  omega

/-- `[lo, hi)` in `n` cells of width `(hi - lo) / n`, the last one up to `hi`. -/
def equalWidth {lo hi : ℤ} (h : lo ≤ hi) (n : ℕ) : Cuts ℤ where
  count := n
  cut i := if i < n then lo + i * ((hi - lo) / n) else hi
  mono := by
    refine monotone_nat_of_le_succ fun i => ?_
    have hwidth : 0 ≤ (hi - lo) / n := Int.ediv_nonneg (by omega) (Int.natCast_nonneg n)
    by_cases hi₁ : i + 1 < n
    · rw [if_pos (by omega), if_pos hi₁]
      push_cast
      linarith
    · rw [if_neg hi₁]
      split
      · exact mul_width_le h (by omega)
      · exact le_refl hi

variable {lo hi : ℤ} (h : lo ≤ hi) {n : ℕ}

theorem equalWidth_cut {i : ℕ} (hi' : i < n) :
    (equalWidth h n).cut i = lo + i * ((hi - lo) / n) :=
  if_pos hi'

theorem equalWidth_cut_count : (equalWidth h n).cut n = hi :=
  if_neg (lt_irrefl n)

theorem equalWidth_cut_zero (hn : 0 < n) : (equalWidth h n).cut 0 = lo := by
  rw [equalWidth_cut h hn]
  simp

/-- With at most as many cells as there are integers, no cell is empty. -/
theorem equalWidth_cut_lt (hn : (n : ℤ) ≤ hi - lo) {i : ℕ} (hi' : i < n) :
    (equalWidth h n).cut i < (equalWidth h n).cut (i + 1) := by
  have hwidth : 1 ≤ (hi - lo) / n := by
    rw [Int.le_ediv_iff_mul_le (by omega)]
    omega
  have hlast := @mul_width_le lo hi h (i + 1) n hi'
  rw [equalWidth_cut h hi']
  push_cast at hlast
  by_cases hi₁ : i + 1 < n
  · rw [equalWidth_cut h hi₁]
    push_cast
    linarith
  · obtain rfl : i + 1 = n := by omega
    rw [equalWidth_cut_count]
    linarith

/-- Every integer of the interval lies in exactly one of the cells. -/
theorem equalWidth_existsUnique (hn : 0 < n) {x : ℤ} (hx : x ∈ Set.Ico lo hi) :
    ∃! i, i < n ∧ x ∈ (equalWidth h n).cell i := by
  apply (equalWidth h n).existsUnique_cell
  rw [equalWidth_cut_zero h hn]
  show x ∈ Set.Ico lo ((equalWidth h n).cut n)
  rwa [equalWidth_cut_count]

end Lib
end ScyllaClusterSync
