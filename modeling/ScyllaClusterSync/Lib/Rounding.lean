import Mathlib

/-!
# Binary floating-point numbers that are not negative

A format has a precision and a least exponent, and numbers `m * 2 ^ e` of no more digits than
that. `round` takes a number to the nearest one of the format, and to the even one of two. It
never passes a number of the format (`le_round`, `round_le`), and the two places at which it
jumps up to a power of two, and away from zero, are known exactly (`two_zpow_le_round_iff`,
`round_eq_zero_iff`). There is no greatest number.
-/

namespace ScyllaClusterSync
namespace Lib

/-! ## The nearest integer -/

/-- The nearest integer, and of two the even one. -/
def roundHalfEven (x : ℚ) : ℤ :=
  if x - ⌊x⌋ < 1 / 2 then ⌊x⌋
  else if 1 / 2 < x - ⌊x⌋ then ⌊x⌋ + 1
  else ⌊x⌋ + ⌊x⌋ % 2

theorem le_roundHalfEven {x : ℚ} {k : ℤ} (h : (k : ℚ) ≤ x) : k ≤ roundHalfEven x := by
  have hfloor : k ≤ ⌊x⌋ := Int.le_floor.mpr h
  unfold roundHalfEven
  split_ifs <;> omega

theorem roundHalfEven_le {x : ℚ} {k : ℤ} (h : x ≤ k) : roundHalfEven x ≤ k := by
  have hfloor : ⌊x⌋ ≤ k := (Int.floor_le_floor h).trans_eq (Int.floor_intCast k)
  by_cases heq : ⌊x⌋ = k
  · -- then `x` is the integer itself
    have hx : x = k := le_antisymm h (heq ▸ Int.floor_le x)
    have hzero : x - ⌊x⌋ < 1 / 2 := by
      rw [heq, hx, sub_self]
      exact one_half_pos
    rw [roundHalfEven, if_pos hzero, heq]
  · unfold roundHalfEven
    split_ifs <;> omega

/-- An even integer is reached from half below it on. -/
theorem le_roundHalfEven_iff_of_even {x : ℚ} {k : ℤ} (hk : k % 2 = 0) :
    k ≤ roundHalfEven x ↔ (k : ℚ) - 1 / 2 ≤ x := by
  have hlow := Int.floor_le x
  have hhigh := Int.lt_floor_add_one x
  unfold roundHalfEven
  generalize ⌊x⌋ = n at hlow hhigh
  rcases lt_trichotomy k (n + 1) with hlt | heq | hgt
  · -- at most the floor
    have hcast : (k : ℚ) ≤ n := by exact_mod_cast Int.lt_add_one_iff.mp hlt
    apply iff_of_true
    · split_ifs <;> omega
    · linarith
  · subst heq
    push_cast
    split_ifs with hdown hup
    · exact iff_of_false (by omega) (by linarith)
    · exact iff_of_true le_rfl (by linarith)
    · exact iff_of_true (by omega) (by linarith)
  · have hcast : (n : ℚ) + 2 ≤ k := by exact_mod_cast (by omega : n + 2 ≤ k)
    apply iff_of_false
    · split_ifs <;> omega
    · linarith

/-- And is not left up to half above it. -/
theorem roundHalfEven_le_iff_of_even {x : ℚ} {k : ℤ} (hk : k % 2 = 0) :
    roundHalfEven x ≤ k ↔ x ≤ (k : ℚ) + 1 / 2 := by
  have hlow := Int.floor_le x
  have hhigh := Int.lt_floor_add_one x
  unfold roundHalfEven
  generalize ⌊x⌋ = n at hlow hhigh
  rcases lt_trichotomy k n with hlt | heq | hgt
  · have hcast : (k : ℚ) + 1 ≤ n := by exact_mod_cast hlt
    apply iff_of_false
    · split_ifs <;> omega
    · linarith
  · subst heq
    split_ifs with hdown hup
    · exact iff_of_true le_rfl (by linarith)
    · exact iff_of_false (by omega) (by linarith)
    · exact iff_of_true (by omega) (by linarith)
  · have hcast : (n : ℚ) + 1 ≤ k := by exact_mod_cast hgt
    apply iff_of_true
    · split_ifs <;> omega
    · linarith

/-! ## Formats -/

/-- The precision in binary digits, and the exponent of the least positive number. -/
structure BinaryFormat where
  precision : ℕ
  minExponent : ℤ
  precision_pos : 0 < precision

namespace BinaryFormat

variable (f : BinaryFormat)

/-- A number of the format. -/
def Representable (x : ℚ) : Prop :=
  ∃ (m : ℕ) (e : ℤ), m ≤ 2 ^ f.precision ∧ f.minExponent ≤ e ∧ x = m * 2 ^ e

/-- The exponent of the last digit that the format keeps of `x`. -/
def lastExponent (x : ℚ) : ℤ := max (Int.log 2 x + 1 - f.precision) f.minExponent

/-- The nearest number of the format. -/
def round (x : ℚ) : ℚ := roundHalfEven (x / 2 ^ f.lastExponent x) * 2 ^ f.lastExponent x

variable {f}

theorem two_zpow_pos (e : ℤ) : (0 : ℚ) < 2 ^ e := zpow_pos two_pos e

theorem two_zpow_add (a b : ℤ) : (2 : ℚ) ^ (a + b) = 2 ^ a * 2 ^ b := zpow_add₀ two_ne_zero a b

theorem two_zpow_le {a b : ℤ} (h : a ≤ b) : (2 : ℚ) ^ a ≤ 2 ^ b :=
  zpow_le_zpow_right₀ one_le_two h

theorem two_zpow_natCast (n : ℕ) : (2 : ℚ) ^ (n : ℤ) = ((2 ^ n : ℕ) : ℚ) := by
  rw [zpow_natCast]
  push_cast
  rfl

theorem representable_zero : f.Representable (0 : ℚ) :=
  ⟨0, f.minExponent, Nat.zero_le _, le_rfl, by simp⟩

theorem Representable.nonneg {x : ℚ} (hx : f.Representable x) : 0 ≤ x := by
  obtain ⟨m, e, _, _, rfl⟩ := hx
  exact mul_nonneg (Nat.cast_nonneg m) (two_zpow_pos e).le

theorem representable_two_zpow {k : ℤ} (h : f.minExponent ≤ k) : f.Representable ((2 : ℚ) ^ k) :=
  ⟨1, k, Nat.one_le_two_pow, h, by simp⟩

/-- An integer with enough room. -/
theorem representable_natCast {n : ℕ} (hn : n ≤ 2 ^ f.precision) (hf : f.minExponent ≤ 0) :
    f.Representable (n : ℚ) :=
  ⟨n, 0, hn, hf, by simp⟩

/-- Below a power of two the greatest number is one last digit away. -/
theorem Representable.le_of_lt_two_zpow {x : ℚ} (hx : f.Representable x) {k : ℤ}
    (hlt : x < 2 ^ k) : x ≤ 2 ^ k - 2 ^ (k - f.precision) := by
  obtain ⟨m, e, hm, _, rfl⟩ := hx
  have hpos := f.precision_pos
  by_cases he : k - f.precision ≤ e
  · -- both are multiples of the last digit
    obtain ⟨d, hd⟩ := Int.eq_ofNat_of_zero_le (sub_nonneg.mpr he)
    have hsplit : (2 : ℚ) ^ e = ((2 ^ d : ℕ) : ℚ) * 2 ^ (k - f.precision) := by
      rw [← two_zpow_natCast, ← two_zpow_add]
      congr 1
      omega
    have htop : (2 : ℚ) ^ k = ((2 ^ f.precision : ℕ) : ℚ) * 2 ^ (k - f.precision) := by
      rw [← two_zpow_natCast, ← two_zpow_add]
      congr 1
      omega
    rw [hsplit, htop, ← mul_assoc, ← Nat.cast_mul] at hlt ⊢
    have hlt' : m * 2 ^ d < 2 ^ f.precision := by
      exact_mod_cast lt_of_mul_lt_mul_right hlt (two_zpow_pos _).le
    have hstep : ((m * 2 ^ d : ℕ) : ℚ) + 1 ≤ ((2 ^ f.precision : ℕ) : ℚ) := by exact_mod_cast hlt'
    nlinarith [two_zpow_pos (k - f.precision)]
  · -- all its digits lie further to the right
    have hcast : (m : ℚ) ≤ 2 ^ (f.precision : ℤ) := by
      rw [two_zpow_natCast]
      exact_mod_cast hm
    have hhalf : (m : ℚ) * 2 ^ e ≤ 2 ^ (k - 1) := by
      calc (m : ℚ) * 2 ^ e ≤ 2 ^ (f.precision : ℤ) * 2 ^ e :=
            mul_le_mul_of_nonneg_right hcast (two_zpow_pos e).le
        _ = 2 ^ (f.precision + e : ℤ) := (two_zpow_add _ _).symm
        _ ≤ 2 ^ (k - 1) := two_zpow_le (by omega)
    have hdigit : (2 : ℚ) ^ (k - f.precision) ≤ 2 ^ (k - 1) := two_zpow_le (by omega)
    have hdouble : (2 : ℚ) ^ k = 2 ^ (k - 1) + 2 ^ (k - 1) := by
      rw [← two_mul, ← zpow_one_add₀ two_ne_zero]
      congr 1
      omega
    linarith

theorem Representable.least_le {x : ℚ} (hx : f.Representable x) (hne : x ≠ 0) :
    2 ^ f.minExponent ≤ x := by
  obtain ⟨m, e, _, he, rfl⟩ := hx
  have hm : m ≠ 0 := by
    rintro rfl
    simp at hne
  have hone : (1 : ℚ) ≤ m := by exact_mod_cast Nat.one_le_iff_ne_zero.mpr hm
  calc (2 : ℚ) ^ f.minExponent ≤ 2 ^ e := two_zpow_le he
    _ ≤ m * 2 ^ e := le_mul_of_one_le_left (two_zpow_pos e).le hone

/-! ## The last digit -/

/-- What is left of the first digit of `x` has a place in the format. -/
theorem lt_two_zpow_precision (x : ℚ) : x < 2 ^ (f.precision + f.lastExponent x : ℤ) := by
  have hlog := Int.lt_zpow_succ_log_self (by omega : 1 < 2) x
  rw [Nat.cast_ofNat] at hlog
  refine hlog.trans_le (two_zpow_le ?_)
  unfold lastExponent
  omega

/-- A number of the format is a multiple of the last digit of `x`, or lies at or below the
power of two that `x` begins with. -/
theorem Representable.multiple_or {x y : ℚ} (hx : 0 < x) (hy : f.Representable y) :
    (∃ k : ℤ, y = k * 2 ^ f.lastExponent x) ∨
      ∃ k : ℤ, y ≤ k * 2 ^ f.lastExponent x ∧ k * 2 ^ f.lastExponent x ≤ x := by
  obtain ⟨m, e, hm, he, rfl⟩ := hy
  by_cases hlast : f.lastExponent x ≤ e
  · left
    obtain ⟨d, hd⟩ := Int.eq_ofNat_of_zero_le (sub_nonneg.mpr hlast)
    refine ⟨(m * 2 ^ d : ℕ), ?_⟩
    have hsplit : (2 : ℚ) ^ e = ((2 ^ d : ℕ) : ℚ) * 2 ^ f.lastExponent x := by
      rw [← two_zpow_natCast, ← two_zpow_add]
      congr 1
      omega
    rw [hsplit]
    push_cast
    ring
  · right
    have hprecision := f.precision_pos
    have hexp : f.lastExponent x = Int.log 2 x + 1 - f.precision := by
      unfold lastExponent at hlast ⊢
      omega
    -- the first digit of `x`, as a multiple of the last one
    have hfirst : ((2 ^ (f.precision - 1) : ℕ) : ℚ) * 2 ^ f.lastExponent x = 2 ^ Int.log 2 x := by
      rw [← two_zpow_natCast, ← two_zpow_add, hexp]
      congr 1
      omega
    refine ⟨(2 ^ (f.precision - 1) : ℕ), ?_, ?_⟩
    · rw [Int.cast_natCast, hfirst]
      have hcast : (m : ℚ) ≤ 2 ^ (f.precision : ℤ) := by
        rw [two_zpow_natCast]
        exact_mod_cast hm
      calc (m : ℚ) * 2 ^ e ≤ 2 ^ (f.precision : ℤ) * 2 ^ e :=
            mul_le_mul_of_nonneg_right hcast (two_zpow_pos e).le
        _ = 2 ^ (f.precision + e : ℤ) := (two_zpow_add _ _).symm
        _ ≤ 2 ^ Int.log 2 x := two_zpow_le (by omega)
    · rw [Int.cast_natCast, hfirst]
      have hlog := Int.zpow_log_le_self (by omega : 1 < 2) hx
      rwa [Nat.cast_ofNat] at hlog

/-! ## Rounding -/

theorem le_round_of_multiple {x : ℚ} {k : ℤ} (h : k * 2 ^ f.lastExponent x ≤ x) :
    k * 2 ^ f.lastExponent x ≤ f.round x := by
  refine mul_le_mul_of_nonneg_right ?_ (two_zpow_pos _).le
  exact_mod_cast le_roundHalfEven ((le_div_iff₀ (two_zpow_pos _)).mpr h)

theorem round_le_of_multiple {x : ℚ} {k : ℤ} (h : x ≤ k * 2 ^ f.lastExponent x) :
    f.round x ≤ k * 2 ^ f.lastExponent x := by
  refine mul_le_mul_of_nonneg_right ?_ (two_zpow_pos _).le
  exact_mod_cast roundHalfEven_le ((div_le_iff₀ (two_zpow_pos _)).mpr h)

@[simp] theorem round_zero : f.round (0 : ℚ) = 0 := by
  simp [round, roundHalfEven]

/-- Rounding never falls below a number of the format. -/
theorem le_round {x y : ℚ} (hx : 0 ≤ x) (hy : f.Representable y) (h : y ≤ x) : y ≤ f.round x := by
  rcases hx.eq_or_lt with rfl | hpos
  · rwa [round_zero]
  · rcases hy.multiple_or hpos with ⟨k, rfl⟩ | ⟨k, hlow, hhigh⟩
    · exact le_round_of_multiple h
    · exact hlow.trans (le_round_of_multiple hhigh)

/-- Nor does it rise above one. -/
theorem round_le {x y : ℚ} (hx : 0 ≤ x) (hy : f.Representable y) (h : x ≤ y) : f.round x ≤ y := by
  rcases hx.eq_or_lt with rfl | hpos
  · rwa [round_zero]
  · rcases hy.multiple_or hpos with ⟨k, rfl⟩ | ⟨k, hlow, hhigh⟩
    · exact round_le_of_multiple h
    · exact (round_le_of_multiple (h.trans hlow)).trans (hhigh.trans h)

theorem round_eq_self {x : ℚ} (hx : f.Representable x) : f.round x = x :=
  le_antisymm (round_le hx.nonneg hx le_rfl) (le_round hx.nonneg hx le_rfl)

theorem round_nonneg {x : ℚ} (hx : 0 ≤ x) : 0 ≤ f.round x := le_round hx representable_zero hx

theorem representable_round {x : ℚ} (hx : 0 ≤ x) : f.Representable (f.round x) := by
  have hdiv : x / 2 ^ f.lastExponent x ≤ ((2 ^ f.precision : ℕ) : ℤ) := by
    rw [div_le_iff₀ (two_zpow_pos _), Int.cast_natCast, ← two_zpow_natCast, ← two_zpow_add]
    exact (lt_two_zpow_precision x).le
  have hnonneg : 0 ≤ roundHalfEven (x / 2 ^ f.lastExponent x) := by
    apply le_roundHalfEven
    rw [Int.cast_zero]
    exact div_nonneg hx (two_zpow_pos _).le
  obtain ⟨m, hm⟩ := Int.eq_ofNat_of_zero_le hnonneg
  have hle := roundHalfEven_le hdiv
  refine ⟨m, f.lastExponent x, by omega, le_max_right _ _, ?_⟩
  rw [round, hm]
  rfl

/-! ## Where it jumps -/

/-- A power of two is reached from half a digit below it on, counted in the digits below. -/
theorem two_zpow_le_round_iff {x : ℚ} (hx : 0 ≤ x) {k : ℤ} (hk : f.minExponent + f.precision ≤ k) :
    2 ^ k ≤ f.round x ↔ 2 ^ k - 2 ^ (k - f.precision - 1) ≤ x := by
  have hprecision := f.precision_pos
  have hrep : f.Representable ((2 : ℚ) ^ k) := representable_two_zpow (by omega)
  have hdouble : (2 : ℚ) ^ k = 2 ^ (k - 1) + 2 ^ (k - 1) := by
    rw [← two_mul, ← zpow_one_add₀ two_ne_zero]
    congr 1
    omega
  have hhalf : (2 : ℚ) ^ (k - f.precision - 1) ≤ 2 ^ (k - 1) := two_zpow_le (by omega)
  have hsmall : (0 : ℚ) < 2 ^ (k - f.precision - 1) := two_zpow_pos _
  by_cases htop : 2 ^ k ≤ x
  · exact iff_of_true (le_round hx hrep htop) (by linarith)
  rw [not_le] at htop
  by_cases hbottom : x < 2 ^ (k - 1)
  · have hround : f.round x ≤ 2 ^ (k - 1) :=
      round_le hx (representable_two_zpow (by omega)) hbottom.le
    have hpos : (0 : ℚ) < 2 ^ (k - 1) := two_zpow_pos _
    exact iff_of_false (by linarith) (by linarith)
  · -- between the two powers the last digit is known
    rw [not_lt] at hbottom
    have hpos : 0 < x := (two_zpow_pos _).trans_le hbottom
    have hlow : k - 1 ≤ Int.log 2 x :=
      (Int.zpow_le_iff_le_log (by omega) hpos).mp (by rwa [Nat.cast_ofNat])
    have hhigh : Int.log 2 x < k :=
      (Int.lt_zpow_iff_log_lt (by omega) hpos).mp (by rwa [Nat.cast_ofNat])
    have hlast : f.lastExponent x = k - f.precision := by
      unfold lastExponent
      omega
    have heven : ((2 ^ f.precision : ℕ) : ℤ) % 2 = 0 := by
      have hsucc : 2 ^ f.precision = 2 * 2 ^ (f.precision - 1) := by
        rw [← pow_succ', Nat.sub_add_cancel hprecision]
      omega
    have hsplit : (2 : ℚ) ^ k = ((2 ^ f.precision : ℕ) : ℤ) * 2 ^ (k - f.precision) := by
      rw [Int.cast_natCast, ← two_zpow_natCast, ← two_zpow_add]
      congr 1
      omega
    have hdigit : (2 : ℚ) ^ (k - f.precision) = 2 * 2 ^ (k - f.precision - 1) := by
      rw [← zpow_one_add₀ two_ne_zero]
      congr 1
      omega
    rw [round, hlast, hsplit, mul_le_mul_iff_of_pos_right (two_zpow_pos _), Int.cast_le,
      le_roundHalfEven_iff_of_even heven, le_div_iff₀ (two_zpow_pos _), hdigit]
    constructor
    · intro h
      linarith
    · intro h
      linarith

/-- What is at most half of the least positive number is rounded to zero. -/
theorem round_eq_zero_iff {x : ℚ} (hx : 0 ≤ x) :
    f.round x = 0 ↔ x ≤ 2 ^ (f.minExponent - 1) := by
  have hdouble : (2 : ℚ) ^ f.minExponent = 2 * 2 ^ (f.minExponent - 1) := by
    rw [← zpow_one_add₀ two_ne_zero]
    congr 1
    omega
  have hhalf : (0 : ℚ) < 2 ^ (f.minExponent - 1) := two_zpow_pos _
  by_cases hleast : 2 ^ f.minExponent ≤ x
  · have hround : 2 ^ f.minExponent ≤ f.round x :=
      le_round hx (representable_two_zpow le_rfl) hleast
    exact iff_of_false (by linarith) (by linarith)
  rw [not_le] at hleast
  rcases hx.eq_or_lt with rfl | hpos
  · exact iff_of_true round_zero hhalf.le
  have hlog : Int.log 2 x < f.minExponent :=
    (Int.lt_zpow_iff_log_lt (by omega) hpos).mp (by rwa [Nat.cast_ofNat])
  have hprecision := f.precision_pos
  have hlast : f.lastExponent x = f.minExponent := by
    unfold lastExponent
    omega
  have hnonneg : 0 ≤ roundHalfEven (x / 2 ^ f.minExponent) := by
    apply le_roundHalfEven
    rw [Int.cast_zero]
    exact div_nonneg hx (two_zpow_pos _).le
  have hle := @roundHalfEven_le_iff_of_even (x / 2 ^ f.minExponent) 0 rfl
  rw [Int.cast_zero, zero_add, div_le_iff₀ (two_zpow_pos _)] at hle
  have hzero : f.round x = 0 ↔ roundHalfEven (x / 2 ^ f.minExponent) ≤ 0 := by
    rw [round, hlast, mul_eq_zero, or_iff_left (two_zpow_pos _).ne', Int.cast_eq_zero]
    omega
  rw [hzero, hle]
  constructor
  · intro h
    linarith
  · intro h
    linarith

end BinaryFormat

/-- A `float`. -/
def binary32 : BinaryFormat where
  precision := 24
  minExponent := -149
  precision_pos := by decide

/-- A `double`. -/
def binary64 : BinaryFormat where
  precision := 53
  minExponent := -1074
  precision_pos := by decide

end Lib
end ScyllaClusterSync
