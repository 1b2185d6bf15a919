import ScyllaClusterSync.DualReader.Validator

/-!
# When a validation comes out clean

The rows to check are a sample of the source, so that with no row in the sample nothing is left
to show that the target has rows of its own. The sample is empty when the source is, and when
the rate is too small for a `float`; and for the greatest counts there are, at a rate that is
rounded to 1, it is a number that `uint64_t` has no room for.
-/

namespace ScyllaClusterSync
namespace DualReader

open Lib

/-! ## The rate as a `float` -/

namespace SampleRate

variable (rate : SampleRate)

theorem sampleRate_nonneg : 0 ≤ rate.sampleRate := BinaryFormat.round_nonneg rate.nonneg

theorem sampleRate_le_one : rate.sampleRate ≤ 1 :=
  BinaryFormat.round_le rate.nonneg
    (BinaryFormat.representable_two_zpow (k := 0) (by decide)) rate.le_one

/-- The rates that count as 1. -/
theorem sampleRate_eq_one_iff : rate.sampleRate = 1 ↔ 1 - 2 ^ (-25 : ℤ) ≤ rate.value := by
  have hjump := BinaryFormat.two_zpow_le_round_iff (f := binary32) rate.nonneg (k := 0) (by decide)
  rw [zpow_zero] at hjump
  show rate.sampleRate = 1 ↔ (1 : ℚ) - 2 ^ ((0 : ℤ) - binary32.precision - 1) ≤ rate.value
  rw [← hjump]
  exact ⟨fun h => h.ge, fun h => le_antisymm rate.sampleRate_le_one h⟩

/-- The rates that count as 0. -/
theorem sampleRate_eq_zero_iff : rate.sampleRate = 0 ↔ rate.value ≤ 2 ^ (-150 : ℤ) :=
  BinaryFormat.round_eq_zero_iff rate.nonneg

end SampleRate

namespace Validator

variable {rate : SampleRate} {table : String} {now : ℕ → ℕ} {source target : UInt64}

/-! ## The sample -/

/-- The greatest `double` below `2 ^ 64`. -/
theorem representable_top : binary64.Representable (2 ^ 64 - 2 ^ 11 : ℚ) :=
  ⟨2 ^ 53 - 1, 11, by decide, by decide, by norm_num⟩

/-- The counts that are rounded up to `2 ^ 64`. -/
theorem two_pow_le_round_iff (sourceCount : ℕ) :
    2 ^ 64 ≤ binary64.round (sourceCount : ℚ) ↔ 2 ^ 64 - 1024 ≤ sourceCount := by
  have hjump := BinaryFormat.two_zpow_le_round_iff (f := binary64) (Nat.cast_nonneg sourceCount)
    (k := 64) (by decide)
  have hten : (2 : ℚ) ^ ((64 : ℤ) - binary64.precision - 1) = 1024 := by norm_num [binary64]
  rw [hten] at hjump
  have hsixtyfour : (2 : ℚ) ^ (64 : ℤ) = 2 ^ 64 := by norm_num
  rw [hsixtyfour] at hjump
  rw [hjump]
  constructor
  · intro h
    have hcast : ((2 ^ 64 - 1024 : ℕ) : ℚ) ≤ sourceCount := by
      norm_num at h ⊢
      linarith
    exact_mod_cast hcast
  · intro h
    have hcast : ((2 ^ 64 - 1024 : ℕ) : ℚ) ≤ sourceCount := by exact_mod_cast h
    norm_num at hcast ⊢
    linarith

/-- The product under `std::ceil` stays below `2 ^ 64` when a count or the rate does. -/
theorem product_le {sourceCount : ℕ} (hcount : sourceCount < 2 ^ 64)
    (hfits : sourceCount < 2 ^ 64 - 1024 ∨ rate.value < 1 - 2 ^ (-25 : ℤ)) :
    binary64.round (sourceCount : ℚ) * rate.sampleRate ≤ 2 ^ 64 - 2 ^ 11 := by
  have hnonneg := BinaryFormat.round_nonneg (f := binary64) (Nat.cast_nonneg sourceCount)
  have hrate := rate.sampleRate_nonneg
  rcases hfits with hsmall | hslow
  · have hlt : binary64.round (sourceCount : ℚ) < 2 ^ (64 : ℤ) := by
      have hnot := (not_congr (two_pow_le_round_iff sourceCount)).mpr (by omega)
      rw [not_le] at hnot
      exact_mod_cast hnot
    have hle := (BinaryFormat.representable_round (Nat.cast_nonneg sourceCount)).le_of_lt_two_zpow hlt
    have heleven : (2 : ℚ) ^ (64 : ℤ) - 2 ^ ((64 : ℤ) - binary64.precision) = 2 ^ 64 - 2 ^ 11 := by
      norm_num [binary64]
    rw [heleven] at hle
    exact (mul_le_of_le_one_right hnonneg rate.sampleRate_le_one).trans hle
  · have hle : binary64.round (sourceCount : ℚ) ≤ 2 ^ (64 : ℤ) := by
      refine BinaryFormat.round_le (Nat.cast_nonneg _)
        (BinaryFormat.representable_two_zpow (by decide)) ?_
      exact_mod_cast hcount.le
    have hlt : rate.sampleRate < 2 ^ (0 : ℤ) := by
      rw [zpow_zero]
      refine lt_of_le_of_ne rate.sampleRate_le_one ?_
      rw [Ne, rate.sampleRate_eq_one_iff, not_le]
      exact hslow
    have htop := (BinaryFormat.representable_round rate.nonneg).le_of_lt_two_zpow hlt
    calc binary64.round (sourceCount : ℚ) * rate.sampleRate
        ≤ 2 ^ (64 : ℤ) * (2 ^ (0 : ℤ) - 2 ^ ((0 : ℤ) - binary32.precision)) :=
          mul_le_mul hle htop hrate (by positivity)
      _ ≤ 2 ^ 64 - 2 ^ 11 := by norm_num [binary32]

/-- The cast is out of range for the greatest counts at the greatest rates. -/
theorem rowsToCheck_isSome_iff {sourceCount : ℕ} (hcount : sourceCount < 2 ^ 64) :
    (rowsToCheck rate sourceCount).isSome ↔
      sourceCount < 2 ^ 64 - 1024 ∨ rate.value < 1 - 2 ^ (-25 : ℤ) := by
  have hnonneg : 0 ≤ binary64.round (sourceCount : ℚ) * rate.sampleRate :=
    mul_nonneg (BinaryFormat.round_nonneg (Nat.cast_nonneg _)) rate.sampleRate_nonneg
  unfold rowsToCheck
  by_cases hfits : sourceCount < 2 ^ 64 - 1024 ∨ rate.value < 1 - 2 ^ (-25 : ℤ)
  · have hround := BinaryFormat.round_le hnonneg representable_top (product_le hcount hfits)
    have hrows : ⌈binary64.round (binary64.round (sourceCount : ℚ) * rate.sampleRate)⌉₊ ≤
        2 ^ 64 - 2 ^ 11 := by
      rw [Nat.ceil_le]
      norm_num at hround ⊢
      exact hround
    simp only [hfits, iff_true]
    rw [if_pos (by omega)]
    rfl
  · rw [not_or, not_lt, not_lt] at hfits
    obtain ⟨hlarge, hfast⟩ := hfits
    have hrep : binary64.Representable ((2 : ℚ) ^ (64 : ℤ)) :=
      BinaryFormat.representable_two_zpow (by decide)
    -- both factors have been rounded up to a power of two
    have hcount' : binary64.round (sourceCount : ℚ) = 2 ^ (64 : ℤ) := by
      apply le_antisymm
      · refine BinaryFormat.round_le (Nat.cast_nonneg _) hrep ?_
        exact_mod_cast hcount.le
      · exact_mod_cast (two_pow_le_round_iff sourceCount).mpr hlarge
    rw [hcount', rate.sampleRate_eq_one_iff.mpr hfast, mul_one, BinaryFormat.round_eq_self hrep]
    have hceil : ⌈(2 : ℚ) ^ (64 : ℤ)⌉₊ = 2 ^ 64 := by
      have hcast : (2 : ℚ) ^ (64 : ℤ) = ((2 ^ 64 : ℕ) : ℚ) := by norm_num
      rw [hcast, Nat.ceil_natCast]
    rw [hceil]
    apply iff_of_false
    · simp
    · rw [not_or, not_lt, not_lt]
      exact ⟨hlarge, hfast⟩

/-- The sample is empty for an empty source, and for a rate that is rounded to zero. -/
theorem rowsToCheck_eq_zero_iff {sourceCount rows : ℕ} (h : rowsToCheck rate sourceCount = some rows) :
    rows = 0 ↔ sourceCount = 0 ∨ rate.value ≤ 2 ^ (-150 : ℤ) := by
  have hrows : rows =
      ⌈binary64.round (binary64.round (sourceCount : ℚ) * rate.sampleRate)⌉₊ := by
    change (if _ < _ then _ else _) = _ at h
    split at h
    · exact (Option.some.inj h).symm
    · cases h
  rw [hrows, Nat.ceil_eq_zero, ← rate.sampleRate_eq_zero_iff]
  constructor
  · intro hround
    by_contra hpos
    rw [not_or] at hpos
    obtain ⟨hcount, hrate⟩ := hpos
    have hone : 2 ^ (0 : ℤ) ≤ binary64.round (sourceCount : ℚ) := by
      refine BinaryFormat.le_round (Nat.cast_nonneg _)
        (BinaryFormat.representable_two_zpow (by decide)) ?_
      rw [zpow_zero]
      exact_mod_cast Nat.one_le_iff_ne_zero.mpr hcount
    have hleast : 2 ^ (-149 : ℤ) ≤ rate.sampleRate :=
      (BinaryFormat.representable_round rate.nonneg).least_le hrate
    -- a row at the least rate there is: far from the least `double`
    have hproduct : 2 ^ (-149 : ℤ) ≤ binary64.round (sourceCount : ℚ) * rate.sampleRate := by
      rw [zpow_zero] at hone
      exact hleast.trans (le_mul_of_one_le_left rate.sampleRate_nonneg hone)
    have hle := BinaryFormat.le_round (f := binary64) ((BinaryFormat.two_zpow_pos _).le.trans hproduct)
      (BinaryFormat.representable_two_zpow (by decide)) hproduct
    have hpositive : (0 : ℚ) < 2 ^ (-149 : ℤ) := BinaryFormat.two_zpow_pos _
    linarith
  · intro hzero
    have hproduct : binary64.round (sourceCount : ℚ) * rate.sampleRate = 0 := by
      rcases hzero with rfl | hrate
      · rw [Nat.cast_zero, BinaryFormat.round_zero, zero_mul]
      · rw [hrate, mul_zero]
    rw [hproduct, BinaryFormat.round_zero]

/-! ## The three outcomes -/

theorem round_natCast_pos {n : ℕ} (h : 0 < n) : 0 < binary32.round (n : ℚ) := by
  refine lt_of_lt_of_le zero_lt_one (BinaryFormat.le_round (Nat.cast_nonneg n) ?_ ?_)
  · exact BinaryFormat.representable_two_zpow (k := 0) (by decide)
  · exact_mod_cast h

/-- All rows match. -/
theorem consistencyPercentage_matched {r : ValidationResult} (h : r.rowsMatched = r.rowsChecked) :
    consistencyPercentage r = 100 := by
  have hone : binary32.round (1 : ℚ) = 1 :=
    BinaryFormat.round_eq_self (BinaryFormat.representable_two_zpow (k := 0) (by decide))
  have hhundred : binary32.round (100 : ℚ) = 100 :=
    BinaryFormat.round_eq_self (BinaryFormat.representable_natCast (n := 100) (by decide) (by decide))
  unfold consistencyPercentage
  split
  next hpos => rw [h, div_self (round_natCast_pos hpos).ne', hone, one_mul, hhundred]
  · rfl

/-- No row matches: the percentage shows it, unless there was no row to check. -/
theorem consistencyPercentage_unmatched {r : ValidationResult} (h : r.rowsMatched = 0) :
    consistencyPercentage r = 100 ↔ r.rowsChecked = 0 := by
  unfold consistencyPercentage
  rw [h, Nat.cast_zero, BinaryFormat.round_zero, zero_div, BinaryFormat.round_zero, zero_mul,
    BinaryFormat.round_zero]
  split
  next hpos => simp [hpos.ne']
  next hzero => simp [Nat.eq_zero_of_not_pos hzero]

theorem missingRows_eq_nil {missing : ℕ} : missingRows table now missing = [] ↔ missing = 0 := by
  rw [missingRows, List.map_eq_nil_iff, List.range_eq_nil]
  omega

theorem validateTable_self (table : String) (sample now : ℕ → ℕ) (n : ℕ) :
    validateTable table sample now (.ok n) (.ok n) =
      .ok { table, rowsChecked := sample n, rowsMatched := sample n } := by
  show (if n = n then _ else _) = _
  rw [if_pos rfl]
  rfl

theorem validateTable_missing (table : String) (sample now : ℕ → ℕ) {n k : ℕ} (h : k < n) :
    validateTable table sample now (.ok n) (.ok k) =
      .ok { table, rowsChecked := sample n, discrepancies := missingRows table now (n - k) } := by
  show (if n = k then _ else if n > k then _ else _) = _
  rw [if_neg h.ne', if_pos h]
  rfl

theorem validateTable_surplus (table : String) (sample now : ℕ → ℕ) {n k : ℕ} (h : n < k) :
    validateTable table sample now (.ok n) (.ok k) = .ok { table, rowsChecked := sample n } := by
  show (if n = k then _ else if n > k then _ else _) = _
  rw [if_neg h.ne, if_neg (Nat.lt_asymm h)]
  rfl

/-! ## The result -/

/-- Consistency 100, and no discrepancy. -/
def Clean (r : SampledResult) : Prop := r.consistencyPercentage = 100 ∧ r.discrepancies = []

/-- The validation of these counts is clean for equal ones, and only for these. -/
def CleanIffEqual (rate : SampleRate) (table : String) (now : ℕ → ℕ) (source target : UInt64) :
    Prop :=
  ∃ r, validateTableAt rate table now (.ok source) (.ok target) = .ok (some r) ∧
    r.rowsMatched ≤ r.rowsChecked ∧ (Clean r ↔ source = target)

/-- Two reads that succeed are compared, if there is a number of rows to check. -/
theorem validateTableAt_ok (rate : SampleRate) (table : String) (now : ℕ → ℕ)
    (source target : UInt64) :
    validateTableAt rate table now (.ok source) (.ok target) =
      (rowsToCheck rate source.toNat).elim (.ok none) fun rows =>
        (validateTable table (fun _ => rows) now (.ok source.toNat) (.ok target.toNat)).map
          fun r => some { r with consistencyPercentage := consistencyPercentage r } := by
  unfold validateTableAt
  dsimp only [bind, Except.bind]
  cases rowsToCheck rate source.toNat with
  | none => rfl
  | some rows => rfl

/-- Without a number of rows to check nothing is promised. -/
theorem not_cleanIffEqual_of_none (h : rowsToCheck rate source.toNat = none) :
    ¬ CleanIffEqual rate table now source target := by
  unfold CleanIffEqual
  rw [validateTableAt_ok, h, Option.elim_none]
  intro hclean
  obtain ⟨r, hr, _⟩ := hclean
  cases hr

/-- What `validate_table` makes of the comparison. -/
theorem cleanIffEqual_of_validateTable {rows : ℕ} {r : ValidationResult}
    (hrows : rowsToCheck rate source.toNat = some rows)
    (hr : validateTable table (fun _ => rows) now (.ok source.toNat) (.ok target.toNat) = .ok r) :
    CleanIffEqual rate table now source target ↔ r.rowsMatched ≤ r.rowsChecked ∧
      (consistencyPercentage r = 100 ∧ r.discrepancies = [] ↔ source = target) := by
  unfold CleanIffEqual
  rw [validateTableAt_ok, hrows, Option.elim_some, hr]
  simp only [Except.map, Except.ok.injEq, Option.some.injEq, exists_eq_left']
  rfl

/-- For equal counts: no more rows match than are checked, and all is clean. -/
theorem cleanIffEqual_self {rows : ℕ} (hrows : rowsToCheck rate source.toNat = some rows) :
    CleanIffEqual rate table now source source := by
  rw [cleanIffEqual_of_validateTable hrows (validateTable_self table _ now _)]
  refine ⟨le_refl _, ?_⟩
  exact iff_of_true ⟨consistencyPercentage_matched rfl, rfl⟩ rfl

/-- For rows that are missing in the target, at least one discrepancy says so. -/
theorem cleanIffEqual_missing {rows : ℕ} (hrows : rowsToCheck rate source.toNat = some rows)
    (hgt : target < source) : CleanIffEqual rate table now source target := by
  have hlt : target.toNat < source.toNat := UInt64.lt_iff_toNat_lt.mp hgt
  have hne : source ≠ target := by
    rintro rfl
    exact Nat.lt_irrefl _ hlt
  rw [cleanIffEqual_of_validateTable hrows (validateTable_missing table _ now hlt)]
  refine ⟨Nat.zero_le _, iff_of_false (fun hclean => ?_) hne⟩
  have hnil := missingRows_eq_nil.mp hclean.2
  omega

/-- For more rows in the target there is no discrepancy, and only the percentage can tell. -/
theorem cleanIffEqual_surplus_iff {rows : ℕ} (hrows : rowsToCheck rate source.toNat = some rows)
    (hlt : source < target) :
    CleanIffEqual rate table now source target ↔ source ≠ 0 ∧ 2 ^ (-150 : ℤ) < rate.value := by
  have hlt' : source.toNat < target.toNat := UInt64.lt_iff_toNat_lt.mp hlt
  have hne : source ≠ target := by
    rintro rfl
    exact Nat.lt_irrefl _ hlt'
  have hzero : source.toNat = 0 ↔ source = 0 := by
    rw [← UInt64.toNat_inj]
    rfl
  rw [cleanIffEqual_of_validateTable hrows (validateTable_surplus table _ now hlt')]
  simp only [consistencyPercentage_unmatched, hne, Nat.zero_le, true_and, and_true, iff_false]
  show rows ≠ 0 ↔ _
  rw [Ne, rowsToCheck_eq_zero_iff hrows, not_or, hzero, not_le]

/-- For every rate and every two counts: no more rows match than are checked, and the
validation is clean exactly for equal counts, unless the number of rows to check is out of
range, or the target has more rows than the source and the sample of the source is empty. -/
theorem clean_iff_equal_iff (rate : SampleRate) (table : String) (now : ℕ → ℕ)
    (source target : UInt64) :
    CleanIffEqual rate table now source target ↔
      (source.toNat < 2 ^ 64 - 1024 ∨ rate.value < 1 - 2 ^ (-25 : ℤ)) ∧
        (target ≤ source ∨ (source ≠ 0 ∧ 2 ^ (-150 : ℤ) < rate.value)) := by
  rw [← rowsToCheck_isSome_iff source.toNat_lt]
  cases hrows : rowsToCheck rate source.toNat with
  | none => simp [not_cleanIffEqual_of_none hrows]
  | some rows =>
    rw [Option.isSome_some, and_iff_right rfl]
    rcases Nat.lt_trichotomy source.toNat target.toNat with hlt | heq | hgt
    · rw [← UInt64.lt_iff_toNat_lt] at hlt
      have hle : ¬ target ≤ source := UInt64.not_le.mpr hlt
      rw [cleanIffEqual_surplus_iff hrows hlt, or_iff_right hle]
    · obtain rfl := UInt64.toNat_inj.mp heq
      exact iff_of_true (cleanIffEqual_self hrows) (Or.inl (UInt64.le_refl source))
    · rw [← UInt64.lt_iff_toNat_lt] at hgt
      exact iff_of_true (cleanIffEqual_missing hrows hgt) (Or.inl (UInt64.le_of_lt hgt))

/-- Every row is checked. -/
def everyRow : SampleRate where
  value := 1
  nonneg := by decide
  le_one := by decide

/-- An empty source and a target with one row: clean, although all rows were to be checked. -/
theorem clean_with_surplus_row :
    ¬ ∀ (rate : SampleRate) (table : String) (now : ℕ → ℕ) (source target : UInt64),
      CleanIffEqual rate table now source target := by
  intro hall
  have hsome := (@rowsToCheck_isSome_iff everyRow (0 : UInt64).toNat (by decide)).mpr
    (Or.inl (by decide))
  obtain ⟨rows, hrows⟩ := Option.isSome_iff_exists.mp hsome
  have hsource := (cleanIffEqual_surplus_iff hrows (by decide)).mp
    (hall everyRow "app.files" id 0 1)
  exact hsource.1 rfl

end Validator

end DualReader
end ScyllaClusterSync
