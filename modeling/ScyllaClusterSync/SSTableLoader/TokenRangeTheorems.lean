import ScyllaClusterSync.Lib.EqualWidth
import ScyllaClusterSync.SSTableLoader.TokenRange

/-!
# The ranges tile the ring, and so do the queries

`rangeStart` and `rangeEnd` are the cells of `Lib.equalWidth`, so that every token lies
between the bounds of exactly one range; and the text of a range query reads back to
these bounds.
-/

namespace ScyllaClusterSync
namespace SSTableLoader

open Svckit Lib

variable {peers : Outcome} {rangesPerCore : UInt32} {total i : ℕ}

/-! ## The number of ranges -/

theorem numNodes_bounds (peers : Outcome) :
    1 ≤ (numNodes peers).toNat ∧ (numNodes peers).toNat ≤ 3 := by
  cases peers with
  | ok => decide
  | syncError what =>
    show 1 ≤ (1 : UInt64).toNat ∧ (1 : UInt64).toNat ≤ 3
    decide

theorem numNodes_mul_lt (peers : Outcome) (rangesPerCore : UInt32) :
    (numNodes peers).toNat * 8 * rangesPerCore.toNat < 2 ^ 37 := by
  have hnodes := (numNodes_bounds peers).2
  have hcore := rangesPerCore.toNat_lt
  calc (numNodes peers).toNat * 8 * rangesPerCore.toNat
      ≤ 24 * rangesPerCore.toNat := Nat.mul_le_mul_right _ (by omega)
    _ < 2 ^ 37 := by omega

/-- The `size_t` product does not wrap. -/
theorem toNat_totalRanges (peers : Outcome) (rangesPerCore : UInt32) :
    (totalRanges peers rangesPerCore).toNat = (numNodes peers).toNat * 8 * rangesPerCore.toNat := by
  have hnodes := (numNodes_bounds peers).2
  have hlt := numNodes_mul_lt peers rangesPerCore
  rw [totalRanges, UInt64.toNat_mul, UInt64.toNat_mul, UInt32.toNat_toUInt64]
  show (numNodes peers).toNat * 8 % 2 ^ 64 * rangesPerCore.toNat % 2 ^ 64 = _
  rw [Nat.mod_eq_of_lt (by omega : (numNodes peers).toNat * 8 < 2 ^ 64), Nat.mod_eq_of_lt (by omega)]

theorem totalRanges_pos (peers : Outcome) (h : 1 ≤ rangesPerCore) :
    0 < (totalRanges peers rangesPerCore).toNat := by
  have hcore : 1 ≤ rangesPerCore.toNat := UInt32.le_iff_toNat_le.mp h
  have hnodes := (numNodes_bounds peers).1
  rw [toNat_totalRanges]
  exact Nat.mul_pos (by omega) hcore

theorem totalRanges_lt (peers : Outcome) (rangesPerCore : UInt32) :
    (totalRanges peers rangesPerCore).toNat < 2 ^ 37 := by
  rw [toNat_totalRanges]
  exact numNodes_mul_lt peers rangesPerCore

/-! ## The ranges are cells of equal width -/

theorem minToken_eq : minToken = -2 ^ 63 := rfl

theorem maxToken_eq : maxToken = 2 ^ 63 - 1 := rfl

/-- The ring as the interval that is cut into ranges. -/
def tokenRing (total : ℕ) : Cuts ℤ :=
  @equalWidth minToken (maxToken + 1) (by decide) total

theorem rangeStart_eq (hi : i < total) : rangeStart total i = (tokenRing total).cut i := by
  rw [tokenRing, equalWidth_cut _ hi, rangeStart, rangeSize]
  rw [Int.tdiv_eq_ediv_of_nonneg (by decide : 0 ≤ tokenSpace)]
  rfl

theorem rangeEnd_eq (hi : i < total) : rangeEnd total i = (tokenRing total).cut (i + 1) - 1 := by
  rw [rangeEnd]
  by_cases hlast : i = total - 1
  · obtain rfl : total = i + 1 := by omega
    rw [if_pos hlast, tokenRing, equalWidth_cut_count]
    omega
  · rw [if_neg hlast, ← rangeStart_eq (by omega : i + 1 < total), rangeStart, rangeStart]
    push_cast
    ring

theorem rangeStart_le_rangeEnd (htotal : total < 2 ^ 37) (hi : i < total) :
    rangeStart total i ≤ rangeEnd total i := by
  have hcut : (tokenRing total).cut i < (tokenRing total).cut (i + 1) := by
    apply equalWidth_cut_lt _ _ hi
    rw [minToken_eq, maxToken_eq]
    omega
  rw [rangeStart_eq hi, rangeEnd_eq hi]
  omega

/-- The next range starts right after this one. -/
theorem rangeStart_succ (hi : i + 1 < total) : rangeStart total (i + 1) = rangeEnd total i + 1 := by
  rw [rangeStart_eq hi, rangeEnd_eq (by omega)]
  omega

/-- Both ends of every range are tokens. -/
theorem range_bounds (hi : i < total) :
    minToken ≤ rangeStart total i ∧ rangeEnd total i ≤ maxToken := by
  have hfirst : (tokenRing total).cut 0 = minToken := equalWidth_cut_zero _ (by omega)
  have hlast : (tokenRing total).cut total = maxToken + 1 := equalWidth_cut_count _
  have hmono := (tokenRing total).mono
  have hstart : minToken ≤ (tokenRing total).cut i := hfirst ▸ hmono (Nat.zero_le i)
  have hend : (tokenRing total).cut (i + 1) ≤ maxToken + 1 := hlast ▸ hmono hi
  rw [rangeStart_eq hi, rangeEnd_eq hi]
  omega

theorem toInt_start (htotal : total < 2 ^ 37) (hi : i < total) :
    (tokenRange total i).start.toInt = rangeStart total i := by
  have hle := rangeStart_le_rangeEnd htotal hi
  have hbounds := range_bounds hi
  rw [minToken_eq, maxToken_eq] at hbounds
  exact Int64.toInt_ofInt_of_le (by omega) (by omega)

theorem toInt_end (htotal : total < 2 ^ 37) (hi : i < total) :
    (tokenRange total i).end_.toInt = rangeEnd total i := by
  have hle := rangeStart_le_rangeEnd htotal hi
  have hbounds := range_bounds hi
  rw [minToken_eq, maxToken_eq] at hbounds
  exact Int64.toInt_ofInt_of_le (by omega) (by omega)

/-- Every token lies between the bounds of exactly one range. -/
theorem existsUnique_range (htotal : 0 < total) (t : Int64) :
    ∃! i, i < total ∧ rangeStart total i ≤ t.toInt ∧ t.toInt ≤ rangeEnd total i := by
  have ht : t.toInt ∈ Set.Ico minToken (maxToken + 1) := by
    have hlo := t.le_toInt
    have hhi := t.toInt_lt
    rw [Set.mem_Ico, minToken_eq, maxToken_eq]
    omega
  have hcell : ∀ i, (i < total ∧ t.toInt ∈ (tokenRing total).cell i) ↔
      (i < total ∧ rangeStart total i ≤ t.toInt ∧ t.toInt ≤ rangeEnd total i) := by
    intro i
    refine and_congr_right fun hi => ?_
    rw [rangeStart_eq hi, rangeEnd_eq hi, Int.le_sub_one_iff]
    exact Iff.rfl
  exact (existsUnique_congr hcell).mp (equalWidth_existsUnique _ htotal ht)

/-! ## The text of a query reads back -/

theorem expect_append (literal text : List Char) : expect literal (literal ++ text) = some text := by
  induction literal with
  | nil => rfl
  | cons c literal ih =>
    rw [List.cons_append, expect, if_pos rfl]
    exact ih

/-- Digits end where the text after them does not go on with one. -/
theorem readDigits_repr (n : ℕ) {rest : List Char} (hrest : ∀ c ∈ rest.head?, ¬ c.isDigit) :
    readDigits (n.repr.toList ++ rest) = some (n, rest) := by
  have hdigits : ∀ c ∈ Nat.toDigits 10 n, c.isDigit := fun c hc =>
    Nat.isDigit_of_mem_toDigits (by decide) (by decide) hc
  have htake : rest.takeWhile Char.isDigit = [] := by
    cases rest with
    | nil => rfl
    | cons c rest => exact List.takeWhile_cons_of_neg (hrest c rfl)
  have hdrop : rest.dropWhile Char.isDigit = rest := by
    cases rest with
    | nil => rfl
    | cons c rest => exact List.dropWhile_cons_of_neg (hrest c rfl)
  rw [readDigits, Nat.toList_repr, List.takeWhile_append_of_pos hdigits,
    List.dropWhile_append_of_pos hdigits, htake, hdrop, List.append_nil]
  rw [if_neg Nat.toDigits_ne_nil, Nat.ofDigitChars_ten_toDigits]

theorem readInteger_repr (n : ℤ) {rest : List Char} (hrest : ∀ c ∈ rest.head?, ¬ c.isDigit) :
    readInteger (n.repr.toList ++ rest) = some (n, rest) := by
  cases n with
  | ofNat n =>
    show readInteger (n.repr.toList ++ rest) = some ((n : ℤ), rest)
    have hne : ∀ text, n.repr.toList ++ rest ≠ '-' :: text := by
      intro text heq
      have hread := readDigits_repr n hrest
      rw [heq] at hread
      simp [readDigits, Char.isDigit] at hread
    rw [readInteger, readDigits_repr n hrest]
    · rfl
    · exact hne
  | negSucc n =>
    have htext : (Int.negSucc n).repr.toList ++ rest = '-' :: ((n + 1).repr.toList ++ rest) := by
      show ("-" ++ (n + 1).repr).toList ++ rest = _
      rw [String.toList_append]
      rfl
    rw [htext, readInteger, readDigits_repr (n + 1) hrest]
    rfl

theorem buildRangeQuery_eq (table : String) (partitionKeys : List String) (range : TokenRange) :
    buildRangeQuery table partitionKeys range =
      lowerLiteral table partitionKeys ++ (range.start.toInt.repr ++
        (upperLiteral partitionKeys ++ range.end_.toInt.repr)) := by
  unfold buildRangeQuery lowerLiteral upperLiteral
  generalize tokenColumns partitionKeys = columns
  generalize range.start.toInt.repr = start
  generalize range.end_.toInt.repr = end_
  simp only [String.append_assoc]

/-- The text after the lower bound goes on with a blank. -/
theorem head_upperLiteral (partitionKeys : List String) (text : List Char) :
    ∀ c ∈ ((upperLiteral partitionKeys).toList ++ text).head?, ¬ c.isDigit := by
  have hblank : " AND token(".toList = ' ' :: "AND token(".toList := by decide
  intro c hc
  simp only [upperLiteral, String.toList_append, hblank, List.cons_append, List.head?_cons,
    Option.mem_some_iff] at hc
  rw [← hc]
  decide

/-- The text of a range query is the predicate with the bounds of the range. -/
theorem readRangePredicate_buildRangeQuery (table : String) (partitionKeys : List String)
    (range : TokenRange) :
    readRangePredicate table partitionKeys (buildRangeQuery table partitionKeys range) =
      some (range.start.toInt, range.end_.toInt) := by
  have hend := @readInteger_repr range.end_.toInt [] (by simp)
  rw [List.append_nil] at hend
  rw [readRangePredicate, buildRangeQuery_eq, String.toList_append, expect_append]
  rw [String.toList_append, String.toList_append]
  simp only [Option.bind_eq_bind, Option.bind_some]
  -- the number ends where the text between the bounds begins
  rw [readInteger_repr _ (head_upperLiteral partitionKeys _)]
  simp only [Option.bind_some]
  rw [expect_append]
  simp only [Option.bind_some]
  rw [hend]
  rfl

theorem selectsToken_buildRangeQuery (table : String) (partitionKeys : List String)
    (range : TokenRange) (t : Int64) :
    selectsToken table partitionKeys (buildRangeQuery table partitionKeys range) t ↔
      range.start.toInt ≤ t.toInt ∧ t.toInt ≤ range.end_.toInt := by
  rw [selectsToken, readRangePredicate_buildRangeQuery]
  simp

/-! ## The whole list -/

theorem calculateRanges_eq (h : 1 ≤ rangesPerCore) :
    calculateRanges peers rangesPerCore =
      some ((List.range (totalRanges peers rangesPerCore).toNat).map
        (tokenRange (totalRanges peers rangesPerCore).toNat)) :=
  if_neg (totalRanges_pos peers h).ne'

/-- Without ranges per core the width of a range is a division by zero. -/
theorem calculateRanges_zero (peers : Outcome) : calculateRanges peers 0 = none := by
  have hzero : (totalRanges peers 0).toNat = 0 := by
    rw [toNat_totalRanges]
    exact Nat.mul_zero _
  unfold calculateRanges
  exact if_pos hzero

theorem one_le_of_ne_zero {n : UInt32} (hn : n ≠ 0) : 1 ≤ n := by
  rw [UInt32.le_iff_toNat_le]
  have hne : n.toNat ≠ 0 := fun hzero => hn (UInt32.toNat_inj.mp hzero)
  show 1 ≤ n.toNat
  omega

/-- With ranges per core there is a first range. -/
theorem exists_cons_ranges (peers : Outcome) (h : 1 ≤ rangesPerCore) :
    ∃ range rest, calculateRanges peers rangesPerCore = some (range :: rest) := by
  have hpos := totalRanges_pos peers h
  rw [calculateRanges_eq h]
  obtain ⟨n, hn⟩ := Nat.exists_eq_succ_of_ne_zero hpos.ne'
  rw [hn, List.range_succ_eq_map, List.map_cons]
  exact ⟨_, _, rfl⟩

theorem getElem?_ranges {r : TokenRange} :
    ((List.range total).map (tokenRange total))[i]? = some r ↔ i < total ∧ tokenRange total i = r := by
  rw [List.getElem?_map, Option.map_eq_some_iff]
  simp only [List.getElem?_eq_some_iff, List.length_range, List.getElem_range]
  constructor
  · rintro ⟨j, ⟨hi, rfl⟩, hr⟩
    exact ⟨hi, hr⟩
  · rintro ⟨hi, hr⟩
    exact ⟨i, ⟨hi, rfl⟩, hr⟩

/-- The ranges are as many as the topology asks for, no cast changes a value, each one is
followed by its neighbour, and the queries built from them select every token once. -/
theorem queries_select_each_token_once (peers : Outcome) (rangesPerCore : UInt32)
    (h : 1 ≤ rangesPerCore) (table : String) (partitionKeys : List String) :
    ∃ ranges : List TokenRange, calculateRanges peers rangesPerCore = some ranges ∧
      ranges.length = (numNodes peers).toNat * 8 * rangesPerCore.toNat ∧
      (∀ (i : ℕ) (r : TokenRange), ranges[i]? = some r →
        r.start.toInt = rangeStart ranges.length i ∧ r.end_.toInt = rangeEnd ranges.length i) ∧
      (∀ r ∈ ranges, r.start ≤ r.end_) ∧
      (∀ (i : ℕ) (r r' : TokenRange), ranges[i]? = some r → ranges[i + 1]? = some r' →
        r'.start.toInt = r.end_.toInt + 1) ∧
      ∀ t : Int64, ∃! i : ℕ, ∃ r : TokenRange, ranges[i]? = some r ∧
        selectsToken table partitionKeys (buildRangeQuery table partitionKeys r) t := by
  have htotal := totalRanges_lt peers rangesPerCore
  refine ⟨_, calculateRanges_eq h, ?_, ?_, ?_, ?_, ?_⟩
  · rw [List.length_map, List.length_range, toNat_totalRanges]
  · intro i r hr
    obtain ⟨hi, rfl⟩ := getElem?_ranges.mp hr
    rw [List.length_map, List.length_range]
    exact ⟨toInt_start htotal hi, toInt_end htotal hi⟩
  · intro r hr
    obtain ⟨i, hi, rfl⟩ := List.mem_map.mp hr
    rw [List.mem_range] at hi
    rw [Int64.le_iff_toInt_le, toInt_start htotal hi, toInt_end htotal hi]
    exact rangeStart_le_rangeEnd htotal hi
  · intro i r r' hr hr'
    obtain ⟨hi, rfl⟩ := getElem?_ranges.mp hr
    obtain ⟨hi', rfl⟩ := getElem?_ranges.mp hr'
    rw [toInt_start htotal hi', toInt_end htotal hi]
    exact rangeStart_succ hi'
  · intro t
    -- the query asks for the tokens of the range, and the ranges meet every token once
    have hunique := existsUnique_range (totalRanges_pos peers h) t
    refine (existsUnique_congr fun i => ?_).mp hunique
    simp only [getElem?_ranges, selectsToken_buildRangeQuery]
    constructor
    · rintro ⟨hi, ht⟩
      rw [← toInt_start htotal hi, ← toInt_end htotal hi] at ht
      exact ⟨_, ⟨hi, rfl⟩, ht⟩
    · rintro ⟨r, ⟨hi, rfl⟩, ht⟩
      rw [toInt_start htotal hi, toInt_end htotal hi] at ht
      exact ⟨hi, ht⟩

/-- The default configuration on a cluster that answers the `system.peers` query. -/
theorem default_queries_select_each_token_once :
    ∃ ranges : List TokenRange, calculateRanges .ok 4 = some ranges ∧
      ranges.length = (numNodes .ok).toNat * 8 * (4 : UInt32).toNat ∧
      (∀ (i : ℕ) (r : TokenRange), ranges[i]? = some r →
        r.start.toInt = rangeStart ranges.length i ∧ r.end_.toInt = rangeEnd ranges.length i) ∧
      (∀ r ∈ ranges, r.start ≤ r.end_) ∧
      (∀ (i : ℕ) (r r' : TokenRange), ranges[i]? = some r → ranges[i + 1]? = some r' →
        r'.start.toInt = r.end_.toInt + 1) ∧
      ∀ t : Int64, ∃! i : ℕ, ∃ r : TokenRange, ranges[i]? = some r ∧
        selectsToken "app.files" ["id"] (buildRangeQuery "app.files" ["id"] r) t :=
  queries_select_each_token_once .ok 4 (by decide) "app.files" ["id"]

end SSTableLoader
end ScyllaClusterSync
