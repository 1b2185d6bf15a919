import Mathlib

/-!
# Hexadecimal numbers padded with zeros

`hexPadded width n` is `n` in lower case hexadecimal digits, with zeros in front up to
`width` digits. `hexValue` reads such digits back, whatever the padding
(`hexValue_hexPadded`), so that no two numbers are written alike.
-/

namespace ScyllaClusterSync
namespace Lib

/-- The digits of `n` to the base 16, padded with zeros. -/
def hexPadded (width n : ℕ) : List Char := (Nat.toDigits 16 n).leftpad width '0'

/-- The value of one lower case hexadecimal digit. -/
def hexDigitValue (c : Char) : ℕ :=
  if c.isDigit then c.toNat - '0'.toNat else c.toNat - 'a'.toNat + 10

/-- The number a list of digits stands for. -/
def hexValue (digits : List Char) : ℕ :=
  digits.foldl (fun n c => 16 * n + hexDigitValue c) 0

theorem hexDigitValue_digitChar : ∀ n < 16, hexDigitValue (Nat.digitChar n) = n := by decide

theorem hexValue_concat (digits : List Char) (c : Char) :
    hexValue (digits ++ [c]) = 16 * hexValue digits + hexDigitValue c := by
  simp [hexValue]

/-- Leading zeros do not count. -/
theorem hexValue_leftpad (width : ℕ) (digits : List Char) :
    hexValue (digits.leftpad width '0') = hexValue digits := by
  have hzeros : ∀ k, hexValue (List.replicate k '0') = 0 := by
    intro k
    induction k with
    | zero => rfl
    | succ k ih =>
      rw [List.replicate_succ', hexValue_concat, ih]
      decide
  rw [List.leftpad, hexValue, List.foldl_append]
  show List.foldl _ (hexValue (List.replicate _ '0')) digits = _
  rw [hzeros]
  rfl

/-- Digit by digit from the right. -/
theorem hexValue_toDigits (n : ℕ) : hexValue (Nat.toDigits 16 n) = n := by
  induction n using Nat.strong_induction_on with
  | _ n ih =>
    by_cases hn : n < 16
    · rw [Nat.toDigits_of_lt_base hn]
      show 16 * 0 + hexDigitValue n.digitChar = n
      rw [hexDigitValue_digitChar n hn]
      omega
    · have hmod : n % 16 < 16 := Nat.mod_lt n (by norm_num)
      rw [Nat.toDigits_of_base_le (by norm_num) (by omega), hexValue_concat,
        ih (n / 16) (by omega), hexDigitValue_digitChar _ hmod]
      omega

/-- What is written is read back. -/
theorem hexValue_hexPadded (width n : ℕ) : hexValue (hexPadded width n) = n := by
  rw [hexPadded, hexValue_leftpad, hexValue_toDigits]

theorem hexPadded_inj {width n n' : ℕ} (h : hexPadded width n = hexPadded width n') : n = n' := by
  rw [← hexValue_hexPadded width n, h, hexValue_hexPadded]

/-- A number that fits takes exactly the digits asked for. -/
theorem length_hexPadded {width n : ℕ} (hwidth : 0 < width) (hn : n < 16 ^ width) :
    (hexPadded width n).length = width := by
  have hlen := (Nat.length_toDigits_le_iff (by norm_num) hwidth).mpr hn
  rw [hexPadded, List.leftpad, List.length_append, List.length_replicate]
  omega

end Lib
end ScyllaClusterSync
