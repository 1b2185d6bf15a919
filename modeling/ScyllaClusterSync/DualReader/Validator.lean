import ScyllaClusterSync.DualReader.Discrepancy
import ScyllaClusterSync.Lib.Rounding

/-!
# `services/dual-reader/src/validator.cpp`

The row counts are what the two reads find; the source has placeholders for them. The
comparison is given for any sample of the source's count (`validateTable`), and then with the
sample and the percentage of a `sample_rate`, in the arithmetic of `float` and `double`
(`validateTableAt`).
-/

namespace ScyllaClusterSync
namespace DualReader

open Lib

/-- `ValidationResult` of `svckit/types.hpp`, without its time and its percentage. -/
structure ValidationResult where
  table : String
  rowsChecked : ℕ := 0
  rowsMatched : ℕ := 0
  discrepancies : List Discrepancy := []
  sourceOnly : Bool := false
deriving DecidableEq, Repr

namespace Validator

/-- The `i`-th discrepancy for a missing row; `now` reads the clock. -/
def missingRow (table : String) (now : ℕ → ℕ) (i : ℕ) : Discrepancy where
  id := "disc-" ++ toString i
  table := table
  type := .missingInTarget
  detectedAt := now i

/-- The discrepancies generated for missing rows, capped at 10. -/
def missingRows (table : String) (now : ℕ → ℕ) (missing : ℕ) : List Discrepancy :=
  (List.range (min missing 10)).map (missingRow table now)

/-- `Validator::validate_table`. A read that throws ends it. -/
def validateTable (table : String) (sample : ℕ → ℕ) (now : ℕ → ℕ)
    (source target : Except String ℕ) : Except String ValidationResult := do
  let sourceCount ← source
  let targetCount ← target
  let rowsToCheck := sample sourceCount
  if sourceCount = targetCount then
    return { table, rowsChecked := rowsToCheck, rowsMatched := rowsToCheck }
  else if sourceCount > targetCount then
    return { table, rowsChecked := rowsToCheck
             discrepancies := missingRows table now (sourceCount - targetCount) }
  else
    return { table, rowsChecked := rowsToCheck }

end Validator

/-! ## A sampling rate -/

/-- The rate that is asked for. -/
structure SampleRate where
  value : ℚ
  nonneg : 0 ≤ value
  le_one : value ≤ 1

/-- `sample_rate`, the `float` that stands for it. -/
def SampleRate.sampleRate (rate : SampleRate) : ℚ := binary32.round rate.value

/-- `ValidationResult` with its percentage. -/
structure SampledResult extends ValidationResult where
  consistencyPercentage : ℚ

namespace Validator

/-- `static_cast<uint64_t>(std::ceil(static_cast<double>(source_count) * sample_rate))`. The
cast of a number that is out of range is undefined behaviour, `none`. -/
def rowsToCheck (rate : SampleRate) (sourceCount : ℕ) : Option ℕ :=
  let rows := ⌈binary64.round (binary64.round sourceCount * rate.sampleRate)⌉₊
  if rows < 2 ^ 64 then some rows else none

/-- The consistency percentage, in `float`. -/
def consistencyPercentage (r : ValidationResult) : ℚ :=
  if 0 < r.rowsChecked then
    binary32.round (binary32.round (binary32.round r.rowsMatched / binary32.round r.rowsChecked) *
      100)
  else 100

/-- `Validator::validate_table` at a sampling rate, for the counts the two reads find; `none`
when its behaviour is undefined. -/
def validateTableAt (rate : SampleRate) (table : String) (now : ℕ → ℕ)
    (source target : Except String UInt64) : Except String (Option SampledResult) := do
  let sourceCount ← source
  let targetCount ← target
  match rowsToCheck rate sourceCount.toNat with
  | none => return none
  | some rows =>
    let r ← validateTable table (fun _ => rows) now (.ok sourceCount.toNat) (.ok targetCount.toNat)
    return some { r with consistencyPercentage := consistencyPercentage r }

/-! ## The ids of one validation -/

/-- The ids of one validation are the first few of ten. -/
theorem map_id_missingRows (table : String) (now : ℕ → ℕ) (missing : ℕ) :
    (missingRows table now missing).map Discrepancy.id =
      (List.range (min missing 10)).map fun i => "disc-" ++ toString i := by
  rw [missingRows, List.map_map]
  rfl

/-- No id comes twice in one validation. -/
theorem nodup_ids_missingRows (table : String) (now : ℕ → ℕ) (missing : ℕ) :
    ((missingRows table now missing).map Discrepancy.id).Nodup := by
  rw [map_id_missingRows]
  have hten : ((List.range 10).map fun i => "disc-" ++ toString i).Nodup := by decide
  exact hten.sublist ((List.range_sublist.mpr (Nat.min_le_right missing 10)).map _)

theorem nodup_ids_validateTable {table : String} {sample now : ℕ → ℕ} {source target : Except String ℕ}
    {r : ValidationResult} (h : validateTable table sample now source target = .ok r) :
    (r.discrepancies.map Discrepancy.id).Nodup := by
  cases source with
  | error e => cases h
  | ok sourceCount =>
    cases target with
    | error e => cases h
    | ok targetCount =>
      change (if sourceCount = targetCount then _ else if sourceCount > targetCount then _ else _)
        = _ at h
      split_ifs at h
      · cases h
        exact List.nodup_nil
      · cases h
        exact nodup_ids_missingRows table now _
      · cases h
        exact List.nodup_nil

end Validator

end DualReader
end ScyllaClusterSync
