import ScyllaClusterSync.DualReader.Filter
import ScyllaClusterSync.DualReader.Validator

/-!
# `services/dual-reader/src/reader.cpp`: the validations

Both ask the governor first. The validation of a table for a domain asks it about both and
then calls the validation of the table, which asks again about the table alone. A cluster is
a function from the text of a statement to what `execute` makes of it.
-/

namespace ScyllaClusterSync
namespace DualReader

open Svckit

/-- The result for a table that is read from the source alone. -/
def sourceOnlyResult (table : String) : ValidationResult := { table, sourceOnly := true }

/-- The two reads of `validate_table`, the first failure of which is thrown on. The
comparison of the rows is left to production, and the result has no discrepancies. -/
def compareTable (table : String) (source target : String → Outcome) :
    Except String ValidationResult :=
  match source ("SELECT * FROM " ++ table) with
  | .syncError e => .error e
  | .ok =>
    match target ("SELECT * FROM " ++ table) with
    | .syncError e => .error e
    | .ok => .ok { table }

/-- `validate_table`. -/
def validateTable (filter : DualReaderFilterGovernor) (table : String)
    (source target : String → Outcome) :
    Except String ValidationResult × DualReaderFilterGovernor :=
  match filter.decide table "" with
  | (.sourceOnly, filter) => (.ok (sourceOnlyResult table), filter)
  | (.dualRead, filter) => (compareTable table source target, filter)

/-- `validate_table_for_domain`. -/
def validateTableForDomain (filter : DualReaderFilterGovernor) (table domainId : String)
    (source target : String → Outcome) :
    Except String ValidationResult × DualReaderFilterGovernor :=
  match filter.decide table domainId with
  | (.sourceOnly, filter) => (.ok (sourceOnlyResult table), filter)
  | (.dualRead, filter) => validateTable filter table source target

/-! ## What the governor is left with -/

theorem filter_validateTable (filter : DualReaderFilterGovernor) (table : String)
    (source target : String → Outcome) :
    (validateTable filter table source target).2 = (filter.decide table "").2 := by
  unfold validateTable
  split <;> simp_all

theorem filter_validateTableForDomain (filter : DualReaderFilterGovernor)
    (table domainId : String) (source target : String → Outcome) :
    (validateTableForDomain filter table domainId source target).2 =
      if (filter.decide table domainId).1 = .dualRead then
        ((filter.decide table domainId).2.decide table "").2
      else (filter.decide table domainId).2 := by
  unfold validateTableForDomain
  split
  · simp_all
  · simp_all [filter_validateTable]

end DualReader
end ScyllaClusterSync
