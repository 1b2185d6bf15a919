import ScyllaClusterSync.Svckit.FilterGovernor

/-!
# `services/dual-reader/src/filter.cpp`: `DualReaderFilterGovernor`

The dual-reader's governor is a whitelist. A table is read from both clusters when it is
listed and the domain of the query, where there is one, is listed too; an empty list lists
everything. The sets are loaded from `config_` as in the other two governors.
-/

namespace ScyllaClusterSync
namespace DualReader

open Svckit

inductive ReadDecision where
  | dualRead
  | sourceOnly
deriving DecidableEq, Repr

/-- `DualReaderFilterConfig`, the fields the governor reads. -/
structure DualReaderFilterConfig where
  enabled : Bool := false
  compareTables : List String := []
  compareSystemDomainIds : List String := []
deriving DecidableEq, Repr

/-- `FilterStats` of the dual-reader. -/
structure FilterStats where
  dualReads : ℕ := 0
  sourceOnlyReads : ℕ := 0
  tablesFiltered : ℕ := 0
  domainsFiltered : ℕ := 0
deriving DecidableEq, Repr

/-! ## The sets under the governor's mutex -/

structure Whitelists where
  tables : StringSet
  domains : StringSet
deriving DecidableEq

namespace Whitelists

/-- The constructor's loops, which `reload_config` runs again after `clear`. -/
def load (config : DualReaderFilterConfig) : Whitelists where
  tables := StringSet.ofList config.compareTables
  domains := StringSet.ofList config.compareSystemDomainIds

/-- The table is missing in a list that is not empty. -/
def rejectsTable (w : Whitelists) (table : String) : Bool :=
  !w.tables.isEmpty && !w.tables.contains table

/-- The domain is missing in a list that is not empty. -/
def rejectsDomain (w : Whitelists) (domainId : String) : Bool :=
  !w.domains.isEmpty && !w.domains.contains domainId

/-- The domain check of `decide`, which an empty domain skips. -/
def rejectsReadOf (w : Whitelists) (domainId : String) : Bool :=
  domainId ≠ "" && w.rejectsDomain domainId

end Whitelists

/-- The AND gate of a configuration. -/
def readsBoth (config : DualReaderFilterConfig) (table domainId : String) : Bool :=
  !config.enabled || (!(Whitelists.load config).rejectsTable table &&
    !(Whitelists.load config).rejectsReadOf domainId)

/-! ## The governor -/

structure DualReaderFilterGovernor where
  config : DualReaderFilterConfig
  lists : Whitelists
  loaded : lists = Whitelists.load config
  stats : FilterStats
deriving DecidableEq

namespace DualReaderFilterGovernor

/-- The constructor. -/
def ofConfig (config : DualReaderFilterConfig) : DualReaderFilterGovernor where
  config := config
  lists := Whitelists.load config
  loaded := rfl
  stats := {}

/-- `decide`: the decision, and the governor with its counters bumped. `domainId` is empty
when there is none. -/
def decide (g : DualReaderFilterGovernor) (table domainId : String) :
    ReadDecision × DualReaderFilterGovernor :=
  if g.config.enabled then
    if g.lists.rejectsTable table then
      (.sourceOnly, { g with
        stats.tablesFiltered := g.stats.tablesFiltered + 1
        stats.sourceOnlyReads := g.stats.sourceOnlyReads + 1 })
    else if g.lists.rejectsReadOf domainId then
      (.sourceOnly, { g with
        stats.domainsFiltered := g.stats.domainsFiltered + 1
        stats.sourceOnlyReads := g.stats.sourceOnlyReads + 1 })
    else (.dualRead, { g with stats.dualReads := g.stats.dualReads + 1 })
  else (.dualRead, { g with stats.dualReads := g.stats.dualReads + 1 })

/-- `should_skip_table`. -/
def shouldSkipTable (g : DualReaderFilterGovernor) (table : String) :
    FilterDecision × DualReaderFilterGovernor :=
  match g.decide table "" with
  | (.sourceOnly, g) => (.sourceOnly, g)
  | (.dualRead, g) => (.allow, g)

/-- `check_tenant_id`: the domain list alone, and one counter. -/
def checkTenantId (g : DualReaderFilterGovernor) (domainId : String) :
    FilterDecision × DualReaderFilterGovernor :=
  if g.config.enabled && g.lists.rejectsDomain domainId then
    (.sourceOnly, { g with stats.domainsFiltered := g.stats.domainsFiltered + 1 })
  else (.allow, g)

/-- `is_enabled`. -/
def isEnabled (g : DualReaderFilterGovernor) : Bool := g.config.enabled

/-- `reload_config`: the sets again from `config_`. -/
def reloadConfig (g : DualReaderFilterGovernor) : DualReaderFilterGovernor where
  config := g.config
  lists := Whitelists.load g.config
  loaded := rfl
  stats := g.stats

/-! ## The configuration never changes, and decides alone -/

@[simp] theorem config_decide (g : DualReaderFilterGovernor) (table domainId : String) :
    (g.decide table domainId).2.config = g.config := by
  unfold decide
  split_ifs <;> rfl

@[simp] theorem config_shouldSkipTable (g : DualReaderFilterGovernor) (table : String) :
    (g.shouldSkipTable table).2.config = g.config := by
  unfold shouldSkipTable
  rw [← config_decide g table ""]
  split <;> simp_all

@[simp] theorem config_checkTenantId (g : DualReaderFilterGovernor) (domainId : String) :
    (g.checkTenantId domainId).2.config = g.config := by
  unfold checkTenantId
  split <;> rfl

@[simp] theorem config_reloadConfig (g : DualReaderFilterGovernor) :
    g.reloadConfig.config = g.config := rfl

theorem decide_fst (g : DualReaderFilterGovernor) (table domainId : String) :
    (g.decide table domainId).1 =
      if readsBoth g.config table domainId then .dualRead else .sourceOnly := by
  unfold decide readsBoth
  rw [← g.loaded]
  cases g.config.enabled with
  | false => rfl
  | true =>
    cases g.lists.rejectsTable table with
    | true => rfl
    | false => cases g.lists.rejectsReadOf domainId <;> rfl

theorem shouldSkipTable_fst (g : DualReaderFilterGovernor) (table : String) :
    (g.shouldSkipTable table).1 = if readsBoth g.config table "" then .allow else .sourceOnly := by
  have hdecide := g.decide_fst table ""
  unfold shouldSkipTable
  split <;> simp_all

theorem checkTenantId_fst (g : DualReaderFilterGovernor) (domainId : String) :
    (g.checkTenantId domainId).1 =
      if g.config.enabled && (Whitelists.load g.config).rejectsDomain domainId then .sourceOnly
      else .allow := by
  rw [← g.loaded]
  unfold checkTenantId
  split <;> rfl

end DualReaderFilterGovernor

end DualReader
end ScyllaClusterSync
