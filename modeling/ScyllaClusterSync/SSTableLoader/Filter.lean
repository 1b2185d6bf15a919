import ScyllaClusterSync.Svckit.FilterGovernor

/-!
# `services/sstable-loader/src/filter.cpp`: `SSTableBlacklistGovernor`

The loader's governor answers from the sets its `config_` lists, as the dual-writer's
does; it counts skipped and allowed rows where the other one counts tenants.
-/

namespace ScyllaClusterSync
namespace SSTableLoader

open Svckit

/-- `FilterStats` of the sstable-loader. -/
structure FilterStats where
  tablesSkipped : ℕ := 0
  rowsSkipped : ℕ := 0
  rowsAllowed : ℕ := 0
deriving DecidableEq, Repr

structure SSTableBlacklistGovernor extends LoadedBlacklists where
  stats : FilterStats
deriving DecidableEq

namespace SSTableBlacklistGovernor

/-- The constructor. -/
def ofConfig (config : FilterConfig) : SSTableBlacklistGovernor where
  toLoadedBlacklists := .ofConfig config
  stats := {}

/-- `should_skip_table`: the decision, and the governor with its counter bumped. -/
def shouldSkipTable (g : SSTableBlacklistGovernor) (table : String) :
    FilterDecision × SSTableBlacklistGovernor :=
  if g.lists.skipsTable table then
    (.skipTable, { g with stats.tablesSkipped := g.stats.tablesSkipped + 1 })
  else
    (.allow, g)

/-- `check_tenant_id`: the decision, and the governor with its counter bumped. -/
def checkTenantId (g : SSTableBlacklistGovernor) (tenantId : String) :
    FilterDecision × SSTableBlacklistGovernor :=
  if g.lists.skipsTenant tenantId then
    (.skipTenant, { g with stats.rowsSkipped := g.stats.rowsSkipped + 1 })
  else
    (.allow, { g with stats.rowsAllowed := g.stats.rowsAllowed + 1 })

/-- `is_enabled`. -/
def isEnabled (g : SSTableBlacklistGovernor) : Bool := g.lists.enabled

/-- `reload_config`. -/
def reloadConfig (g : SSTableBlacklistGovernor) : SSTableBlacklistGovernor where
  toLoadedBlacklists := g.toLoadedBlacklists.reload
  stats := g.stats

/-! ## The configuration never changes, and decides alone -/

@[simp] theorem config_shouldSkipTable (g : SSTableBlacklistGovernor) (table : String) :
    (g.shouldSkipTable table).2.config = g.config := by
  unfold shouldSkipTable
  split <;> rfl

@[simp] theorem config_checkTenantId (g : SSTableBlacklistGovernor) (tenantId : String) :
    (g.checkTenantId tenantId).2.config = g.config := by
  unfold checkTenantId
  split <;> rfl

@[simp] theorem config_reloadConfig (g : SSTableBlacklistGovernor) :
    g.reloadConfig.config = g.config := rfl

theorem shouldSkipTable_fst (g : SSTableBlacklistGovernor) (table : String) :
    (g.shouldSkipTable table).1 =
      if (Blacklists.load g.config).skipsTable table then .skipTable else .allow := by
  rw [← g.loaded]
  unfold shouldSkipTable
  split <;> rfl

theorem checkTenantId_fst (g : SSTableBlacklistGovernor) (tenantId : String) :
    (g.checkTenantId tenantId).1 =
      if (Blacklists.load g.config).skipsTenant tenantId then .skipTenant else .allow := by
  rw [← g.loaded]
  unfold checkTenantId
  split <;> rfl

theorem shouldSkipTable_eq_skipTable {g : SSTableBlacklistGovernor} {table : String} :
    (g.shouldSkipTable table).1 = .skipTable ↔ (Blacklists.load g.config).skipsTable table := by
  rw [shouldSkipTable_fst]
  split <;> simp_all

theorem isEnabled_eq (g : SSTableBlacklistGovernor) :
    g.isEnabled = (Blacklists.load g.config).enabled := by
  rw [← g.loaded]
  rfl

end SSTableBlacklistGovernor

end SSTableLoader
end ScyllaClusterSync
