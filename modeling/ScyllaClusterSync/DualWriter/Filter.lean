import ScyllaClusterSync.Svckit.FilterGovernor

/-!
# `services/dual-writer/src/filter.cpp`: `BlacklistFilterGovernor`

The governor carries its own invariant: the sets it answers from are the ones its
`config_` lists. The constructor establishes it, `reload_config` re-establishes it
inside one exclusive lock, and the checks only touch counters, so no reader ever sees
other sets.
-/

namespace ScyllaClusterSync
namespace DualWriter

open Svckit

/-- `FilterStats` of the dual-writer. -/
structure FilterStats where
  tablesSkipped : ℕ := 0
  tenantsSkipped : ℕ := 0
  rowsAllowed : ℕ := 0
deriving DecidableEq, Repr

structure BlacklistFilterGovernor extends LoadedBlacklists where
  stats : FilterStats
deriving DecidableEq

namespace BlacklistFilterGovernor

/-- The constructor. -/
def ofConfig (config : FilterConfig) : BlacklistFilterGovernor where
  toLoadedBlacklists := .ofConfig config
  stats := {}

/-- `should_skip_table`: the decision, and the governor with its counter bumped. -/
def shouldSkipTable (g : BlacklistFilterGovernor) (table : String) :
    FilterDecision × BlacklistFilterGovernor :=
  if g.lists.skipsTable table then
    (.skipTable, { g with stats.tablesSkipped := g.stats.tablesSkipped + 1 })
  else
    (.allow, g)

/-- `check_tenant_id`: the decision, and the governor with its counter bumped. -/
def checkTenantId (g : BlacklistFilterGovernor) (tenantId : String) :
    FilterDecision × BlacklistFilterGovernor :=
  if g.lists.skipsTenant tenantId then
    (.skipTenant, { g with stats.tenantsSkipped := g.stats.tenantsSkipped + 1 })
  else
    (.allow, { g with stats.rowsAllowed := g.stats.rowsAllowed + 1 })

/-- `is_enabled`. -/
def isEnabled (g : BlacklistFilterGovernor) : Bool := g.lists.enabled

/-- `reload_config`. -/
def reloadConfig (g : BlacklistFilterGovernor) : BlacklistFilterGovernor where
  toLoadedBlacklists := g.toLoadedBlacklists.reload
  stats := g.stats

/-! ## The configuration never changes, and decides alone -/

@[simp] theorem config_shouldSkipTable (g : BlacklistFilterGovernor) (table : String) :
    (g.shouldSkipTable table).2.config = g.config := by
  unfold shouldSkipTable
  split <;> rfl

@[simp] theorem config_checkTenantId (g : BlacklistFilterGovernor) (tenantId : String) :
    (g.checkTenantId tenantId).2.config = g.config := by
  unfold checkTenantId
  split <;> rfl

@[simp] theorem config_reloadConfig (g : BlacklistFilterGovernor) :
    g.reloadConfig.config = g.config := rfl

theorem shouldSkipTable_fst (g : BlacklistFilterGovernor) (table : String) :
    (g.shouldSkipTable table).1 =
      if (Blacklists.load g.config).skipsTable table then .skipTable else .allow := by
  rw [← g.loaded]
  unfold shouldSkipTable
  split <;> rfl

theorem checkTenantId_fst (g : BlacklistFilterGovernor) (tenantId : String) :
    (g.checkTenantId tenantId).1 =
      if (Blacklists.load g.config).skipsTenant tenantId then .skipTenant else .allow := by
  rw [← g.loaded]
  unfold checkTenantId
  split <;> rfl

theorem shouldSkipTable_eq_skipTable {g : BlacklistFilterGovernor} {table : String} :
    (g.shouldSkipTable table).1 = .skipTable ↔ (Blacklists.load g.config).skipsTable table := by
  rw [shouldSkipTable_fst]
  split <;> simp_all

theorem isEnabled_eq (g : BlacklistFilterGovernor) :
    g.isEnabled = (Blacklists.load g.config).enabled := by
  rw [← g.loaded]
  rfl

end BlacklistFilterGovernor

end DualWriter
end ScyllaClusterSync
