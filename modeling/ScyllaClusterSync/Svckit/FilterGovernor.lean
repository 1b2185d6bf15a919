import Mathlib

/-!
# `svckit/filter_governor.hpp` and the blacklist rule of its two implementations

`BlacklistFilterGovernor` (dual-writer) and `SSTableBlacklistGovernor` (sstable-loader)
implement `FilterGovernorBase` with the same sets and the same rule; they differ in the
counters they keep. What they share is here: the sets built from a `FilterConfig`, the
exact-or-wildcard rule for tables, and the tenant lookup.

A `std::string` is a `String` with one character for each byte.
-/

namespace ScyllaClusterSync
namespace Svckit

/-- Outcome of `ScyllaConnection::execute`: it returns, or throws a `SyncError`. -/
inductive Outcome where
  | ok
  | syncError (what : String)
deriving DecidableEq, Repr

/-- `FilterDecision`: outcome of a filter check. -/
inductive FilterDecision where
  | allow
  | skipTable
  | skipTenant
  | sourceOnly
deriving DecidableEq, Repr

/-- `FilterConfig`: the three lists of `filter-rules.yaml`. -/
structure FilterConfig where
  tenantBlacklist : List String := []
  tableBlacklist : List String := []
  tenantIdColumns : List String := []
deriving DecidableEq, Repr

/-! ## `std::unordered_set<std::string>` -/

/-- A set of strings, with the order its elements happen to be visited in. -/
abbrev StringSet := List String

/-- `clear` followed by `insert` of every element of a vector. -/
def StringSet.ofList (l : List String) : StringSet :=
  l.foldl (fun s x => s.insert x) []

theorem StringSet.mem_ofList {l : List String} {x : String} :
    x ∈ StringSet.ofList l ↔ x ∈ l := by
  suffices h : ∀ s : StringSet, x ∈ l.foldl (fun s x => s.insert x) s ↔ x ∈ s ∨ x ∈ l by
    simpa [StringSet.ofList] using h []
  induction l with
  | nil => simp
  | cons y l ih =>
    intro s
    rw [List.foldl_cons, ih, List.mem_insert_iff, List.mem_cons]
    tauto

/-! ## The table rule -/

/-- `pattern.substr(2)` of a pattern that starts with `*.`. -/
def wildcardSuffix (pattern : String) : Option (List Char) :=
  match pattern.toList with
  | '*' :: '.' :: suffix => some suffix
  | _ => none

/-- `table.rfind('.')`, `none` for `npos`. -/
def rfindDot (table : List Char) : Option ℕ :=
  (table.reverse.findIdx? (· == '.')).map fun i => table.length - 1 - i

/-- `table.substr(dot_pos + 1)` for the last dot of the name. -/
def tableSuffix (table : String) : Option (List Char) :=
  (rfindDot table.toList).map fun dotPos => table.toList.drop (dotPos + 1)

/-- One round of the wildcard loop: `*.suffix` matches `any_keyspace.suffix`. -/
def wildcardMatches (table pattern : String) : Bool :=
  match wildcardSuffix pattern, tableSuffix table with
  | some suffix, some tail => tail == suffix
  | _, _ => false

/-! ## The sets under the governor's mutex -/

/-- What both governors hold under their `shared_mutex`. -/
structure Blacklists where
  tables : StringSet
  tenants : StringSet
  tenantIdColumns : List String
deriving DecidableEq

namespace Blacklists

/-- The constructor's loops, which `reload_config` runs again after `clear`. -/
def load (config : FilterConfig) : Blacklists where
  tables := StringSet.ofList config.tableBlacklist
  tenants := StringSet.ofList config.tenantBlacklist
  tenantIdColumns := config.tenantIdColumns

/-- The rule of `should_skip_table`: exact match, then the wildcard loop. -/
def skipsTable (b : Blacklists) (table : String) : Bool :=
  b.tables.contains table || b.tables.any (wildcardMatches table)

/-- The rule of `check_tenant_id`. -/
def skipsTenant (b : Blacklists) (tenantId : String) : Bool :=
  b.tenants.contains tenantId

/-- The rule of `is_enabled`: any blacklist rule is configured. -/
def enabled (b : Blacklists) : Bool :=
  !b.tenants.isEmpty || !b.tables.isEmpty

/-- A governor that skips some table is enabled. -/
theorem enabled_of_skipsTable {b : Blacklists} {table : String} (h : b.skipsTable table) :
    b.enabled := by
  have hne : b.tables ≠ [] := by
    intro hnil
    simp [skipsTable, hnil] at h
  simp [enabled, hne]

/-- A governor that skips some tenant is enabled. -/
theorem enabled_of_skipsTenant {b : Blacklists} {tenantId : String}
    (h : b.skipsTenant tenantId) : b.enabled := by
  have hne : b.tenants ≠ [] := by
    intro hnil
    simp [skipsTenant, hnil] at h
  simp [enabled, hne]

end Blacklists

/-- The sets a governor answers from, with the `config_` they were loaded from. -/
structure LoadedBlacklists where
  config : FilterConfig
  lists : Blacklists
  loaded : lists = Blacklists.load config
deriving DecidableEq

namespace LoadedBlacklists

def ofConfig (config : FilterConfig) : LoadedBlacklists where
  config := config
  lists := Blacklists.load config
  loaded := rfl

/-- The sets again from `config_`, not from the rules file. -/
def reload (g : LoadedBlacklists) : LoadedBlacklists := ofConfig g.config

end LoadedBlacklists

end Svckit
end ScyllaClusterSync
