import ScyllaClusterSync.SSTableLoader.MigrateTable

/-!
# `services/sstable-loader/src/loader.cpp`: `filter_json_row`

The JSON library is a parameter: what `json::parse` makes of a text, `none` for a
`json::exception`, and the text `dump` gives a value. A value is what the function tells
apart, and its members are a map, as in the library: no key occurs twice.
-/

namespace ScyllaClusterSync
namespace SSTableLoader

open Svckit

/-- `nlohmann::json`; a scalar is `null`, a boolean or a number. -/
inductive Json (S : Type) where
  | scalar (value : S)
  | string (text : String)
  | array (items : List (Json S))
  | object (keys : Finset String) (members : {key // key ∈ keys} → Json S)

structure JsonLibrary (S : Type) where
  parse : String → Option (Json S)
  dump : Json S → String

variable {S : Type}

/-- `parsed.contains(key)` and `parsed[key]`, `none` without such a member. -/
def Json.member : Json S → String → Option (Json S)
  | .object keys members, key => if h : key ∈ keys then some (members ⟨key, h⟩) else none
  | _, _ => none

/-- `tenant_id`: the string itself, or the dump of any other value. -/
def JsonLibrary.tenantId (lib : JsonLibrary S) : Json S → String
  | .string text => text
  | value => lib.dump value

/-- The loop over the tenant columns: whether it has found a blacklisted tenant, and the
governor with its counters bumped. -/
def checkColumns (lib : JsonLibrary S) (parsed : Json S) :
    SSTableBlacklistGovernor → List String → Bool × SSTableBlacklistGovernor
  | g, [] => (false, g)
  | g, tenantCol :: tenantIdColumns =>
    match parsed.member tenantCol with
    | none => checkColumns lib parsed g tenantIdColumns
    | some val =>
      if (g.checkTenantId (lib.tenantId val)).1 = .skipTenant then
        (true, (g.checkTenantId (lib.tenantId val)).2)
      else checkColumns lib parsed (g.checkTenantId (lib.tenantId val)).2 tenantIdColumns

/-- `filter_json_row`: whether the row is filtered out, and the loader with its counters. -/
def Loader.filterJsonRow (lib : JsonLibrary S) (m : Loader) (jsonRow : String)
    (tenantIdColumns : List String) : Bool × Loader :=
  match m.filter with
  | none => (false, m)
  | some g =>
    if !g.isEnabled || tenantIdColumns.isEmpty then (false, m)
    else
      match lib.parse jsonRow with
      | none => (false, m)
      | some parsed =>
        let (found, g) := checkColumns lib parsed g tenantIdColumns
        let m : Loader := { m with filter := some g }
        (found, if found then m.fetchAdd .filteredRows else m)

end SSTableLoader
end ScyllaClusterSync
