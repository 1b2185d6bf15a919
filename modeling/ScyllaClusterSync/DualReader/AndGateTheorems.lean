import ScyllaClusterSync.DualReader.Filter

/-!
# The AND gate and its two halves

`decide` checks the table and then the domain, unless there is none. Through the base
interface the halves are asked for one by one, and `check_tenant_id` looks up the empty
domain like any other: the two ways agree unless the read has no domain and the domain list
would keep it out.
-/

namespace ScyllaClusterSync
namespace DualReader

open Svckit

/-- The two ways of asking the gate agree on this read. -/
def GateAgrees (g : DualReaderFilterGovernor) (table domainId : String) : Prop :=
  (g.decide table domainId).1 = .dualRead ↔
    (g.shouldSkipTable table).1 = .allow ∧ (g.checkTenantId domainId).1 = .allow

/-- A read without a domain that the domain list does not keep out, or that has other reasons
to be kept out or let in. -/
def EmptyDomainHarmless (config : DualReaderFilterConfig) (table domainId : String) : Prop :=
  domainId ≠ "" ∨ config.enabled = false ∨ config.compareSystemDomainIds = [] ∨
    "" ∈ config.compareSystemDomainIds ∨
    (config.compareTables ≠ [] ∧ table ∉ config.compareTables)

variable {config : DualReaderFilterConfig} {g : DualReaderFilterGovernor} {table domainId : String}

/-! ## The whitelists -/

theorem isEmpty_ofList (l : List String) : (StringSet.ofList l).isEmpty = l.isEmpty := by
  rw [Bool.eq_iff_iff, List.isEmpty_iff, List.isEmpty_iff, List.eq_nil_iff_forall_not_mem,
    List.eq_nil_iff_forall_not_mem]
  simp only [StringSet.mem_ofList]

theorem rejectsTable_load :
    (Whitelists.load config).rejectsTable table ↔
      config.compareTables ≠ [] ∧ table ∉ config.compareTables := by
  simp [Whitelists.rejectsTable, Whitelists.load, isEmpty_ofList, StringSet.mem_ofList]

theorem rejectsDomain_load :
    (Whitelists.load config).rejectsDomain domainId ↔
      config.compareSystemDomainIds ≠ [] ∧ domainId ∉ config.compareSystemDomainIds := by
  simp [Whitelists.rejectsDomain, Whitelists.load, isEmpty_ofList, StringSet.mem_ofList]

/-! ## What the functions answer -/

theorem decide_eq_dualRead :
    (g.decide table domainId).1 = .dualRead ↔ g.config.enabled = false ∨
      (¬ (Whitelists.load g.config).rejectsTable table ∧
        (domainId ≠ "" → ¬ (Whitelists.load g.config).rejectsDomain domainId)) := by
  rw [g.decide_fst, readsBoth, Whitelists.rejectsReadOf]
  cases g.config.enabled <;> simp

theorem shouldSkipTable_eq_allow :
    (g.shouldSkipTable table).1 = .allow ↔ g.config.enabled = false ∨
      ¬ (Whitelists.load g.config).rejectsTable table := by
  rw [g.shouldSkipTable_fst, readsBoth, Whitelists.rejectsReadOf]
  cases g.config.enabled <;> simp

theorem checkTenantId_eq_allow :
    (g.checkTenantId domainId).1 = .allow ↔ g.config.enabled = false ∨
      ¬ (Whitelists.load g.config).rejectsDomain domainId := by
  rw [g.checkTenantId_fst]
  cases g.config.enabled <;> simp

/-! ## The result -/

/-- For every governor, table and domain: `decide` reads both clusters exactly when the two
checks allow it, unless the domain is empty, the filter is enabled, the table is let through
and the domain list is neither empty nor has the empty domain in it. -/
theorem gate_agrees_iff (g : DualReaderFilterGovernor) (table domainId : String) :
    GateAgrees g table domainId ↔ EmptyDomainHarmless g.config table domainId := by
  unfold GateAgrees EmptyDomainHarmless
  rw [decide_eq_dualRead, shouldSkipTable_eq_allow, checkTenantId_eq_allow, ← rejectsTable_load]
  by_cases henabled : g.config.enabled = false
  · simp [henabled]
  by_cases htable : (Whitelists.load g.config).rejectsTable table
  · simp [henabled, htable]
  by_cases hempty : domainId = ""
  · -- only here the domain list is asked the one way and not the other
    subst hempty
    have hlist : ¬ (Whitelists.load g.config).rejectsDomain "" ↔
        g.config.compareSystemDomainIds = [] ∨ "" ∈ g.config.compareSystemDomainIds := by
      rw [rejectsDomain_load, not_and_or, not_not, not_not]
    simpa [henabled, htable] using hlist
  · simp [henabled, htable, hempty]

/-- One table and one domain are listed. -/
def oneDomain : DualReaderFilterConfig where
  enabled := true
  compareTables := ["ks.assets"]
  compareSystemDomainIds := ["domain-abc-123"]

/-- A read without a domain is compared, although `check_tenant_id` turns it down. -/
theorem empty_domain_disagrees :
    ¬ ∀ (config : DualReaderFilterConfig) (table domainId : String),
      GateAgrees (.ofConfig config) table domainId := by
  intro hall
  have hboth := (hall oneDomain "ks.assets" "").mp (by decide)
  exact absurd hboth.2 (by decide)

end DualReader
end ScyllaClusterSync
