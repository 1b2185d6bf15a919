import ScyllaClusterSync.DualReader.Reader

/-!
# The filter statistics over a sequence of calls

`check_tenant_id` counts a filtered domain without counting a source-only read, and a
validation for a domain that passes the gate is decided twice. Up to these two numbers the
statistics add up, so they add up exactly when both are zero: `filterStats_add_up_iff`.
-/

namespace ScyllaClusterSync
namespace DualReader

open Svckit

/-! ## The calls -/

/-- A validation that is requested, and what the clusters make of it. -/
inductive Validation where
  | ofTable (table : String) (source target : String → Outcome)
  | ofDomain (table domainId : String) (source target : String → Outcome)

inductive FilterCall where
  | validation (v : Validation)
  | shouldSkipTable (table : String)
  | checkTenantId (domainId : String)

def Validation.apply (g : DualReaderFilterGovernor) : Validation → DualReaderFilterGovernor
  | .ofTable table source target => (validateTable g table source target).2
  | .ofDomain table domainId source target =>
    (validateTableForDomain g table domainId source target).2

def FilterCall.apply (g : DualReaderFilterGovernor) : FilterCall → DualReaderFilterGovernor
  | .validation v => v.apply g
  | .shouldSkipTable table => (g.shouldSkipTable table).2
  | .checkTenantId domainId => (g.checkTenantId domainId).2

/-- The statistics of a governor of this configuration after a sequence of calls. -/
def statsAfter (config : DualReaderFilterConfig) (cs : List FilterCall) : FilterStats :=
  (cs.foldl FilterCall.apply (.ofConfig config)).stats

/-- The call is a `check_tenant_id` that rejects its domain. -/
def FilterCall.rejectsTenant (config : DualReaderFilterConfig) : FilterCall → Bool
  | .checkTenantId domainId => config.enabled && (Whitelists.load config).rejectsDomain domainId
  | _ => false

/-- The validation is for a domain, and passes the gate. -/
def Validation.passesDomainGate (config : DualReaderFilterConfig) : Validation → Bool
  | .ofDomain table domainId _ _ => readsBoth config table domainId
  | .ofTable .. => false

/-! ## One decision -/

/-- The reads that have been decided. -/
def FilterStats.reads (s : FilterStats) : ℕ := s.dualReads + s.sourceOnlyReads

/-- What the two whitelists have filtered. -/
def FilterStats.filtered (s : FilterStats) : ℕ := s.tablesFiltered + s.domainsFiltered

section

variable (g : DualReaderFilterGovernor) (table domainId : String) (source target : String → Outcome)

theorem reads_decide : (g.decide table domainId).2.stats.reads = g.stats.reads + 1 := by
  unfold DualReaderFilterGovernor.decide FilterStats.reads
  split_ifs <;> dsimp only <;> omega

/-- A decision counts a source-only read for what it filters. -/
theorem filtered_decide :
    (g.decide table domainId).2.stats.filtered + g.stats.sourceOnlyReads =
      g.stats.filtered + (g.decide table domainId).2.stats.sourceOnlyReads := by
  unfold DualReaderFilterGovernor.decide FilterStats.filtered
  split_ifs <;> dsimp only <;> omega

theorem shouldSkipTable_snd : (g.shouldSkipTable table).2 = (g.decide table "").2 := by
  unfold DualReaderFilterGovernor.shouldSkipTable
  split <;> simp_all

theorem stats_checkTenantId :
    (g.checkTenantId domainId).2.stats.reads = g.stats.reads ∧
      (g.checkTenantId domainId).2.stats.sourceOnlyReads = g.stats.sourceOnlyReads ∧
      (g.checkTenantId domainId).2.stats.filtered = g.stats.filtered +
        (if FilterCall.rejectsTenant g.config (.checkTenantId domainId) then 1 else 0) := by
  unfold DualReaderFilterGovernor.checkTenantId FilterStats.filtered FilterCall.rejectsTenant
  rw [← g.loaded]
  split
  · refine ⟨rfl, rfl, ?_⟩
    dsimp only
    omega
  · exact ⟨rfl, rfl, rfl⟩

/-! ## One call -/

theorem config_validation (v : Validation) : (v.apply g).config = g.config := by
  cases v with
  | ofTable table source target =>
    rw [Validation.apply, filter_validateTable, DualReaderFilterGovernor.config_decide]
  | ofDomain table domainId source target =>
    rw [Validation.apply, filter_validateTableForDomain]
    split_ifs <;> simp only [DualReaderFilterGovernor.config_decide]

theorem config_apply (c : FilterCall) : (c.apply g).config = g.config := by
  cases c with
  | validation v => exact config_validation g v
  | shouldSkipTable table => exact g.config_shouldSkipTable table
  | checkTenantId domainId => exact g.config_checkTenantId domainId

/-- A validation decides once, and once more when it is for a domain and passes. -/
theorem reads_validation (v : Validation) :
    (v.apply g).stats.reads =
      g.stats.reads + 1 + (if v.passesDomainGate g.config then 1 else 0) := by
  cases v with
  | ofTable table source target =>
    rw [Validation.apply, filter_validateTable, reads_decide]
    rfl
  | ofDomain table domainId source target =>
    rw [Validation.apply, filter_validateTableForDomain, DualReaderFilterGovernor.decide_fst,
      Validation.passesDomainGate]
    cases readsBoth g.config table domainId with
    | true => rw [if_pos rfl, if_pos rfl, if_pos rfl, reads_decide, reads_decide]
    | false =>
      rw [if_neg (by decide), if_neg (by decide), reads_decide]

theorem filtered_validation (v : Validation) :
    (v.apply g).stats.filtered + g.stats.sourceOnlyReads =
      g.stats.filtered + (v.apply g).stats.sourceOnlyReads := by
  cases v with
  | ofTable table source target =>
    rw [Validation.apply, filter_validateTable]
    exact filtered_decide g table ""
  | ofDomain table domainId source target =>
    have hfirst := filtered_decide g table domainId
    have hagain := filtered_decide (g.decide table domainId).2 table ""
    rw [Validation.apply, filter_validateTableForDomain]
    split_ifs
    · omega
    · exact hfirst

theorem filtered_apply (c : FilterCall) :
    (c.apply g).stats.filtered + g.stats.sourceOnlyReads =
      g.stats.filtered + (c.apply g).stats.sourceOnlyReads +
        (if c.rejectsTenant g.config then 1 else 0) := by
  cases c with
  | validation v => exact filtered_validation g v
  | shouldSkipTable table =>
    rw [FilterCall.apply, shouldSkipTable_snd]
    exact filtered_decide g table ""
  | checkTenantId domainId =>
    obtain ⟨-, hsource, hfiltered⟩ := stats_checkTenantId g domainId
    rw [FilterCall.apply, hsource, hfiltered]
    omega

end

/-! ## A sequence of calls -/

theorem filtered_foldl (cs : List FilterCall) (g : DualReaderFilterGovernor) :
    (cs.foldl FilterCall.apply g).stats.filtered + g.stats.sourceOnlyReads =
      g.stats.filtered + (cs.foldl FilterCall.apply g).stats.sourceOnlyReads +
        cs.countP (FilterCall.rejectsTenant g.config) := by
  induction cs generalizing g with
  | nil => rfl
  | cons c cs ih =>
    have hrest := ih (c.apply g)
    have hhead := filtered_apply g c
    rw [config_apply] at hrest
    rw [List.foldl_cons, List.countP_cons]
    omega

theorem reads_foldl (vs : List Validation) (g : DualReaderFilterGovernor) :
    ((vs.map FilterCall.validation).foldl FilterCall.apply g).stats.reads =
      g.stats.reads + vs.length + vs.countP (Validation.passesDomainGate g.config) := by
  induction vs generalizing g with
  | nil => rfl
  | cons v vs ih =>
    have hrest := ih (v.apply g)
    have hhead := reads_validation g v
    rw [config_validation] at hrest
    rw [List.map_cons, List.foldl_cons, List.length_cons, List.countP_cons]
    change ((vs.map FilterCall.validation).foldl FilterCall.apply (v.apply g)).stats.reads = _
    omega

/-- After any calls, what was filtered is what was read from the source alone and what
`check_tenant_id` rejected. -/
theorem filtered_statsAfter (config : DualReaderFilterConfig) (cs : List FilterCall) :
    (statsAfter config cs).filtered =
      (statsAfter config cs).sourceOnlyReads + cs.countP (FilterCall.rejectsTenant config) := by
  have h := filtered_foldl cs (.ofConfig config)
  change _ + 0 = 0 + _ + _ at h
  rw [Nat.add_zero, Nat.zero_add] at h
  exact h

/-- After validations alone, each has been decided once, and those for a domain that passed
once more. -/
theorem reads_statsAfter (config : DualReaderFilterConfig) (vs : List Validation) :
    (statsAfter config (vs.map .validation)).reads =
      vs.length + vs.countP (Validation.passesDomainGate config) := by
  have h := reads_foldl vs (.ofConfig config)
  change _ = 0 + _ + _ at h
  rw [Nat.zero_add] at h
  exact h

/-! ## The result -/

/-- For every configuration: the source-only reads are what was filtered at every point of a
sequence of calls exactly when none of them is a `check_tenant_id` that rejects, and the
reads are the validations requested exactly when no validation for a domain passes. -/
theorem filterStats_add_up_iff (config : DualReaderFilterConfig) :
    (∀ cs : List FilterCall,
      (∀ pre, pre <+: cs → (statsAfter config pre).sourceOnlyReads =
        (statsAfter config pre).tablesFiltered + (statsAfter config pre).domainsFiltered) ↔
      ∀ c ∈ cs, c.rejectsTenant config = false) ∧
    ∀ vs : List Validation,
      (statsAfter config (vs.map .validation)).dualReads +
          (statsAfter config (vs.map .validation)).sourceOnlyReads = vs.length ↔
        ∀ v ∈ vs, v.passesDomainGate config = false := by
  constructor
  · intro cs
    constructor
    · intro hall c hc
      -- the whole sequence is one of its points, and there the rejections have to be none
      have hcount := filtered_statsAfter config cs
      have hcs := hall cs (List.prefix_refl cs)
      rw [FilterStats.filtered] at hcount
      have hzero : cs.countP (FilterCall.rejectsTenant config) = 0 := by omega
      exact Bool.eq_false_iff.mpr (List.countP_eq_zero.mp hzero c hc)
    · intro hnone pre hpre
      have hcount := filtered_statsAfter config pre
      have hzero : pre.countP (FilterCall.rejectsTenant config) = 0 := by
        apply List.countP_eq_zero.mpr
        intro c hc
        exact Bool.eq_false_iff.mp (hnone c (hpre.subset hc))
      rw [FilterStats.filtered] at hcount
      omega
  · intro vs
    have hcount := reads_statsAfter config vs
    rw [FilterStats.reads] at hcount
    -- the surplus is the number of validations decided twice
    rw [hcount, Nat.add_eq_left, List.countP_eq_zero]
    exact forall₂_congr fun v _ => Bool.eq_false_iff.symm

/-- One domain is listed. `check_tenant_id` of another one counts a filtered domain, and the
validation of a table for the listed one is counted as two reads. -/
theorem filterStats_disagree :
    (¬ ∀ config : DualReaderFilterConfig, config.enabled = true → ∀ cs : List FilterCall,
      ∀ pre, pre <+: cs → (statsAfter config pre).sourceOnlyReads =
        (statsAfter config pre).tablesFiltered + (statsAfter config pre).domainsFiltered) ∧
    ¬ ∀ config : DualReaderFilterConfig, config.enabled = true → ∀ vs : List Validation,
      (statsAfter config (vs.map .validation)).dualReads +
        (statsAfter config (vs.map .validation)).sourceOnlyReads = vs.length := by
  constructor
  · intro hall
    have hequal := hall { enabled := true, compareSystemDomainIds := ["domain-a"] } rfl
      [.checkTenantId "domain-b"] _ (List.prefix_refl _)
    exact absurd hequal (by decide +kernel)
  · intro hall
    have hequal := hall { enabled := true, compareSystemDomainIds := ["domain-a"] } rfl
      [.ofDomain "app.files" "domain-a" (fun _ => .ok) fun _ => .ok]
    exact absurd hequal (by decide +kernel)

end DualReader
end ScyllaClusterSync
