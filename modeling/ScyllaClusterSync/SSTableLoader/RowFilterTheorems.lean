import ScyllaClusterSync.SSTableLoader.RowFilter

/-!
# Which rows are filtered out, and how often the governor counts them

`filter_json_row` asks the governor about the tenants in a row, in the order of the columns,
until one is blacklisted (`checkColumns_eq`). So the decision does not depend on that order,
and the counters do: each question counts, and a row may take none, one or several.
-/

namespace ScyllaClusterSync
namespace SSTableLoader

open Svckit

variable {S : Type} {lib : JsonLibrary S} {g : SSTableBlacklistGovernor} {m : Loader}
  {config : FilterConfig}

/-! ## The questions of a row -/

/-- `check_tenant_id` says no to this tenant. -/
def blacklisted (config : FilterConfig) (tenantId : String) : Bool :=
  (Blacklists.load config).skipsTenant tenantId

theorem blacklisted_iff {tenantId : String} :
    blacklisted config tenantId ↔ tenantId ∈ config.tenantBlacklist := by
  unfold blacklisted Blacklists.skipsTenant
  rw [List.contains_iff_mem]
  exact StringSet.mem_ofList

/-- The tenants the row has in the listed columns, in the order of the list. -/
def tenantIds (lib : JsonLibrary S) (parsed : Json S) (tenantIdColumns : List String) :
    List String :=
  tenantIdColumns.filterMap fun tenantCol => (parsed.member tenantCol).map lib.tenantId

/-- One question bumps one of the two counters. -/
theorem checkTenantId_eq (g : SSTableBlacklistGovernor) (tenantId : String) :
    g.checkTenantId tenantId =
      if blacklisted g.config tenantId then
        (.skipTenant, { g with stats.rowsSkipped := g.stats.rowsSkipped + 1 })
      else (.allow, { g with stats.rowsAllowed := g.stats.rowsAllowed + 1 }) := by
  unfold blacklisted
  rw [← g.loaded]
  rfl

/-- The questions up to the first blacklisted tenant. -/
theorem checkColumns_eq (lib : JsonLibrary S) (parsed : Json S) (g : SSTableBlacklistGovernor)
    (tenantIdColumns : List String) :
    checkColumns lib parsed g tenantIdColumns =
      ((tenantIds lib parsed tenantIdColumns).any (blacklisted g.config),
        { g with
          stats.rowsSkipped := g.stats.rowsSkipped +
            if (tenantIds lib parsed tenantIdColumns).any (blacklisted g.config) then 1 else 0
          stats.rowsAllowed := g.stats.rowsAllowed +
            ((tenantIds lib parsed tenantIdColumns).takeWhile
              fun id => !blacklisted g.config id).length }) := by
  induction tenantIdColumns generalizing g with
  | nil => rfl
  | cons tenantCol tenantIdColumns ih =>
    unfold checkColumns tenantIds
    rw [List.filterMap_cons]
    cases parsed.member tenantCol with
    | none => exact ih g
    | some val =>
      simp only [Option.map_some, checkTenantId_eq]
      cases hlisted : blacklisted g.config (lib.tenantId val) with
      | true => simp [hlisted]
      | false =>
        -- allowed: one more question, and then those of the other columns
        simp only [Bool.false_eq_true, if_false]
        rw [if_neg (by simp), ih]
        simp only [tenantIds, List.any_cons, hlisted, Bool.false_or, List.takeWhile_cons,
          Bool.not_false, if_true, List.length_cons, Nat.add_assoc, Nat.add_comm 1]
        rfl

/-! ## One row -/

/-- The text is an object that has a blacklisted tenant in one of the columns. -/
def HasBlacklistedTenant (lib : JsonLibrary S) (config : FilterConfig) (jsonRow : String)
    (tenantIdColumns : List String) : Prop :=
  ∃ keys members, lib.parse jsonRow = some (.object keys members) ∧
    ∃ tenantCol ∈ tenantIdColumns, ∃ h : tenantCol ∈ keys,
      lib.tenantId (members ⟨tenantCol, h⟩) ∈ config.tenantBlacklist

theorem member_eq_some_iff {parsed val : Json S} {key : String} :
    parsed.member key = some val ↔
      ∃ keys members, parsed = .object keys members ∧ ∃ h : key ∈ keys, members ⟨key, h⟩ = val := by
  cases parsed with
  | object keys members =>
    rw [Json.member]
    constructor
    · intro hmember
      by_cases h : key ∈ keys
      · rw [dif_pos h, Option.some.injEq] at hmember
        exact ⟨keys, members, rfl, h, hmember⟩
      · simp [dif_neg h] at hmember
    · rintro ⟨_, _, heq, h, hval⟩
      cases heq
      rw [dif_pos h, hval]
  | _ => simp [Json.member]

theorem any_tenantIds_iff {parsed : Json S} {tenantIdColumns : List String} :
    (tenantIds lib parsed tenantIdColumns).any (blacklisted config) ↔
      ∃ tenantCol ∈ tenantIdColumns, ∃ val, parsed.member tenantCol = some val ∧
        lib.tenantId val ∈ config.tenantBlacklist := by
  simp only [List.any_eq_true, tenantIds, List.mem_filterMap, Option.map_eq_some_iff,
    blacklisted_iff]
  constructor
  · rintro ⟨_, ⟨tenantCol, hcol, val, hmember, rfl⟩, hlisted⟩
    exact ⟨tenantCol, hcol, val, hmember, hlisted⟩
  · rintro ⟨tenantCol, hcol, val, hmember, hlisted⟩
    exact ⟨_, ⟨tenantCol, hcol, val, hmember, rfl⟩, hlisted⟩

theorem hasBlacklistedTenant_iff {jsonRow : String} {tenantIdColumns : List String} :
    HasBlacklistedTenant lib config jsonRow tenantIdColumns ↔
      ∃ parsed, lib.parse jsonRow = some parsed ∧
        (tenantIds lib parsed tenantIdColumns).any (blacklisted config) := by
  simp only [any_tenantIds_iff, member_eq_some_iff, HasBlacklistedTenant]
  constructor
  · rintro ⟨keys, members, hparse, tenantCol, hcol, h, hlisted⟩
    exact ⟨_, hparse, tenantCol, hcol, _, ⟨keys, members, rfl, h, rfl⟩, hlisted⟩
  · rintro ⟨_, hparse, tenantCol, hcol, _, ⟨keys, members, rfl, h, rfl⟩, hlisted⟩
    exact ⟨keys, members, hparse, tenantCol, hcol, h, hlisted⟩

/-- A row that is not looked into. -/
theorem filterJsonRow_of_unread (lib : JsonLibrary S) {jsonRow : String}
    (tenantIdColumns : List String) (hunread : (∀ g, m.filter = some g → g.isEnabled = false) ∨
      lib.parse jsonRow = none) : m.filterJsonRow lib jsonRow tenantIdColumns = (false, m) := by
  unfold Loader.filterJsonRow
  cases hg : m.filter with
  | none => rfl
  | some g =>
    rcases hunread with hdisabled | hparse
    · simp [hdisabled g hg]
    · simp [hparse]

/-- A row that is looked into; without columns there is nothing to ask. -/
theorem filterJsonRow_of_read (lib : JsonLibrary S) {jsonRow : String} {parsed : Json S}
    (tenantIdColumns : List String) (hg : m.filter = some g) (henabled : g.isEnabled)
    (hparse : lib.parse jsonRow = some parsed) :
    m.filterJsonRow lib jsonRow tenantIdColumns =
      let found := (checkColumns lib parsed g tenantIdColumns).1
      let m : Loader := { m with filter := some (checkColumns lib parsed g tenantIdColumns).2 }
      (found, if found then m.fetchAdd .filteredRows else m) := by
  unfold Loader.filterJsonRow
  rw [hg]
  simp only [henabled, Bool.not_true, Bool.false_or, hparse]
  cases tenantIdColumns with
  | nil => simp [checkColumns, ← hg]
  | cons tenantCol tenantIdColumns => rfl

/-- Either the row is not looked into, and has no blacklisted tenant, or the answer is whether
it has one. -/
theorem filterJsonRow_cases (lib : JsonLibrary S) (m : Loader) (jsonRow : String)
    (tenantIdColumns : List String) :
    (m.filterJsonRow lib jsonRow tenantIdColumns = (false, m) ∧
      ∀ g, m.filter = some g → ¬ HasBlacklistedTenant lib g.config jsonRow tenantIdColumns) ∨
    ∃ g g' found, m.filter = some g ∧ g'.config = g.config ∧
      (found = true ↔ HasBlacklistedTenant lib g.config jsonRow tenantIdColumns) ∧
      m.filterJsonRow lib jsonRow tenantIdColumns =
        (found, if found then ({ m with filter := some g' } : Loader).fetchAdd .filteredRows
          else { m with filter := some g' }) := by
  cases hparse : lib.parse jsonRow with
  | none =>
    refine Or.inl ⟨filterJsonRow_of_unread lib tenantIdColumns (Or.inr hparse), ?_⟩
    intro g _ hlisted
    obtain ⟨_, hsome, _⟩ := hasBlacklistedTenant_iff.mp hlisted
    rw [hparse] at hsome
    simp at hsome
  | some parsed =>
    by_cases henabled : ∃ g, m.filter = some g ∧ g.isEnabled
    · obtain ⟨g, hg, henabled⟩ := henabled
      have hread := filterJsonRow_of_read lib tenantIdColumns hg henabled hparse
      refine Or.inr ⟨g, _, _, hg, ?_, ?_, hread⟩
      · rw [checkColumns_eq]
      · rw [checkColumns_eq, hasBlacklistedTenant_iff]
        simp [hparse]
    · refine Or.inl ⟨filterJsonRow_of_unread lib tenantIdColumns (Or.inl fun g hg => ?_),
        fun g hg hlisted => ?_⟩
      · rw [← Bool.not_eq_true]
        exact fun hg' => henabled ⟨g, hg, hg'⟩
      · -- a governor with a blacklisted tenant is enabled
        obtain ⟨_, _, hany⟩ := hasBlacklistedTenant_iff.mp hlisted
        obtain ⟨tenantId, _, hskips⟩ := List.any_eq_true.mp hany
        refine henabled ⟨g, hg, ?_⟩
        rw [g.isEnabled_eq]
        exact Blacklists.enabled_of_skipsTenant hskips

/-- For every text, list of columns and governor: the row is filtered out exactly when the
text is an object with a blacklisted tenant in one of the columns, in whatever order these
are listed, and `filtered_rows_` is incremented exactly then. -/
theorem filterJsonRow_exact (lib : JsonLibrary S) (m : Loader) (jsonRow : String)
    (tenantIdColumns : List String) :
    ((m.filterJsonRow lib jsonRow tenantIdColumns).1 = true ↔
      ∃ g, m.filter = some g ∧ HasBlacklistedTenant lib g.config jsonRow tenantIdColumns) ∧
    (∀ tenantIdColumns', tenantIdColumns'.Perm tenantIdColumns →
      (m.filterJsonRow lib jsonRow tenantIdColumns').1 =
        (m.filterJsonRow lib jsonRow tenantIdColumns).1) ∧
    ∀ counter, (m.filterJsonRow lib jsonRow tenantIdColumns).2.counters.get counter =
      m.counters.get counter + if counter = .filteredRows ∧
        (m.filterJsonRow lib jsonRow tenantIdColumns).1 = true then 1 else 0 := by
  have hanswer : ∀ tenantIdColumns, (m.filterJsonRow lib jsonRow tenantIdColumns).1 = true ↔
      ∃ g, m.filter = some g ∧ HasBlacklistedTenant lib g.config jsonRow tenantIdColumns := by
    intro tenantIdColumns
    rcases filterJsonRow_cases lib m jsonRow tenantIdColumns with
      ⟨heq, hnone⟩ | ⟨g, g', found, hg, _, hfound, heq⟩
    · rw [heq]
      simp only [Bool.false_eq_true, false_iff, not_exists, not_and]
      exact hnone
    · rw [heq, hg]
      simp only [Option.some.injEq, exists_eq_left']
      exact hfound
  refine ⟨hanswer tenantIdColumns, fun tenantIdColumns' hperm => ?_, fun counter => ?_⟩
  · -- the order of the columns is not in the answer
    rw [Bool.eq_iff_iff, hanswer, hanswer]
    simp only [HasBlacklistedTenant, hperm.mem_iff]
  · rcases filterJsonRow_cases lib m jsonRow tenantIdColumns with
      ⟨heq, _⟩ | ⟨g, g', found, _, _, _, heq⟩
    · rw [heq]
      simp
    · rw [heq]
      cases found with
      | false => simp
      | true =>
        simp only [if_true, Loader.get_fetchAdd, and_true]
        split
        next hcounter => rw [hcounter]
        next => rfl

/-- A library that reads the rows below as they are written. -/
def sampleLibrary : JsonLibrary ℕ where
  parse text :=
    if text = "\x7b\"id\":7\x7d" then
      some (.object {"id"} fun _ => .scalar 7)
    else if text = "\x7b\"owner\":\"acme\",\"tenant\":\"acme\"\x7d" then
      some (.object {"owner", "tenant"} fun _ => .string "acme")
    else none
  dump _ := "7"

/-- A loader whose governor skips one tenant. -/
def loaderSkipping (tenantId : String) : Loader :=
  { filter := some (.ofConfig { tenantBlacklist := [tenantId] }) }

/-- A row with two tenant columns, in either order. -/
theorem filterJsonRow_exact_reordered :
    ((loaderSkipping "acme").filterJsonRow sampleLibrary
        "\x7b\"owner\":\"acme\",\"tenant\":\"acme\"\x7d" ["tenant", "owner"]).1 =
      ((loaderSkipping "acme").filterJsonRow sampleLibrary
        "\x7b\"owner\":\"acme\",\"tenant\":\"acme\"\x7d" ["owner", "tenant"]).1 :=
  (filterJsonRow_exact sampleLibrary (loaderSkipping "acme")
    "\x7b\"owner\":\"acme\",\"tenant\":\"acme\"\x7d" ["owner", "tenant"]).2.1 _
    (List.Perm.swap "owner" "tenant" [])

/-! ## The governor's counts -/

/-- One call of `filter_json_row`. -/
structure RowCall where
  jsonRow : String
  tenantIdColumns : List String

/-- The loader after some calls. -/
def Loader.filterRows (lib : JsonLibrary S) (m : Loader) (rows : List RowCall) : Loader :=
  rows.foldl (fun m row => (m.filterJsonRow lib row.jsonRow row.tenantIdColumns).2) m

/-- The call counts its row once if the text parses, and as skipped if it is filtered out. -/
def CountedOnce (lib : JsonLibrary S) (m : Loader) (row : RowCall) : Prop :=
  ∃ g g', m.filter = some g ∧
    (m.filterJsonRow lib row.jsonRow row.tenantIdColumns).2.filter = some g' ∧
    g'.stats.rowsSkipped + g'.stats.rowsAllowed = g.stats.rowsSkipped + g.stats.rowsAllowed +
      (if (lib.parse row.jsonRow).isSome then 1 else 0) ∧
    g'.stats.rowsSkipped = g.stats.rowsSkipped +
      if (m.filterJsonRow lib row.jsonRow row.tenantIdColumns).1 then 1 else 0

/-- The governor is asked about one tenant of the row: it has a single one, or the first one is
blacklisted. -/
def AsksOnce (lib : JsonLibrary S) (config : FilterConfig) (row : RowCall) : Prop :=
  ∀ parsed, lib.parse row.jsonRow = some parsed →
    ∃ id rest, tenantIds lib parsed row.tenantIdColumns = id :: rest ∧
      (rest = [] ∨ id ∈ config.tenantBlacklist)

/-- How many of these tenants the governor is asked about. -/
def questions (config : FilterConfig) (ids : List String) : ℕ :=
  (ids.takeWhile fun id => !blacklisted config id).length +
    if ids.any (blacklisted config) then 1 else 0

theorem questions_cons (id : String) (ids : List String) :
    questions config (id :: ids) =
      if blacklisted config id then 1 else questions config ids + 1 := by
  unfold questions
  cases hlisted : blacklisted config id with
  | true => simp [hlisted]
  | false =>
    simp only [List.takeWhile_cons, hlisted, Bool.not_false, if_true, List.length_cons,
      List.any_cons, Bool.false_or, Bool.false_eq_true, if_false]
    exact Nat.succ_add _ _

theorem questions_eq_zero_iff {ids : List String} : questions config ids = 0 ↔ ids = [] := by
  cases ids with
  | nil => simp [questions]
  | cons id ids =>
    rw [questions_cons]
    split <;> simp

theorem questions_eq_one_iff {ids : List String} :
    questions config ids = 1 ↔
      ∃ id rest, ids = id :: rest ∧ (rest = [] ∨ id ∈ config.tenantBlacklist) := by
  cases ids with
  | nil => simp [questions]
  | cons id ids =>
    rw [questions_cons]
    simp only [List.cons.injEq, ← blacklisted_iff]
    constructor
    · intro hone
      refine ⟨id, ids, ⟨rfl, rfl⟩, ?_⟩
      by_cases hlisted : blacklisted config id
      · exact Or.inr hlisted
      · rw [if_neg hlisted, Nat.succ_inj, questions_eq_zero_iff] at hone
        exact Or.inl hone
    · rintro ⟨_, _, ⟨rfl, rfl⟩, rfl | hlisted⟩
      · split <;> rfl
      · rw [if_pos hlisted]

/-- A call keeps the configuration, counts a row that it filters out as skipped, and the other
questions about it as allowed rows. -/
theorem stats_filterJsonRow (lib : JsonLibrary S) (hg : m.filter = some g)
    (henabled : g.isEnabled) (row : RowCall) :
    ∃ g', (m.filterJsonRow lib row.jsonRow row.tenantIdColumns).2.filter = some g' ∧
      g'.config = g.config ∧
      g'.stats.rowsSkipped = g.stats.rowsSkipped +
        (if (m.filterJsonRow lib row.jsonRow row.tenantIdColumns).1 then 1 else 0) ∧
      g'.stats.rowsSkipped + g'.stats.rowsAllowed =
        g.stats.rowsSkipped + g.stats.rowsAllowed +
          ((lib.parse row.jsonRow).elim 0 fun parsed =>
            questions g.config (tenantIds lib parsed row.tenantIdColumns)) := by
  cases hparse : lib.parse row.jsonRow with
  | none =>
    rw [filterJsonRow_of_unread lib row.tenantIdColumns (Or.inr hparse)]
    exact ⟨g, hg, rfl, rfl, rfl⟩
  | some parsed =>
    rw [filterJsonRow_of_read lib row.tenantIdColumns hg henabled hparse]
    refine ⟨(checkColumns lib parsed g row.tenantIdColumns).2, ?_, ?_, ?_, ?_⟩
    · dsimp only
      split <;> rfl
    · rw [checkColumns_eq]
    · rw [checkColumns_eq]
    · rw [checkColumns_eq, Option.elim_some, questions]
      dsimp only
      omega

/-- One call counts its row once exactly when it asks one question. -/
theorem countedOnce_iff (lib : JsonLibrary S) (hg : m.filter = some g) (henabled : g.isEnabled)
    (row : RowCall) : CountedOnce lib m row ↔ AsksOnce lib g.config row := by
  obtain ⟨g', hg', _, hskipped, hcounted⟩ := stats_filterJsonRow lib hg henabled row
  have hquestions : CountedOnce lib m row ↔
      ((lib.parse row.jsonRow).elim 0 fun parsed =>
        questions g.config (tenantIds lib parsed row.tenantIdColumns)) =
          if (lib.parse row.jsonRow).isSome then 1 else 0 := by
    constructor
    · rintro ⟨g₁, g₁', hg₁, hg₁', hcounted₁, _⟩
      cases hg.symm.trans hg₁
      cases hg'.symm.trans hg₁'
      exact Nat.add_left_cancel (hcounted.symm.trans hcounted₁)
    · intro heq
      exact ⟨g, g', hg, hg', heq ▸ hcounted, hskipped⟩
  rw [hquestions, AsksOnce]
  cases lib.parse row.jsonRow with
  | none => simp
  | some parsed => simp [questions_eq_one_iff]

/-- The governor of the later calls has the same configuration. -/
theorem filter_filterRows (lib : JsonLibrary S) (hg : m.filter = some g) (henabled : g.isEnabled)
    (rows : List RowCall) :
    ∃ g', (m.filterRows lib rows).filter = some g' ∧ g'.config = g.config ∧ g'.isEnabled := by
  induction rows generalizing m g with
  | nil => exact ⟨g, hg, rfl, henabled⟩
  | cons row rows ih =>
    obtain ⟨g₁, hg₁, hconfig₁, _⟩ := stats_filterJsonRow lib hg henabled row
    have henabled₁ : g₁.isEnabled := by
      rw [g₁.isEnabled_eq, hconfig₁, ← g.isEnabled_eq]
      exact henabled
    obtain ⟨g', hg', hconfig', henabled'⟩ := ih hg₁ henabled₁
    exact ⟨g', hg', hconfig'.trans hconfig₁, henabled'⟩

/-- In a sequence of calls with the filter enabled, every row counts once exactly when the
governor is asked about one tenant of every row that parses. -/
theorem rows_counted_once_iff (lib : JsonLibrary S) (m : Loader) (g : SSTableBlacklistGovernor)
    (hg : m.filter = some g) (henabled : g.isEnabled) (rows : List RowCall) :
    (∀ before row after, rows = before ++ row :: after →
      CountedOnce lib (m.filterRows lib before) row) ↔
    ∀ row ∈ rows, AsksOnce lib g.config row := by
  have hcall : ∀ before row, CountedOnce lib (m.filterRows lib before) row ↔
      AsksOnce lib g.config row := by
    intro before row
    obtain ⟨g', hg', hconfig, henabled'⟩ := filter_filterRows lib hg henabled before
    rw [countedOnce_iff lib hg' henabled', hconfig]
  constructor
  · intro hcounted row hrow
    obtain ⟨before, after, heq⟩ := List.append_of_mem hrow
    exact (hcall before row).mp (hcounted before row after heq)
  · rintro hasks before row after rfl
    exact (hcall before row).mpr (hasks row (List.mem_append_right before List.mem_cons_self))

/-- A row with its tenant in one listed column. -/
theorem rows_counted_once_iff_oneTenant :
    CountedOnce sampleLibrary (loaderSkipping "acme")
      { jsonRow := "\x7b\"owner\":\"acme\",\"tenant\":\"acme\"\x7d"
        tenantIdColumns := ["tenant"] } := by
  refine (rows_counted_once_iff sampleLibrary (loaderSkipping "acme") _ rfl (by decide)
    [_]).mpr ?_ [] _ [] rfl
  intro row hrow parsed hparse
  rw [List.mem_singleton.mp hrow] at hparse ⊢
  cases hparse
  exact ⟨"acme", [], rfl, Or.inl rfl⟩

/-- With the filter enabled, a row without a tenant column is not counted, and one with two
whose tenants are allowed is counted twice. -/
theorem row_counted_never_or_twice :
    (∃ g, (loaderSkipping "initech").filter = some g ∧ g.isEnabled) ∧
    ¬ (CountedOnce sampleLibrary (loaderSkipping "initech")
      { jsonRow := "\x7b\"id\":7\x7d", tenantIdColumns := ["tenant"] }) ∧
    ¬ (CountedOnce sampleLibrary (loaderSkipping "initech")
      { jsonRow := "\x7b\"owner\":\"acme\",\"tenant\":\"acme\"\x7d"
        tenantIdColumns := ["tenant", "owner"] }) := by
  refine ⟨⟨_, rfl, by decide⟩, ?_, ?_⟩
  · rintro ⟨g, g', hg, hg', hcounted, _⟩
    cases hg
    cases hg'
    revert hcounted
    decide +kernel
  · rintro ⟨g, g', hg, hg', hcounted, _⟩
    cases hg
    cases hg'
    revert hcounted
    decide +kernel

end SSTableLoader
end ScyllaClusterSync
