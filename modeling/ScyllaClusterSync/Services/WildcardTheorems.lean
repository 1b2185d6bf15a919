import ScyllaClusterSync.DualWriter.Filter
import ScyllaClusterSync.SSTableLoader.Filter

/-!
# The wildcard rule of the two blacklist governors

Both governors take the part of a table behind its last dot and look for the entry `*.` of
it. So an entry `*.s` means every table that ends with `.s` as long as `s` has no dot of its
own; an entry with more dots matches no table at all.
-/

namespace ScyllaClusterSync
namespace Services

open Svckit

/-! ## The last dot -/

/-- A list with a separator in it splits at the last one. -/
theorem exists_append_cons_of_mem {α : Type} {sep : α} {l : List α} (h : sep ∈ l) :
    ∃ front tail, l = front ++ sep :: tail ∧ sep ∉ tail := by
  obtain ⟨as, bs, heq, hnot⟩ := List.eq_append_cons_of_mem (List.mem_reverse.mpr h)
  refine ⟨bs.reverse, as.reverse, ?_, by simpa using hnot⟩
  rw [← List.reverse_inj, heq]
  simp

/-- There is one such split. -/
theorem eq_of_cons_suffix {α : Type} {sep : α} {l as bs : List α} (ha : sep :: as <:+ l)
    (hb : sep :: bs <:+ l) (has : sep ∉ as) (hbs : sep ∉ bs) : as = bs := by
  -- of two suffixes one is a suffix of the other, and a proper one would bring in a separator
  rcases List.suffix_or_suffix_of_suffix ha hb with h | h
  · rcases List.suffix_cons_iff.mp h with heq | hmem
    · exact (List.cons.inj heq).2
    · exact absurd (hmem.subset List.mem_cons_self) hbs
  · rcases List.suffix_cons_iff.mp h with heq | hmem
    · exact (List.cons.inj heq).2.symm
    · exact absurd (hmem.subset List.mem_cons_self) has

theorem rfindDot_append {front tail : List Char} (htail : '.' ∉ tail) :
    rfindDot (front ++ '.' :: tail) = some front.length := by
  have hnone : tail.reverse.findIdx? (· == '.') = none := by
    rw [List.findIdx?_eq_none_iff]
    intro c hc
    rw [beq_eq_false_iff_ne]
    intro heq
    exact htail (heq ▸ List.mem_reverse.mp hc)
  have hfirst : ('.' :: front.reverse).findIdx? (· == '.') = some 0 := by
    rw [List.findIdx?_cons]
    rfl
  unfold rfindDot
  rw [List.reverse_append, List.reverse_cons, List.append_assoc, List.findIdx?_append, hnone,
    List.singleton_append, hfirst]
  simp

/-- `tableSuffix` is what follows the last dot. -/
theorem tableSuffix_eq_some_iff {table : String} {tail : List Char} :
    tableSuffix table = some tail ↔ '.' ∉ tail ∧ '.' :: tail <:+ table.toList := by
  by_cases hdot : '.' ∈ table.toList
  · obtain ⟨front, last, heq, hlast⟩ := exists_append_cons_of_mem hdot
    have hsuffix : tableSuffix table = some last := by
      unfold tableSuffix
      rw [heq, rfindDot_append hlast]
      simp
    have hend : '.' :: last <:+ table.toList := ⟨front, heq.symm⟩
    rw [hsuffix, Option.some.injEq]
    constructor
    · intro h
      exact h ▸ ⟨hlast, hend⟩
    · intro h
      exact eq_of_cons_suffix hend h.2 hlast h.1
  · have hnone : tableSuffix table = none := by
      unfold tableSuffix rfindDot
      rw [List.findIdx?_eq_none_iff.mpr]
      · rfl
      · intro c hc
        rw [beq_eq_false_iff_ne]
        intro heq
        exact hdot (heq ▸ List.mem_reverse.mp hc)
    rw [hnone]
    refine iff_of_false (by simp) fun h => hdot (h.2.subset List.mem_cons_self)

/-! ## The rule -/

/-- The table ends with `.s`. -/
def EndsWithDot (table s : String) : Prop := '.' :: s.toList <:+ table.toList

theorem wildcardSuffix_eq_some_iff {pattern : String} {suffix : List Char} :
    wildcardSuffix pattern = some suffix ↔ pattern = "*." ++ .ofList suffix := by
  have htext : ("*." ++ String.ofList suffix).toList = '*' :: '.' :: suffix := by
    rw [String.toList_append, String.toList_ofList, String.toList_ofList]
    rfl
  rw [← String.toList_inj, htext]
  unfold wildcardSuffix
  split
  next rest heq => simp [heq]
  next hnot =>
    refine iff_of_false (by simp) fun heq => hnot _ heq

/-- An entry matches the tables that end with its suffix, when that has no dot. -/
theorem wildcardMatches_iff {table pattern : String} :
    wildcardMatches table pattern ↔
      ∃ s : String, pattern = "*." ++ s ∧ '.' ∉ s.toList ∧ EndsWithDot table s := by
  have hmatches : wildcardMatches table pattern ↔
      ∃ suffix, wildcardSuffix pattern = some suffix ∧ tableSuffix table = some suffix := by
    unfold wildcardMatches
    cases wildcardSuffix pattern with
    | none => simp
    | some suffix =>
      cases tableSuffix table with
      | none => simp
      | some tail =>
        simp only [beq_iff_eq, Option.some.injEq, exists_eq_left']
  rw [hmatches]
  constructor
  · rintro ⟨suffix, hpattern, htable⟩
    obtain ⟨hdot, hend⟩ := tableSuffix_eq_some_iff.mp htable
    refine ⟨.ofList suffix, wildcardSuffix_eq_some_iff.mp hpattern, ?_, ?_⟩
    · rwa [String.toList_ofList]
    · rwa [EndsWithDot, String.toList_ofList]
  · rintro ⟨s, rfl, hdot, hend⟩
    refine ⟨s.toList, ?_, tableSuffix_eq_some_iff.mpr ⟨hdot, hend⟩⟩
    rw [wildcardSuffix_eq_some_iff, String.ofList_toList]

/-- Whatever order the set is visited in. -/
theorem skipsTable_iff {b : Blacklists} {entries : List String}
    (hsame : ∀ x, x ∈ b.tables ↔ x ∈ entries) {table : String} :
    b.skipsTable table ↔ table ∈ entries ∨
      ∃ s : String, "*." ++ s ∈ entries ∧ '.' ∉ s.toList ∧ EndsWithDot table s := by
  simp only [Blacklists.skipsTable, Bool.or_eq_true, List.contains_iff_mem, List.any_eq_true,
    wildcardMatches_iff, hsame]
  refine or_congr_right ?_
  constructor
  · rintro ⟨pattern, hmem, s, rfl, hs⟩
    exact ⟨s, hmem, hs⟩
  · rintro ⟨s, hmem, hs⟩
    exact ⟨_, hmem, s, rfl, hs⟩

/-! ## The two governors -/

/-- The documented rule for the table `t` and the tenant `v`: both governors decide alike,
whatever order their sets are visited in, and skip a table that is listed or ends with the
`.s` of a listed `*.s`. -/
structure WildcardRule (config : FilterConfig) (t v : String) : Prop where
  table : ∀ (g : DualWriter.BlacklistFilterGovernor) (g' : SSTableLoader.SSTableBlacklistGovernor),
    g.config = config → g'.config = config → (g.shouldSkipTable t).1 = (g'.shouldSkipTable t).1
  tenant : ∀ (g : DualWriter.BlacklistFilterGovernor) (g' : SSTableLoader.SSTableBlacklistGovernor),
    g.config = config → g'.config = config → (g.checkTenantId v).1 = (g'.checkTenantId v).1
  order : ∀ b : Blacklists, (∀ x, x ∈ b.tables ↔ x ∈ config.tableBlacklist) →
    b.skipsTable t = (Blacklists.load config).skipsTable t
  suffix : ∀ g : DualWriter.BlacklistFilterGovernor, g.config = config →
    ((g.shouldSkipTable t).1 = .skipTable ↔ t ∈ config.tableBlacklist ∨
      ∃ s : String, "*." ++ s ∈ config.tableBlacklist ∧ EndsWithDot t s)

/-- A listed `*.s` that has a dot in `s` and whose `.s` ends the table is not needed to skip
it. -/
def DottedCovered (config : FilterConfig) (t : String) : Prop :=
  ∀ s : String, "*." ++ s ∈ config.tableBlacklist → '.' ∈ s.toList → EndsWithDot t s →
    t ∈ config.tableBlacklist ∨
      ∃ s' : String, "*." ++ s' ∈ config.tableBlacklist ∧ '.' ∉ s'.toList ∧ EndsWithDot t s'

theorem skipTable_iff {config : FilterConfig} {t : String} {g : DualWriter.BlacklistFilterGovernor}
    (hg : g.config = config) :
    (g.shouldSkipTable t).1 = .skipTable ↔ t ∈ config.tableBlacklist ∨
      ∃ s : String, "*." ++ s ∈ config.tableBlacklist ∧ '.' ∉ s.toList ∧ EndsWithDot t s := by
  rw [DualWriter.BlacklistFilterGovernor.shouldSkipTable_eq_skipTable, hg]
  exact skipsTable_iff fun x => StringSet.mem_ofList

/-- For every configuration, table and tenant: the documented rule holds exactly when no
entry with a dot in its suffix is needed to skip the table. -/
theorem wildcard_rule_iff (config : FilterConfig) (t v : String) :
    WildcardRule config t v ↔ DottedCovered config t := by
  constructor
  · intro hrule s hlisted _ hend
    exact (skipTable_iff rfl).mp
      ((hrule.suffix (.ofConfig config) rfl).mpr (Or.inr ⟨s, hlisted, hend⟩))
  · intro hcovered
    refine ⟨?_, ?_, ?_, ?_⟩
    · intro g g' hg hg'
      rw [g.shouldSkipTable_fst, g'.shouldSkipTable_fst, hg, hg']
    · intro g g' hg hg'
      rw [g.checkTenantId_fst, g'.checkTenantId_fst, hg, hg']
    · intro b hsame
      rw [Bool.eq_iff_iff, skipsTable_iff hsame, skipsTable_iff fun x => StringSet.mem_ofList]
    · intro g hg
      rw [skipTable_iff hg]
      constructor
      · rintro (hlisted | ⟨s, hlisted, _, hend⟩)
        · exact Or.inl hlisted
        · exact Or.inr ⟨s, hlisted, hend⟩
      · rintro (hlisted | ⟨s, hlisted, hend⟩)
        · exact Or.inl hlisted
        · by_cases hdot : '.' ∈ s.toList
          · exact hcovered s hlisted hdot hend
          · exact Or.inr ⟨s, hlisted, hdot, hend⟩

/-- A blacklist with one entry, whose suffix has a dot. -/
def dottedBlacklist : FilterConfig where
  tableBlacklist := ["*.app.files"]

/-- `eu.app.files` ends with `.app.files`, and is not skipped. -/
theorem dotted_suffix_not_skipped :
    ¬ ∀ (config : FilterConfig) (t v : String), WildcardRule config t v := by
  intro hall
  have hskip := ((hall dottedBlacklist "eu.app.files" "").suffix (.ofConfig dottedBlacklist)
    rfl).mpr (Or.inr ⟨"app.files", by decide, ['e', 'u'], rfl⟩)
  exact absurd hskip (by decide)

end Services
end ScyllaClusterSync
