import ScyllaClusterSync.DualWriter.TableGateTheorems
import ScyllaClusterSync.DualWriter.WriteStatement

/-!
# Which spellings of a table the blacklist tells apart

`should_skip_table` compares the name of the table with the entries of the blacklist as it
is written. Everything else in a statement may be spelled in any way: two statements are
decided alike under every blacklist exactly when they write the name alike.
-/

namespace ScyllaClusterSync
namespace DualWriter

open Svckit

namespace WriteStatement

variable {s s' : WriteStatement}

/-- A name is no wildcard entry. -/
theorem wildcardSuffix_writtenName (hs : s.WellFormed) :
    wildcardSuffix (.ofList s.writtenName) = none := by
  obtain ⟨c, hc, _, hstar⟩ := head?_nameText hs
  unfold wildcardSuffix writtenName
  rw [String.toList_ofList]
  cases hname : s.nameText ++ s.restText with
  | nil => rfl
  | cons d rest =>
    rw [hname] at hc
    obtain rfl : d = c := by simpa using hc
    rw [List.takeWhile_cons]
    split
    next suffix heq =>
      split at heq
      · exact absurd (List.cons.inj heq).1 hstar
      · simp at heq
    · rfl

/-- The blacklist with this name as its one entry skips no other one. -/
theorem skipTable_writtenName (hs : s.WellFormed) {name : List Char} :
    ((BlacklistFilterGovernor.ofConfig { tableBlacklist := [.ofList s.writtenName] }).shouldSkipTable
      (.ofList name)).1 = .skipTable ↔ name = s.writtenName := by
  rw [BlacklistFilterGovernor.shouldSkipTable_eq_skipTable]
  show (Blacklists.load { tableBlacklist := [.ofList s.writtenName] }).skipsTable _ ↔ _
  rw [skipsTable_load]
  unfold MatchesBlacklist wildcardMatches
  simp only [List.mem_singleton, exists_eq_left, wildcardSuffix_writtenName hs, String.ofList_inj]
  simp

/-- Two statements are decided alike by every governor exactly when the name of the table is
written with the same characters in both, up to the next white space, parenthesis or
semicolon. -/
theorem decided_alike_iff (s s' : WriteStatement) (hs : s.WellFormed) (hs' : s'.WellFormed)
    (hfirst : s.OwnKeywordFirst) (hfirst' : s'.OwnKeywordFirst) :
    (∀ g : BlacklistFilterGovernor, (g.shouldSkipTable (extractTableTarget s.text)).1 =
      (g.shouldSkipTable (extractTableTarget s'.text)).1) ↔ s.writtenName = s'.writtenName := by
  rw [extractTableTarget_text hs hfirst, extractTableTarget_text hs' hfirst']
  constructor
  · intro hall
    have halike := hall (.ofConfig { tableBlacklist := [.ofList s.writtenName] })
    rw [(skipTable_writtenName hs).mpr rfl] at halike
    exact ((skipTable_writtenName hs).mp halike.symm).symm
  · intro heq g
    rw [heq]

/-! ## Statements about one table -/

/-- `INSERT INTO app.files (id) VALUES (1)`, with the keywords, the white space before the
name and the name as given. -/
def insertInto (insert into : String) (before : List Char)
    (keyspace : Token × List Char × List Char) (table : Token) : WriteStatement where
  kind := .insert
  indent := []
  head := [.word insert.toList, .other [' '], .word into.toList]
  before := before
  keyspace := some keyspace
  table := table
  after := [' ']
  tail := [.other ['('], .word "id".toList, .other [')', ' '], .word "VALUES".toList,
    .other " (1)".toList]

theorem wellFormed_insertInto {insert into : String} {before : List Char}
    {keyspace : Token × List Char × List Char} {table : Token}
    (hinsert : insert.toList.map Char.toUpper = "INSERT".toList)
    (hinto : into.toList.map Char.toUpper = "INTO".toList) (hbefore : ∀ c ∈ before, isSpace c)
    (hkeyspace : keyspace.1.IsName) (hbeforeDot : ∀ c ∈ keyspace.2.1, isSpace c)
    (hafterDot : ∀ c ∈ keyspace.2.2, isSpace c) (htable : table.IsName) :
    (insertInto insert into before keyspace table).WellFormed where
  indent := by simp [insertInto]
  head := ⟨_, _, _, rfl, ⟨_, rfl, hinsert⟩, by simp [isSpace], _, rfl, hinto⟩
  before := hbefore
  keyspace := by
    intro keyspace' hmem
    obtain rfl : keyspace = keyspace' := Option.some.inj hmem
    exact ⟨hkeyspace, hbeforeDot, hafterDot⟩
  table := htable
  after := by simp [insertInto, isSpace]

theorem isName_app : (Token.word "app".toList).IsName := ⟨by simp, by simp⟩

theorem isName_files : (Token.word "files".toList).IsName := ⟨by simp, by simp⟩

/-- `app.files` in plain letters. -/
def appFiles : WriteStatement :=
  insertInto "INSERT" "INTO" [' '] (.word "app".toList, [], []) (.word "files".toList)

/-- The same statement in small letters, and with more white space before the name. -/
def smallLetters : WriteStatement :=
  insertInto "insert" "into" [' ', '\n'] (.word "app".toList, [], []) (.word "files".toList)

theorem wellFormed_appFiles : appFiles.WellFormed :=
  wellFormed_insertInto (by decide +kernel) (by decide +kernel) (by simp [isSpace]) isName_app
    (by simp) (by simp) isName_files

theorem wellFormed_smallLetters : smallLetters.WellFormed :=
  wellFormed_insertInto (by decide +kernel) (by decide +kernel) (by simp [isSpace]) isName_app
    (by simp) (by simp) isName_files

theorem decided_alike_iff_smallLetters :
    smallLetters.WellFormed ∧ ∀ g : BlacklistFilterGovernor,
      (g.shouldSkipTable (extractTableTarget appFiles.text)).1 =
        (g.shouldSkipTable (extractTableTarget smallLetters.text)).1 := by
  refine ⟨wellFormed_smallLetters, ?_⟩
  exact (decided_alike_iff appFiles smallLetters wellFormed_appFiles wellFormed_smallLetters
    trivial trivial).mpr (by decide +kernel)

/-- `APP.files`, `app."files"` and `app .files`. -/
def respellings : List WriteStatement :=
  [insertInto "INSERT" "INTO" [' '] (.word "APP".toList, [], []) (.word "files".toList),
    insertInto "INSERT" "INTO" [' '] (.word "app".toList, [], []) (.quoted "files".toList),
    insertInto "INSERT" "INTO" [' '] (.word "app".toList, [' '], []) (.word "files".toList)]

/-- All three name the table in another way, and dodge the entry `app.files`. -/
theorem respelled_table_dodges_blacklist :
    (¬ ∀ s s' : WriteStatement, s.WellFormed → s'.WellFormed → Respelled s s' →
      ∀ g : BlacklistFilterGovernor, (g.shouldSkipTable (extractTableTarget s.text)).1 =
        (g.shouldSkipTable (extractTableTarget s'.text)).1) ∧
    ∀ s' ∈ respellings, s'.WellFormed ∧ Respelled appFiles s' ∧
      ((BlacklistFilterGovernor.ofConfig { tableBlacklist := ["app.files"] }).shouldSkipTable
        (extractTableTarget appFiles.text)).1 = .skipTable ∧
      ((BlacklistFilterGovernor.ofConfig { tableBlacklist := ["app.files"] }).shouldSkipTable
        (extractTableTarget s'.text)).1 = .allow := by
  have hskip : ((BlacklistFilterGovernor.ofConfig { tableBlacklist := ["app.files"] }).shouldSkipTable
      (extractTableTarget appFiles.text)).1 = .skipTable := by decide +kernel
  have hall : ∀ s' ∈ respellings, s'.WellFormed ∧ Respelled appFiles s' ∧
      ((BlacklistFilterGovernor.ofConfig { tableBlacklist := ["app.files"] }).shouldSkipTable
        (extractTableTarget appFiles.text)).1 = .skipTable ∧
      ((BlacklistFilterGovernor.ofConfig { tableBlacklist := ["app.files"] }).shouldSkipTable
        (extractTableTarget s'.text)).1 = .allow := by
    intro s' hs'
    simp only [respellings, List.mem_cons, List.not_mem_nil, or_false] at hs'
    rcases hs' with rfl | rfl | rfl
    · exact ⟨wellFormed_insertInto (by decide +kernel) (by decide +kernel) (by simp [isSpace])
          ⟨by simp, by simp⟩ (by simp) (by simp) isName_files,
        ⟨rfl, rfl, rfl, by decide +kernel, by decide +kernel, rfl⟩, hskip, by decide +kernel⟩
    · exact ⟨wellFormed_insertInto (by decide +kernel) (by decide +kernel) (by simp [isSpace])
          isName_app (by simp) (by simp) trivial,
        ⟨rfl, rfl, rfl, by decide +kernel, by decide +kernel, rfl⟩, hskip, by decide +kernel⟩
    · exact ⟨wellFormed_insertInto (by decide +kernel) (by decide +kernel) (by simp [isSpace])
          isName_app (by simp [isSpace]) (by simp) isName_files,
        ⟨rfl, rfl, rfl, by decide +kernel, by decide +kernel, rfl⟩, hskip, by decide +kernel⟩
  refine ⟨?_, hall⟩
  intro hclaim
  obtain ⟨hwell, hrespelled, _, hallow⟩ := hall _ List.mem_cons_self
  have halike := hclaim appFiles _ wellFormed_appFiles hwell hrespelled
    (.ofConfig { tableBlacklist := ["app.files"] })
  rw [hskip, hallow] at halike
  exact absurd halike (by decide)

end WriteStatement
end DualWriter
end ScyllaClusterSync
