import ScyllaClusterSync.DualWriter.SpellingTheorems

/-!
# When `extract_table_target` finds the table

It looks for three words as letters, wherever they stand: in the name of a column, in a
literal, in the name of the table. `readsTable_iff` says for every INSERT, UPDATE and DELETE
when the name of the table is what it returns.
-/

namespace ScyllaClusterSync
namespace DualWriter

/-! ## Where letters occur first -/

/-- The letters occur in the text at this position, and at none before it. -/
def FirstAt (letters : String) (text : List Char) (i : ℕ) : Prop :=
  letters.toList <+: text.drop i ∧ ∀ j < i, ¬ letters.toList <+: text.drop j

section FirstAt

variable {letters : String} {text : List Char} {i j : ℕ}

theorem FirstAt.isInfix (h : FirstAt letters text i) : letters.toList <:+: text :=
  h.1.isInfix.trans (List.drop_suffix i text).isInfix

theorem FirstAt.unique (h : FirstAt letters text i) (h' : FirstAt letters text j) : i = j := by
  rcases Nat.lt_trichotomy i j with hlt | heq | hgt
  · exact absurd h.1 (h'.2 i hlt)
  · exact heq
  · exact absurd h'.1 (h.2 j hgt)

/-- Letters that occur at a position occur first there or before. -/
theorem exists_firstAt (h : letters.toList <+: text.drop j) : ∃ i ≤ j, FirstAt letters text i := by
  induction j using Nat.strong_induction_on with
  | _ j ih =>
    by_cases hearlier : ∃ k < j, letters.toList <+: text.drop k
    · obtain ⟨k, hk, hpre⟩ := hearlier
      obtain ⟨i, hi, hfirst⟩ := ih k hk hpre
      exact ⟨i, by omega, hfirst⟩
    · refine ⟨j, le_rfl, h, ?_⟩
      intro k hk hpre
      exact hearlier ⟨k, hk, hpre⟩

theorem FirstAt.findSubstr (h : FirstAt letters text i) (hne : letters.toList ≠ []) :
    findSubstr text letters.toList = some i := by
  refine findSubstr_eq_some ?_ h.1 h.2
  by_contra hlong
  have hnil := h.1
  rw [List.drop_eq_nil_of_le (by omega), List.prefix_nil] at hnil
  exact hne hnil

theorem keywordEnd_of_into (h : FirstAt "INTO" text i) : keywordEnd text = some (i + 4) := by
  unfold keywordEnd
  rw [h.findSubstr (by simp)]

theorem keywordEnd_of_updateAt (hinto : ¬ "INTO".toList <:+: text) (h : FirstAt "UPDATE" text i) :
    keywordEnd text = some (i + 6) := by
  unfold keywordEnd
  rw [findSubstr_eq_none hinto, h.findSubstr (by simp)]

theorem keywordEnd_of_from (hinto : ¬ "INTO".toList <:+: text) (hupdate : ¬ "UPDATE".toList <:+: text)
    (h : FirstAt "FROM" text i) : keywordEnd text = some (i + 4) := by
  unfold keywordEnd
  rw [findSubstr_eq_none hinto, findSubstr_eq_none hupdate, h.findSubstr (by simp)]
  rfl

end FirstAt

namespace WriteStatement

variable {s : WriteStatement}

/-- The name has no white space, parenthesis or semicolon in it. -/
def PlainName (s : WriteStatement) : Prop := ∀ c ∈ s.nameText, endsName c = false

/-- White space, a parenthesis or a semicolon follows on the name, or nothing. -/
def StandsAlone (s : WriteStatement) : Prop := ∀ c ∈ s.restText.head?, endsName c

/-- From this position of the statement on there is white space at most, then its name, and what
follows on that ends it. -/
def NamedFrom (s : WriteStatement) (pos : ℕ) : Prop :=
  ∃ before rest, s.text.toList.drop pos = before ++ (s.nameText ++ rest) ∧
    (∀ c ∈ before, isSpace c) ∧ ∀ c ∈ rest.head?, endsName c

/-- Letters that are not the keyword in front of the name come first, and the same name happens
to follow on them: in an UPDATE the first INTO, in a DELETE the first INTO, without one the
first UPDATE, and without both a FROM in front of its own. -/
def NamedAgain (s : WriteStatement) : Prop :=
  match s.kind with
  | .insert => False
  | .update => ∃ i, FirstAt "INTO" s.upper i ∧ s.NamedFrom (i + 4)
  | .delete =>
    (∃ i, FirstAt "INTO" s.upper i ∧ s.NamedFrom (i + 4)) ∨
      (¬ "INTO".toList <:+: s.upper ∧ ∃ i, FirstAt "UPDATE" s.upper i ∧ s.NamedFrom (i + 6)) ∨
      (¬ "INTO".toList <:+: s.upper ∧ ¬ "UPDATE".toList <:+: s.upper ∧
        ∃ i < s.headText.length - 4, FirstAt "FROM" s.upper i ∧ s.NamedFrom (i + 4))

/-! ## The letters that are found -/

/-- The keyword of its own is in every statement. -/
theorem exists_keywordEnd_upper (hs : s.WellFormed) : ∃ pos, keywordEnd s.upper = some pos := by
  have hhead := hs.head
  cases hkind : s.kind with
  | insert =>
    have hfirst : s.OwnKeywordFirst := by
      unfold OwnKeywordFirst
      rw [hkind]
      trivial
    exact ⟨_, keywordEnd_upper hs hfirst⟩
  | update =>
    rw [hkind] at hhead
    obtain ⟨update, heq, utext, rfl, hupdate⟩ := hhead
    apply exists_keywordEnd
    refine Or.inr (Or.inl ⟨s.indent.map Char.toUpper,
      (s.before ++ (s.nameText ++ s.restText)).map Char.toUpper, ?_⟩)
    rw [upper_eq, ← hupdate]
    simp [headText, heq, Token.text]
  | delete =>
    rw [hkind] at hhead
    obtain ⟨delete, columns, keyword, heq, _, ftext, rfl, hkeyword⟩ := hhead
    apply exists_keywordEnd
    refine Or.inr (Or.inr ⟨(s.indent ++ (delete :: columns).flatMap Token.text).map Char.toUpper,
      (s.before ++ (s.nameText ++ s.restText)).map Char.toUpper, ?_⟩)
    rw [upper_eq, ← hkeyword]
    simp [headText, heq, Token.text]

/-- White space before a name can be told apart from it. -/
theorem eq_of_space_append {before before' rest rest' name : List Char}
    (hbefore : ∀ c ∈ before, isSpace c) (hbefore' : ∀ c ∈ before', isSpace c)
    (hname : ∃ c ∈ name.head?, isSpace c = false)
    (heq : before ++ (name ++ rest) = before' ++ (name ++ rest')) : rest = rest' := by
  obtain ⟨c, hc, hspace⟩ := hname
  have hstop : ∀ r, (name ++ r).dropWhile isSpace = name ++ r := by
    intro r
    cases name with
    | nil => simp at hc
    | cons d name =>
      obtain rfl : d = c := by simpa using hc
      rw [List.cons_append, List.dropWhile_cons, hspace]
      rfl
  have hdrop := congrArg (List.dropWhile isSpace) heq
  rw [List.dropWhile_append_of_pos hbefore, List.dropWhile_append_of_pos hbefore', hstop,
    hstop] at hdrop
  exact List.append_cancel_left hdrop

/-- Behind the keyword of its own a statement names its table once. -/
theorem namedFrom_iff_standsAlone (hs : s.WellFormed) :
    s.NamedFrom s.headText.length ↔ s.StandsAlone := by
  have hdrop : s.text.toList.drop s.headText.length =
      s.before ++ (s.nameText ++ s.restText) := by
    rw [text, String.toList_ofList, List.drop_left]
  obtain ⟨c, hc, hspace, _⟩ := exists_head_nameText hs
  constructor
  · intro hnamed
    obtain ⟨before, rest, htext, hbefore, hrest⟩ := hnamed
    have hsame : s.restText = rest :=
      eq_of_space_append hs.before hbefore ⟨c, hc, hspace⟩ (hdrop.symm.trans htext)
    unfold StandsAlone
    rw [hsame]
    exact hrest
  · intro halone
    exact ⟨s.before, s.restText, hdrop, hs.before, halone⟩

theorem not_namedAgain_of_ownKeywordFirst (hfirst : s.OwnKeywordFirst) : ¬ s.NamedAgain := by
  unfold OwnKeywordFirst at hfirst
  unfold NamedAgain
  cases hkind : s.kind with
  | insert => exact not_false
  | update =>
    rw [hkind] at hfirst
    intro hagain
    obtain ⟨i, hat, _⟩ := hagain
    exact hfirst hat.isInfix
  | delete =>
    rw [hkind] at hfirst
    obtain ⟨hinto, hupdate, hfrom⟩ := hfirst
    intro hagain
    rcases hagain with ⟨i, hat, _⟩ | ⟨_, i, hat, _⟩ | ⟨_, _, i, hi, hat, _⟩
    · exact hinto hat.isInfix
    · exact hupdate hat.isInfix
    · exact hfrom i hi hat.1

/-- A position that is found by its letters is the only one. -/
theorem exists_namedFrom_iff {letters : String} {i n : ℕ} (hat : FirstAt letters s.upper i) :
    (∃ j, FirstAt letters s.upper j ∧ s.NamedFrom (j + n)) ↔ s.NamedFrom (i + n) := by
  constructor
  · intro hex
    obtain ⟨j, hat', hnamed⟩ := hex
    rw [hat.unique hat']
    exact hnamed
  · intro hnamed
    exact ⟨i, hat, hnamed⟩

/-- Where other letters come first, what is read begins behind them. -/
theorem namedFrom_iff_namedAgain {pos : ℕ} (hpos : keywordEnd s.upper = some pos)
    (hother : ¬ s.OwnKeywordFirst) : s.NamedFrom pos ↔ s.NamedAgain := by
  unfold OwnKeywordFirst at hother
  unfold NamedAgain
  by_cases hinto : "INTO".toList <:+: s.upper
  · obtain ⟨k, _, hk⟩ := infix_iff_exists_drop.mp hinto
    obtain ⟨i, _, hat⟩ := exists_firstAt hk
    obtain rfl : pos = i + 4 := Option.some.inj (hpos.symm.trans (keywordEnd_of_into hat))
    cases hkind : s.kind with
    | insert => simp [hkind] at hother
    | update => exact (exists_namedFrom_iff hat).symm
    | delete =>
      simp only [hinto, not_true_eq_false, false_and, or_false]
      exact (exists_namedFrom_iff hat).symm
  · have hnone : ∀ n, ¬ ∃ i, FirstAt "INTO" s.upper i ∧ s.NamedFrom (i + n) := by
      intro n hex
      obtain ⟨i, hat, _⟩ := hex
      exact hinto hat.isInfix
    cases hkind : s.kind with
    | insert => simp [hkind] at hother
    | update =>
      rw [hkind] at hother
      exact absurd hinto hother
    | delete =>
      simp only [hnone, hinto, not_false_eq_true, true_and, false_or]
      by_cases hupdate : "UPDATE".toList <:+: s.upper
      · obtain ⟨k, _, hk⟩ := infix_iff_exists_drop.mp hupdate
        obtain ⟨i, _, hat⟩ := exists_firstAt hk
        obtain rfl : pos = i + 6 :=
          Option.some.inj (hpos.symm.trans (keywordEnd_of_updateAt hinto hat))
        simp only [hupdate, not_true_eq_false, false_and, or_false]
        exact (exists_namedFrom_iff hat).symm
      · -- no INTO and no UPDATE, so there is a FROM before the one in front of the name
        simp only [hkind, hinto, hupdate, not_false_eq_true, true_and, not_forall,
          Decidable.not_not] at hother
        obtain ⟨k, hk, hpre⟩ := hother
        obtain ⟨i, hi, hat⟩ := exists_firstAt hpre
        obtain rfl : pos = i + 4 :=
          Option.some.inj (hpos.symm.trans (keywordEnd_of_from hinto hupdate hat))
        have hnoUpdate : ¬ ∃ i, FirstAt "UPDATE" s.upper i ∧ s.NamedFrom (i + 6) := by
          intro hex
          obtain ⟨j, hat', _⟩ := hex
          exact hupdate hat'.isInfix
        simp only [hnoUpdate, hupdate, not_false_eq_true, true_and, false_or]
        constructor
        · intro hnamed
          exact ⟨i, by omega, hat, hnamed⟩
        · intro hex
          obtain ⟨j, _, hat', hnamed⟩ := hex
          rw [hat.unique hat']
          exact hnamed

/-! ## The result -/

/-- For every INSERT, UPDATE and DELETE: what is returned is the text of the table exactly
when the name is plain, and either the letters that come first are those of the keyword in
front of the name, which stands alone, or the name happens to follow on the others. -/
theorem readsTable_iff (s : WriteStatement) (hs : s.WellFormed) :
    extractTableTarget s.text = .ofList s.nameText ↔
      s.PlainName ∧ (s.OwnKeywordFirst ∧ s.StandsAlone ∨ s.NamedAgain) := by
  obtain ⟨pos, hpos⟩ := exists_keywordEnd_upper hs
  obtain ⟨c, hc, hspace, _⟩ := exists_head_nameText hs
  rw [extractTableTarget_eq_iff hpos ⟨c, hc, hspace⟩]
  apply and_congr_right'
  show s.NamedFrom pos ↔ _
  by_cases hfirst : s.OwnKeywordFirst
  · obtain rfl : pos = s.headText.length :=
      Option.some.inj (hpos.symm.trans (keywordEnd_upper hs hfirst))
    rw [namedFrom_iff_standsAlone hs, and_iff_right hfirst,
      or_iff_left (not_namedAgain_of_ownKeywordFirst hfirst)]
  · rw [namedFrom_iff_namedAgain hpos hfirst]
    simp [hfirst]

theorem readsTable_iff_appFiles : extractTableTarget appFiles.text = .ofList appFiles.nameText := by
  have hplain : appFiles.PlainName := by
    simp [PlainName, appFiles, insertInto, nameText, Token.text, endsName, isSpace]
  have halone : appFiles.StandsAlone := by
    simp [StandsAlone, appFiles, insertInto, restText, endsName, isSpace]
  exact (readsTable_iff appFiles wellFormed_appFiles).mpr ⟨hplain, Or.inl ⟨trivial, halone⟩⟩

/-- `UPDATE app.files SET printout = 1 WHERE id = 1`. -/
def setPrintout : WriteStatement where
  kind := .update
  indent := []
  head := [.word "UPDATE".toList]
  before := [' ']
  keyspace := some (.word "app".toList, [], [])
  table := .word "files".toList
  after := [' ']
  tail := [.word "SET".toList, .other [' '], .word "printout".toList, .other " = 1 ".toList,
    .word "WHERE".toList, .other [' '], .word "id".toList, .other " = 1".toList]

theorem wellFormed_setPrintout : setPrintout.WellFormed where
  indent := by simp [setPrintout]
  head := ⟨_, rfl, _, rfl, by decide +kernel⟩
  before := by simp [setPrintout, isSpace]
  keyspace := by
    intro keyspace hmem
    obtain rfl : (Token.word "app".toList, [], []) = keyspace := Option.some.inj hmem
    exact ⟨isName_app, by simp, by simp⟩
  table := isName_files
  after := by simp [setPrintout, isSpace]

/-- The column is taken for the keyword, and its last letters for the table. -/
theorem column_taken_for_keyword :
    (¬ ∀ s : WriteStatement, s.WellFormed → extractTableTarget s.text = .ofList s.nameText) ∧
      setPrintout.text = "UPDATE app.files SET printout = 1 WHERE id = 1" ∧
      extractTableTarget setPrintout.text = "ut" := by
  have hread : extractTableTarget setPrintout.text = "ut" := by decide +kernel
  refine ⟨?_, by decide +kernel, hread⟩
  intro hall
  have hname := hall setPrintout wellFormed_setPrintout
  rw [hread] at hname
  exact absurd hname (by decide +kernel)

end WriteStatement
end DualWriter
end ScyllaClusterSync
