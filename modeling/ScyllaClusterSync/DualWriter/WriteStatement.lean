import ScyllaClusterSync.DualWriter.CqlText

/-!
# INSERT, UPDATE and DELETE as they are written

A statement, cut where it names its table. CQL reads an unquoted identifier in any letter
case, and the same as the lower-case one between double quotes, and it does not look at the
white space around the name of the table and its dot: `Respelled` relates two statements
that differ in nothing else.

`extract_table_target` does not read CQL. It takes what stands behind the first INTO, else
the first UPDATE, else the first FROM; `OwnKeywordFirst` says that this is the keyword in
front of the table.
-/

namespace ScyllaClusterSync
namespace DualWriter

/-! ## Tokens -/

/-- A piece of a statement. -/
inductive Token where
  /-- A keyword or an unquoted identifier. -/
  | word (text : List Char)
  /-- An identifier between double quotes. -/
  | quoted (text : List Char)
  /-- A literal, an operator or white space. -/
  | other (text : List Char)
deriving DecidableEq

namespace Token

/-- The token as it is written. -/
def text : Token → List Char
  | .word text => text
  | .quoted text => '"' :: (text ++ ['"'])
  | .other text => text

end Token

/-- An identifier that need not be quoted to keep its case. -/
def isLowerIdentifier : List Char → Bool
  | [] => false
  | c :: rest => c.isLower && rest.all fun c => c.isLower || c.isDigit || c == '_'

namespace Token

/-- What CQL reads: quotes around a lower-case identifier and the case of an unquoted one
make no difference. -/
def read : Token → Token
  | .word text => .word (text.map Char.toLower)
  | .quoted text => if isLowerIdentifier text then .word text else .quoted text
  | .other text => .other text

/-- The name of a keyspace or of a table. -/
def IsName : Token → Prop
  | .word text => text ≠ [] ∧ ∀ c ∈ text, c.isAlphanum ∨ c = '_'
  | .quoted _ => True
  | .other _ => False

/-- This keyword, in any letter case. -/
def IsKeyword (keyword : String) (t : Token) : Prop :=
  ∃ text, t = .word text ∧ text.map Char.toUpper = keyword.toList

end Token

/-! ## Statements -/

inductive WriteKind where
  | insert
  | update
  | delete
deriving DecidableEq

/-- A statement, cut before and behind the name of its table. -/
structure WriteStatement where
  kind : WriteKind
  /-- White space before the statement. -/
  indent : List Char
  /-- Up to the keyword in front of the name. -/
  head : List Token
  before : List Char
  /-- The keyspace, with the white space before and behind the dot. -/
  keyspace : Option (Token × List Char × List Char)
  table : Token
  after : List Char
  tail : List Token

namespace WriteStatement

variable (s : WriteStatement)

def headText : List Char := s.indent ++ s.head.flatMap Token.text

/-- The name as it is written. -/
def nameText : List Char :=
  match s.keyspace with
  | none => s.table.text
  | some (keyspace, beforeDot, afterDot) =>
    keyspace.text ++ (beforeDot ++ '.' :: (afterDot ++ s.table.text))

def restText : List Char := s.after ++ s.tail.flatMap Token.text

def text : String := .ofList (s.headText ++ (s.before ++ (s.nameText ++ s.restText)))

/-- The text in which the keyword is searched. -/
def upper : List Char := s.text.toList.map Char.toUpper

/-- What stands before the name of the table, behind some white space. -/
def IsHead : WriteKind → List Token → Prop
  | .insert, head => ∃ insert space into, head = [insert, .other space, into] ∧
    insert.IsKeyword "INSERT" ∧ (∀ c ∈ space, isSpace c) ∧ into.IsKeyword "INTO"
  | .update, head => ∃ update, head = [update] ∧ update.IsKeyword "UPDATE"
  | .delete, head => ∃ delete columns keyword, head = delete :: (columns ++ [keyword]) ∧
    delete.IsKeyword "DELETE" ∧ keyword.IsKeyword "FROM"

/-- The parts are what they are called. -/
structure WellFormed : Prop where
  indent : ∀ c ∈ s.indent, isSpace c
  head : IsHead s.kind s.head
  before : ∀ c ∈ s.before, isSpace c
  keyspace : ∀ keyspace ∈ s.keyspace, keyspace.1.IsName ∧ (∀ c ∈ keyspace.2.1, isSpace c) ∧
    ∀ c ∈ keyspace.2.2, isSpace c
  table : s.table.IsName
  after : ∀ c ∈ s.after, isSpace c

/-- The two name the same table in CQL, and say the same about it. -/
structure Respelled (s s' : WriteStatement) : Prop where
  kind : s.kind = s'.kind
  indent : s.indent = s'.indent
  head : s.head.map Token.read = s'.head.map Token.read
  keyspace : s.keyspace.map (fun keyspace => keyspace.1.read) =
    s'.keyspace.map fun keyspace => keyspace.1.read
  table : s.table.read = s'.table.read
  tail : s.tail.map Token.read = s'.tail.map Token.read

/-- The keyword that `extract_table_target` goes by is the one in front of the table. -/
def OwnKeywordFirst : Prop :=
  match s.kind with
  | .insert => True
  | .update => ¬ "INTO".toList <:+: s.upper
  | .delete => ¬ "INTO".toList <:+: s.upper ∧ ¬ "UPDATE".toList <:+: s.upper ∧
    ∀ i < s.headText.length - 4, ¬ "FROM".toList <+: s.upper.drop i

/-- What is read as the name: up to the next white space, parenthesis or semicolon. -/
def writtenName : List Char := (s.nameText ++ s.restText).takeWhile fun c => !endsName c

/-! ## The keyword -/

variable {s}

theorem upper_eq : s.upper = s.headText.map Char.toUpper ++
    (s.before ++ (s.nameText ++ s.restText)).map Char.toUpper := by
  rw [upper, text, String.toList_ofList, List.map_append]

/-- White space stays white space. -/
theorem isSpace_toUpper {c : Char} (hc : isSpace c) : isSpace c.toUpper := by
  rcases isSpace_iff.mp hc with rfl | ⟨hlow, hhigh⟩
  · decide
  · have hlow' : 9 ≤ c.toNat := hlow
    have hhigh' : c.toNat ≤ 13 := hhigh
    have heq : Char.ofNat c.toNat = c := Char.ofNat_toNat c
    rw [← heq]
    generalize c.toNat = n at hlow' hhigh'
    interval_cases n <;> decide

theorem toUpper_ne_of_isSpace {c d : Char} (hc : isSpace c) (hd : isSpace d = false) :
    c.toUpper ≠ d := by
  intro heq
  rw [← heq, isSpace_toUpper hc] at hd
  exact absurd hd (by decide)

/-- A text does not occur where another character stands in the place of one of its own. -/
theorem not_prefix_drop {hay needle : List Char} {i j : ℕ} {c d : Char}
    (hneedle : needle[j]? = some c) (hhay : hay[i + j]? = some d) (hne : d ≠ c) :
    ¬ needle <+: hay.drop i := by
  intro hpre
  obtain ⟨post, heq⟩ := hpre
  have hj : j < needle.length := (List.getElem?_eq_some_iff.mp hneedle).1
  have hget : (needle ++ post)[j]? = hay[i + j]? := by rw [heq, List.getElem?_drop]
  rw [List.getElem?_append_left hj, hneedle, hhay, Option.some.injEq] at hget
  exact hne hget.symm

/-- A keyword does not start in white space. -/
theorem not_prefix_drop_space {space hay needle : List Char} {c : Char} {i : ℕ}
    (hspace : ∀ d ∈ space, isSpace d) (hneedle : needle[0]? = some c) (hc : isSpace c = false)
    (hi : i < space.length) : ¬ needle <+: (space.map Char.toUpper ++ hay).drop i := by
  have hi' : i < (space.map Char.toUpper).length := by
    rw [List.length_map]
    exact hi
  have hget : (space.map Char.toUpper ++ hay)[i + 0]? = some (space[i].toUpper) := by
    rw [Nat.add_zero, List.getElem?_append_left hi', List.getElem?_map,
      List.getElem?_eq_getElem hi]
    rfl
  exact not_prefix_drop hneedle hget (toUpper_ne_of_isSpace (hspace _ (List.getElem_mem hi)) hc)

/-- What comes first in a text comes first behind some white space. -/
theorem findSubstr_space {space hay needle : List Char} {c : Char} {n : ℕ}
    (hspace : ∀ d ∈ space, isSpace d) (hneedle : needle[0]? = some c) (hc : isSpace c = false)
    (hn : n ≤ hay.length) (hpre : needle <+: hay.drop n)
    (hfirst : ∀ i < n, ¬ needle <+: hay.drop i) :
    findSubstr (space.map Char.toUpper ++ hay) needle = some (space.length + n) := by
  have hlen : (space.map Char.toUpper).length = space.length := List.length_map _
  have hdrop : ∀ i, (space.map Char.toUpper ++ hay).drop (space.length + i) = hay.drop i := by
    intro i
    rw [← hlen]
    exact List.drop_length_add_append ..
  apply findSubstr_eq_some
  · rw [List.length_append, hlen]
    omega
  · rw [hdrop]
    exact hpre
  · intro i hi
    by_cases hin : i < space.length
    · exact not_prefix_drop_space hspace hneedle hc hin
    · obtain ⟨k, rfl⟩ := Nat.exists_eq_add_of_le (not_lt.mp hin)
      rw [hdrop]
      exact hfirst k (by omega)

/-- INSERT and white space: no INTO before the keyword. -/
theorem keywordEnd_insert {indent space rest : List Char} (hindent : ∀ c ∈ indent, isSpace c)
    (hspace : ∀ c ∈ space, isSpace c) :
    keywordEnd (indent.map Char.toUpper ++
        ("INSERT".toList ++ (space.map Char.toUpper ++ ("INTO".toList ++ rest)))) =
      some (indent.length + (6 + space.length) + 4) := by
  have hdrop : ∀ i, ("INSERT".toList ++ (space.map Char.toUpper ++ ("INTO".toList ++ rest))).drop
      (6 + i) = (space.map Char.toUpper ++ ("INTO".toList ++ rest)).drop i := by
    intro i
    rw [show 6 + i = "INSERT".toList.length + i from rfl]
    exact List.drop_length_add_append ..
  have hfind : findSubstr (indent.map Char.toUpper ++
      ("INSERT".toList ++ (space.map Char.toUpper ++ ("INTO".toList ++ rest)))) "INTO".toList =
        some (indent.length + (6 + space.length)) := by
    apply findSubstr_space hindent (c := 'I') rfl (by decide)
    · simp
      omega
    · rw [hdrop, List.drop_left' (List.length_map _)]
      exact List.prefix_append _ _
    · -- earlier positions: inside INSERT, or in the white space behind it
      intro i hi
      by_cases hin : i < 6
      · -- the letters of INSERT: only the first is an I, and is followed by NS
        interval_cases i
        · exact not_prefix_drop (j := 2) (c := 'T') (d := 'S') rfl rfl (by decide)
        all_goals exact not_prefix_drop (j := 0) (c := 'I') rfl rfl (by decide)
      · obtain ⟨k, rfl⟩ := Nat.exists_eq_add_of_le (not_lt.mp hin)
        rw [hdrop]
        exact not_prefix_drop_space hspace (c := 'I') rfl (by decide) (by omega)
  unfold keywordEnd
  rw [hfind]

/-- UPDATE, in a text without INTO. -/
theorem keywordEnd_update {indent rest : List Char} (hindent : ∀ c ∈ indent, isSpace c)
    (hinto : ¬ "INTO".toList <:+: indent.map Char.toUpper ++ ("UPDATE".toList ++ rest)) :
    keywordEnd (indent.map Char.toUpper ++ ("UPDATE".toList ++ rest)) =
      some (indent.length + 0 + 6) := by
  have hfind : findSubstr (indent.map Char.toUpper ++ ("UPDATE".toList ++ rest)) "UPDATE".toList =
      some (indent.length + 0) := by
    apply findSubstr_space hindent (c := 'U') rfl (by decide)
    · exact Nat.zero_le _
    · exact List.prefix_append _ _
    · intro i hi
      exact absurd hi (Nat.not_lt_zero i)
  unfold keywordEnd
  rw [findSubstr_eq_none hinto, hfind]

/-- The first FROM, in a text without INTO and UPDATE. -/
theorem keywordEnd_delete {front rest : List Char}
    (hinto : ¬ "INTO".toList <:+: front ++ ("FROM".toList ++ rest))
    (hupdate : ¬ "UPDATE".toList <:+: front ++ ("FROM".toList ++ rest))
    (hfrom : ∀ i < front.length, ¬ "FROM".toList <+: (front ++ ("FROM".toList ++ rest)).drop i) :
    keywordEnd (front ++ ("FROM".toList ++ rest)) = some (front.length + 4) := by
  have hfind : findSubstr (front ++ ("FROM".toList ++ rest)) "FROM".toList = some front.length := by
    apply findSubstr_eq_some
    · simp
    · rw [List.drop_left]
      exact List.prefix_append _ _
    · exact hfrom
  unfold keywordEnd
  rw [findSubstr_eq_none hinto, findSubstr_eq_none hupdate, hfind]
  rfl

/-- The keyword that is found ends where the head does. -/
theorem keywordEnd_upper (hs : s.WellFormed) (hfirst : s.OwnKeywordFirst) :
    keywordEnd s.upper = some s.headText.length := by
  have hhead := hs.head
  unfold OwnKeywordFirst at hfirst
  cases hkind : s.kind with
  | insert =>
    rw [hkind] at hhead
    obtain ⟨insert, space, into, heq, ⟨itext, rfl, hinsert⟩, hspace, otext, rfl, hinto⟩ := hhead
    have htext : s.headText = s.indent ++ (itext ++ (space ++ otext)) := by
      simp [headText, heq, Token.text]
    -- in capitals the head is the keywords with white space, whatever their spelling
    have hilen : itext.length = 6 := by simpa using congrArg List.length hinsert
    have holen : otext.length = 4 := by simpa using congrArg List.length hinto
    rw [upper_eq, htext]
    simp only [List.map_append, hinsert, hinto, List.append_assoc, List.length_append, hilen, holen]
    rw [keywordEnd_insert hs.indent hspace, Nat.add_assoc, Nat.add_assoc]
  | update =>
    rw [hkind] at hhead hfirst
    obtain ⟨update, heq, utext, rfl, hupdate⟩ := hhead
    have htext : s.headText = s.indent ++ utext := by simp [headText, heq, Token.text]
    have hulen : utext.length = 6 := by simpa using congrArg List.length hupdate
    have hinto : ¬ "INTO".toList <:+: s.upper := hfirst
    rw [upper_eq, htext, List.map_append, hupdate, List.append_assoc] at hinto ⊢
    rw [keywordEnd_update hs.indent hinto, List.length_append, hulen, Nat.add_zero]
  | delete =>
    rw [hkind] at hhead hfirst
    obtain ⟨delete, columns, keyword, heq, _, ftext, rfl, hkeyword⟩ := hhead
    have hfront : ∃ front, s.headText = front ++ ftext := by
      refine ⟨s.indent ++ (delete :: columns).flatMap Token.text, ?_⟩
      rw [headText, heq, ← List.cons_append, List.flatMap_append, List.append_assoc]
      simp [Token.text]
    obtain ⟨front, htext⟩ := hfront
    have hflen : ftext.length = 4 := by simpa using congrArg List.length hkeyword
    -- columns may stand between DELETE and FROM, so the FROM of the head has to be the first
    obtain ⟨hinto, hupdate, hfrom⟩ := hfirst
    have hlen : s.headText.length - 4 = (front.map Char.toUpper).length := by
      rw [htext, List.length_append, List.length_map]
      omega
    rw [hlen] at hfrom
    rw [upper_eq, htext, List.map_append, hkeyword, List.append_assoc] at hinto hupdate hfrom ⊢
    rw [keywordEnd_delete hinto hupdate hfrom, List.length_append, List.length_map, hflen]

/-! ## The name -/

/-- A character of an unquoted identifier is no white space and no asterisk. -/
theorem isSpace_of_wordChar {c : Char} (hc : c.isAlphanum ∨ c = '_') :
    isSpace c = false ∧ c ≠ '*' := by
  -- every word character lies above the codes of white space and of the asterisk
  have hlow : 48 ≤ c.toNat := by
    rcases hc with hc | rfl
    · simp only [Char.isAlphanum, Char.isAlpha, Char.isUpper, Char.isLower, Char.isDigit,
        Bool.or_eq_true, Bool.and_eq_true, decide_eq_true_eq, ge_iff_le, UInt32.le_iff_toNat_le] at hc
      have hval : c.toNat = c.val.toNat := rfl
      have hA : 'A'.val.toNat = 65 := rfl
      have ha : 'a'.val.toNat = 97 := rfl
      have hzero : '0'.val.toNat = 48 := rfl
      omega
    · decide
  constructor
  · rw [Bool.eq_false_iff]
    intro hspace
    rcases isSpace_iff.mp hspace with rfl | ⟨_, hhigh⟩
    · exact absurd hlow (by decide)
    · have hhigh' : c.toNat ≤ 13 := hhigh
      omega
  · intro heq
    rw [heq] at hlow
    exact absurd hlow (by decide)

theorem head?_text_of_isName {t : Token} (ht : t.IsName) :
    ∃ c ∈ t.text.head?, isSpace c = false ∧ c ≠ '*' := by
  cases t with
  | word text =>
    obtain ⟨hne, hall⟩ := ht
    cases text with
    | nil => exact absurd rfl hne
    | cons c rest =>
      exact ⟨c, rfl, isSpace_of_wordChar (hall c List.mem_cons_self)⟩
  | quoted text => exact ⟨'"', rfl, by decide, by decide⟩
  | other text => exact ht.elim

theorem exists_head_append {l rest : List Char} (h : ∃ c ∈ l.head?, isSpace c = false ∧ c ≠ '*') :
    ∃ c ∈ (l ++ rest).head?, isSpace c = false ∧ c ≠ '*' := by
  obtain ⟨c, hc, hprops⟩ := h
  refine ⟨c, ?_, hprops⟩
  cases l with
  | nil => simp at hc
  | cons d l => exact hc

/-- The name starts with a character of an identifier, or with a quote. -/
theorem exists_head_nameText (hs : s.WellFormed) :
    ∃ c ∈ s.nameText.head?, isSpace c = false ∧ c ≠ '*' := by
  unfold nameText
  cases hks : s.keyspace with
  | none => exact head?_text_of_isName hs.table
  | some keyspace =>
    exact exists_head_append (head?_text_of_isName (hs.keyspace keyspace hks).1)

theorem head?_nameText (hs : s.WellFormed) :
    ∃ c ∈ (s.nameText ++ s.restText).head?, isSpace c = false ∧ c ≠ '*' :=
  exists_head_append (exists_head_nameText hs)

/-- `extract_table_target` reads from the start of the name on. -/
theorem extractTableTarget_text (hs : s.WellFormed) (hfirst : s.OwnKeywordFirst) :
    extractTableTarget s.text = .ofList s.writtenName := by
  have hdrop : s.text.toList.drop s.headText.length =
      s.before ++ (s.nameText ++ s.restText) := by
    rw [text, String.toList_ofList, List.drop_left]
  obtain ⟨c, hc, hspace, _⟩ := head?_nameText hs
  exact extractTableTarget_eq (keywordEnd_upper hs hfirst) hdrop hs.before ⟨c, hc, hspace⟩

end WriteStatement
end DualWriter
end ScyllaClusterSync
