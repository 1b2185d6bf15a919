import Mathlib

/-!
# `services/dual-writer/src/cql_server.cpp`: `is_write_query` and `extract_table_target`

The two functions that look at the text of a statement. They go through it byte by byte
with the `isspace` and `toupper` of the C locale.
-/

namespace ScyllaClusterSync
namespace DualWriter

/-- `std::isspace`: blank, and `\\t` to `\\r`. -/
def isSpace (c : Char) : Bool := c == ' ' || ('\t' ≤ c && c ≤ '\r')

theorem isSpace_iff {c : Char} : isSpace c ↔ c = ' ' ∨ ('\t' ≤ c ∧ c ≤ '\r') := by
  simp [isSpace]

/-- `starts_with_ci`. -/
def startsWithCi (sv pre : List Char) : Bool :=
  pre.length ≤ sv.length && (sv.take pre.length).map Char.toUpper == pre.map Char.toUpper

/-- `is_write_query`. -/
def isWriteQuery (query : String) : Bool :=
  let trimmed := query.toList.dropWhile isSpace
  startsWithCi trimmed "INSERT".toList || startsWithCi trimmed "UPDATE".toList ||
    startsWithCi trimmed "DELETE".toList

/-- `std::string::find`: the first position at which `needle` occurs. -/
def findSubstr (hay needle : List Char) : Option ℕ :=
  (List.range (hay.length + 1)).find? fun i => needle.isPrefixOf (hay.drop i)

theorem infix_iff_exists_drop {hay needle : List Char} :
    needle <:+: hay ↔ ∃ i ≤ hay.length, needle <+: hay.drop i := by
  constructor
  · intro hinfix
    obtain ⟨pre, post, rfl⟩ := hinfix
    refine ⟨pre.length, by simp, post, ?_⟩
    rw [List.append_assoc, List.drop_left]
  · intro hex
    obtain ⟨i, _, hpre⟩ := hex
    exact hpre.isInfix.trans (List.drop_suffix i hay).isInfix

theorem findSubstr_eq_some {hay needle : List Char} {n : ℕ} (hn : n ≤ hay.length)
    (hpre : needle <+: hay.drop n) (hfirst : ∀ i < n, ¬ needle <+: hay.drop i) :
    findSubstr hay needle = some n := by
  unfold findSubstr
  rw [List.find?_range_eq_some]
  refine ⟨List.isPrefixOf_iff_prefix.mpr hpre, List.mem_range.mpr (by omega), ?_⟩
  intro i hi
  rw [Bool.not_eq_true', Bool.eq_false_iff]
  exact fun hpre => hfirst i hi (List.isPrefixOf_iff_prefix.mp hpre)

theorem findSubstr_eq_none {hay needle : List Char} (hnone : ¬ needle <:+: hay) :
    findSubstr hay needle = none := by
  unfold findSubstr
  rw [List.find?_eq_none]
  intro i hi hpre
  refine hnone (infix_iff_exists_drop.mpr ⟨i, ?_, List.isPrefixOf_iff_prefix.mp hpre⟩)
  rw [List.mem_range] at hi
  omega

theorem exists_findSubstr {hay needle : List Char} (h : needle <:+: hay) :
    ∃ n, findSubstr hay needle = some n := by
  cases hfind : findSubstr hay needle with
  | some n => exact ⟨n, rfl⟩
  | none =>
    obtain ⟨i, hi, hpre⟩ := infix_iff_exists_drop.mp h
    have hnone := List.find?_eq_none.mp hfind i (List.mem_range.mpr (by omega))
    exact absurd (List.isPrefixOf_iff_prefix.mpr hpre) hnone

/-- The position after the keyword `extract_table_target` goes by. -/
def keywordEnd (upper : List Char) : Option ℕ :=
  match findSubstr upper "INTO".toList with
  | some idx => some (idx + 4)
  | none =>
    match findSubstr upper "UPDATE".toList with
    | some idx2 => some (idx2 + 6)
    | none => (findSubstr upper "FROM".toList).map fun idx3 => idx3 + 4

theorem exists_keywordEnd {upper : List Char} (h : "INTO".toList <:+: upper ∨
    "UPDATE".toList <:+: upper ∨ "FROM".toList <:+: upper) : ∃ pos, keywordEnd upper = some pos := by
  unfold keywordEnd
  cases hinto : findSubstr upper "INTO".toList with
  | some n => exact ⟨n + 4, rfl⟩
  | none =>
    cases hupdate : findSubstr upper "UPDATE".toList with
    | some n => exact ⟨n + 6, rfl⟩
    | none =>
      rcases h with h | h | h
      · obtain ⟨n, hn⟩ := exists_findSubstr h
        rw [hinto] at hn
        cases hn
      · obtain ⟨n, hn⟩ := exists_findSubstr h
        rw [hupdate] at hn
        cases hn
      · obtain ⟨n, hn⟩ := exists_findSubstr h
        exact ⟨n + 4, by rw [hn]; rfl⟩

/-- `extract_table_target`. -/
def extractTableTarget (query : String) : String :=
  let upper := query.toList.map Char.toUpper
  match keywordEnd upper with
  | none => "unknown"
  | some pos =>
    let token := (query.toList.drop pos).dropWhile isSpace
    .ofList (token.takeWhile fun c => !isSpace c && c != '(' && c != ';')

example : extractTableTarget "insert  into ks.users(id) VALUES (1)" = "ks.users" := by decide

/-- A character at which the name of the table ends. -/
def endsName (c : Char) : Bool := isSpace c || c == '(' || c == ';'

/-- What is read of a text that stands behind the keyword and some white space. -/
theorem extractTableTarget_eq {query : String} {pos : ℕ} {before name : List Char}
    (hpos : keywordEnd (query.toList.map Char.toUpper) = some pos)
    (htext : query.toList.drop pos = before ++ name) (hbefore : ∀ c ∈ before, isSpace c)
    (hname : ∃ c ∈ name.head?, isSpace c = false) :
    extractTableTarget query = .ofList (name.takeWhile fun c => !endsName c) := by
  have hkeep : (fun c => !isSpace c && c != '(' && c != ';') = fun c => !endsName c := by
    funext c
    simp [endsName, bne, Bool.and_assoc]
  have hdrop : (before ++ name).dropWhile isSpace = name := by
    rw [List.dropWhile_append_of_pos hbefore]
    obtain ⟨c, hc, hspace⟩ := hname
    cases name with
    | nil => rfl
    | cons c' name =>
      obtain rfl : c' = c := by simpa using hc
      rw [List.dropWhile_cons, hspace]
      rfl
  unfold extractTableTarget
  simp only [hpos, htext, hdrop, hkeep]

/-- A name is what is read exactly when nothing in it ends a name, and behind the keyword
and some white space it stands in front of something that does. -/
theorem extractTableTarget_eq_iff {query : String} {pos : ℕ} {name : List Char}
    (hpos : keywordEnd (query.toList.map Char.toUpper) = some pos)
    (hname : ∃ c ∈ name.head?, isSpace c = false) :
    extractTableTarget query = .ofList name ↔ (∀ c ∈ name, endsName c = false) ∧
      ∃ before rest, query.toList.drop pos = before ++ (name ++ rest) ∧
        (∀ c ∈ before, isSpace c) ∧ ∀ c ∈ rest.head?, endsName c := by
  constructor
  · -- what is skipped, what is read and what is left make up the text
    intro hread
    have hkeep : (fun c => !isSpace c && c != '(' && c != ';') = fun c => !endsName c := by
      funext c
      simp [endsName, bne, Bool.and_assoc]
    simp only [extractTableTarget, hpos, hkeep, String.ofList_inj] at hread
    refine ⟨?_, (query.toList.drop pos).takeWhile isSpace,
      ((query.toList.drop pos).dropWhile isSpace).dropWhile fun c => !endsName c, ?_, ?_, ?_⟩
    · intro c hc
      rw [← hread] at hc
      simpa using List.mem_takeWhile_imp hc
    · rw [← hread, List.takeWhile_append_dropWhile, List.takeWhile_append_dropWhile]
    · exact fun c hc => List.mem_takeWhile_imp hc
    · intro c hc
      have hends := List.head?_dropWhile_not (fun c => !endsName c)
        ((query.toList.drop pos).dropWhile isSpace)
      rw [Option.mem_def.mp hc] at hends
      simpa using hends
  · intro hstands
    obtain ⟨hplain, before, rest, htext, hbefore, hrest⟩ := hstands
    have hhead : ∃ c ∈ (name ++ rest).head?, isSpace c = false := by
      obtain ⟨c, hc, hspace⟩ := hname
      refine ⟨c, ?_, hspace⟩
      cases name with
      | nil => simp at hc
      | cons d name => exact hc
    -- reading stops at the first character behind the name
    have hstop : rest.takeWhile (fun c => !endsName c) = [] := by
      cases rest with
      | nil => rfl
      | cons c rest => rw [List.takeWhile_cons, hrest c rfl]; rfl
    rw [extractTableTarget_eq hpos htext hbefore hhead,
      List.takeWhile_append_of_pos fun c hc => by rw [hplain c hc]; rfl, hstop, List.append_nil]

end DualWriter
end ScyllaClusterSync
