import ScyllaClusterSync.DualWriter.WriteStatement

/-!
# Which statements `is_write_query` accepts

`is_write_query` skips white space and compares the next six letters. CQL also skips
comments, and then reads a whole word. A batch is none of the three statements, and like
`OP_BATCH` its text goes to the source alone.
-/

namespace ScyllaClusterSync
namespace DualWriter

/-! ## The first word of a statement, as CQL reads it -/

/-- What follows a comment up to the end of its line. -/
def afterLine (cs : List Char) : List Char :=
  (cs.dropWhile fun c => c != '\n' && c != '\r').drop 1

/-- What follows a comment between `/*` and `*/`. -/
def afterBlock : List Char → List Char
  | '*' :: '/' :: rest => rest
  | _ :: rest => afterBlock rest
  | [] => []

theorem length_afterLine_le (cs : List Char) : (afterLine cs).length ≤ cs.length := by
  have hdrop := (List.dropWhile_suffix (fun c => c != '\n' && c != '\r') (l := cs)).length_le
  rw [afterLine, List.length_drop]
  omega

theorem length_afterBlock_le (cs : List Char) : (afterBlock cs).length ≤ cs.length := by
  induction cs using afterBlock.induct with
  | case1 rest =>
    simp only [afterBlock, List.length_cons]
    omega
  | case2 c rest hne ih =>
    rw [afterBlock, List.length_cons]
    · omega
    · exact hne
  | case3 => exact Nat.le_refl _

/-- White space and comments are skipped. -/
def skipTrivia : List Char → List Char
  | '-' :: '-' :: rest => skipTrivia (afterLine rest)
  | '/' :: '/' :: rest => skipTrivia (afterLine rest)
  | '/' :: '*' :: rest => skipTrivia (afterBlock rest)
  | c :: rest => if isSpace c then skipTrivia rest else c :: rest
  | [] => []
termination_by cs => cs.length
decreasing_by
  · have hle := length_afterLine_le rest
    simp only [List.length_cons]
    omega
  · have hle := length_afterLine_le rest
    simp only [List.length_cons]
    omega
  · have hle := length_afterBlock_le rest
    simp only [List.length_cons]
    omega
  · simp

def isWordChar (c : Char) : Bool := c.isAlphanum || c == '_'

/-- The next word in capitals, and what follows it. -/
def nextWord (cs : List Char) : List Char × List Char :=
  (((skipTrivia cs).takeWhile isWordChar).map Char.toUpper, (skipTrivia cs).dropWhile isWordChar)

def firstWord (query : String) : List Char := (nextWord query.toList).1

/-- The words of `is_write_query`. -/
def writeKeywords : List (List Char) := ["INSERT".toList, "UPDATE".toList, "DELETE".toList]

/-- `BEGIN [UNLOGGED | COUNTER] BATCH`. -/
def IsBatch (query : String) : Prop :=
  let (first, rest) := nextWord query.toList
  let (second, rest) := nextWord rest
  first = "BEGIN".toList ∧ (second = "BATCH".toList ∨
    (second = "UNLOGGED".toList ∨ second = "COUNTER".toList) ∧ (nextWord rest).1 = "BATCH".toList)

/-- No statement of CQL begins with a longer word that starts like one of the three. -/
def StartsAsCql (query : String) : Prop :=
  ∀ keyword ∈ writeKeywords, keyword <+: firstWord query → firstWord query = keyword

/-- The words with which the statements of CQL begin. -/
def statementKeywords : List (List Char) :=
  ["SELECT", "INSERT", "UPDATE", "DELETE", "BEGIN", "TRUNCATE", "USE", "CREATE", "ALTER", "DROP",
    "GRANT", "REVOKE", "LIST", "DESCRIBE", "DESC", "PRUNE", "ATTACH", "DETACH"].map String.toList

theorem startsAsCql_of_mem {query : String} (h : firstWord query ∈ statementKeywords) :
    StartsAsCql query := by
  have hall : ∀ word ∈ statementKeywords, ∀ keyword ∈ writeKeywords, keyword <+: word →
      word = keyword := by decide +kernel
  exact hall (firstWord query) h

/-- The first word is one of the three, or the statement is a batch. -/
def IsModification (query : String) : Prop := firstWord query ∈ writeKeywords ∨ IsBatch query

/-- Nothing but white space stands before the first word. -/
def NoLeadingComment (query : String) : Prop :=
  skipTrivia query.toList = query.toList.dropWhile isSpace

/-! ## Skipping -/

theorem skipTrivia_cons_space {c : Char} (hc : isSpace c) (rest : List Char) :
    skipTrivia (c :: rest) = skipTrivia rest := by
  rw [skipTrivia, if_pos hc]
  all_goals
    rintro rest' rfl
    exact absurd hc (by decide)

/-- A character that is no white space and opens no comment ends the skipping. -/
theorem skipTrivia_cons {c : Char} (hspace : isSpace c = false) (hdash : c ≠ '-') (hslash : c ≠ '/')
    (rest : List Char) : skipTrivia (c :: rest) = c :: rest := by
  rw [skipTrivia, if_neg (by rw [hspace]; decide)]
  · intro rest' heq
    exact absurd heq hdash
  · intro rest' heq
    exact absurd heq hslash
  · intro rest' heq
    exact absurd heq hslash

theorem skipTrivia_dropWhile (cs : List Char) :
    skipTrivia (cs.dropWhile isSpace) = skipTrivia cs := by
  induction cs with
  | nil => rfl
  | cons c rest ih =>
    cases hc : isSpace c with
    | true => rw [List.dropWhile_cons, if_pos hc, ih, skipTrivia_cons_space hc]
    | false => rw [List.dropWhile_cons, if_neg (by rw [hc]; decide)]

/-! ## Letters in any case -/

theorem startsWithCi_iff {sv pre : List Char} :
    startsWithCi sv pre = true ↔ pre.map Char.toUpper <+: sv.map Char.toUpper := by
  unfold startsWithCi
  rw [Bool.and_eq_true, decide_eq_true_eq, beq_iff_eq, List.prefix_iff_eq_take, List.length_map,
    ← List.map_take]
  constructor
  · intro hboth
    exact hboth.2.symm
  · intro heq
    have hlen := congrArg List.length heq
    rw [List.length_map, List.length_map, List.length_take] at hlen
    exact ⟨by omega, heq.symm⟩

/-- What becomes a capital letter is a letter. -/
theorem isWordChar_of_toUpper {c : Char} (hc : c.toUpper.isUpper) : isWordChar c := by
  by_cases hlower : c.val ≥ 'a'.val ∧ c.val ≤ 'z'.val
  · have hisLower : c.isLower = true := by
      unfold Char.isLower
      rw [decide_eq_true hlower.1, decide_eq_true hlower.2]
      rfl
    simp [isWordChar, Char.isAlphanum, Char.isAlpha, hisLower]
  · have hsame : c.toUpper = c := by
      unfold Char.toUpper
      rw [dif_neg hlower]
    rw [hsame] at hc
    simp [isWordChar, Char.isAlphanum, Char.isAlpha, hc]

/-- Capital letters at the front of a text belong to its first word. -/
theorem prefix_map_takeWhile {keyword cs : List Char} (hupper : ∀ k ∈ keyword, k.isUpper)
    (hpre : keyword <+: cs.map Char.toUpper) :
    keyword <+: (cs.takeWhile isWordChar).map Char.toUpper := by
  induction keyword generalizing cs with
  | nil => exact List.nil_prefix
  | cons k keyword ih =>
    cases cs with
    | nil => exact absurd hpre (by simp)
    | cons c cs =>
      rw [List.map_cons, List.cons_prefix_cons] at hpre
      obtain ⟨rfl, hrest⟩ := hpre
      have hword : isWordChar c := isWordChar_of_toUpper (hupper _ List.mem_cons_self)
      rw [List.takeWhile_cons, if_pos hword, List.map_cons, List.cons_prefix_cons]
      exact ⟨rfl, ih (fun k hk => hupper k (List.mem_cons_of_mem _ hk)) hrest⟩

theorem isUpper_of_mem_writeKeywords : ∀ keyword ∈ writeKeywords, ∀ k ∈ keyword, k.isUpper := by
  simp [writeKeywords]

/-- `is_write_query` in one comparison. -/
theorem isWriteQuery_iff {query : String} :
    isWriteQuery query = true ↔
      ∃ keyword ∈ writeKeywords, keyword <+: (query.toList.dropWhile isSpace).map Char.toUpper := by
  unfold isWriteQuery
  simp only [Bool.or_eq_true, startsWithCi_iff]
  have hcapitals : "INSERT".toList.map Char.toUpper = "INSERT".toList ∧
      "UPDATE".toList.map Char.toUpper = "UPDATE".toList ∧
      "DELETE".toList.map Char.toUpper = "DELETE".toList := by simp
  rw [hcapitals.1, hcapitals.2.1, hcapitals.2.2]
  simp [writeKeywords, or_assoc]

/-- A word is not skipped. -/
theorem skipTrivia_cons_word {c : Char} (hword : isWordChar c) (rest : List Char) :
    skipTrivia (c :: rest) = c :: rest := by
  have hspace : isSpace c = false := by
    refine (WriteStatement.isSpace_of_wordChar ?_).1
    simpa [isWordChar] using hword
  apply skipTrivia_cons hspace
  all_goals
    rintro rfl
    exact absurd hword (by decide)

/-- Letters that `is_write_query` accepts are at the front of the first word. -/
theorem keyword_prefix_firstWord {query : String} {keyword : List Char}
    (hkeyword : keyword ∈ writeKeywords)
    (hpre : keyword <+: (query.toList.dropWhile isSpace).map Char.toUpper) :
    keyword <+: firstWord query := by
  have hupper := isUpper_of_mem_writeKeywords keyword hkeyword
  have hne : keyword ≠ [] := by
    rintro rfl
    exact absurd hkeyword (by decide)
  have hskip : skipTrivia query.toList = query.toList.dropWhile isSpace := by
    rw [← skipTrivia_dropWhile]
    cases htrimmed : query.toList.dropWhile isSpace with
    | nil => rw [skipTrivia]
    | cons c rest =>
      apply skipTrivia_cons_word
      obtain ⟨k, ks, rfl⟩ := List.exists_cons_of_ne_nil hne
      rw [htrimmed, List.map_cons, List.cons_prefix_cons] at hpre
      exact isWordChar_of_toUpper (hpre.1 ▸ hupper k List.mem_cons_self)
  rw [firstWord, nextWord, hskip]
  exact prefix_map_takeWhile hupper hpre

/-- Behind white space alone, the letters of the first word are what is compared. -/
theorem prefix_of_firstWord {query : String} (hnone : NoLeadingComment query) :
    firstWord query <+: (query.toList.dropWhile isSpace).map Char.toUpper := by
  rw [firstWord, nextWord, hnone]
  exact (List.takeWhile_prefix _).map _

theorem not_mem_writeKeywords_of_isBatch {query : String} (h : IsBatch query) :
    firstWord query ∉ writeKeywords := by
  have hbegin : firstWord query = "BEGIN".toList := h.1
  rw [hbegin]
  decide

/-! ## The result -/

/-- For every statement of CQL: `is_write_query` accepts nothing but INSERT, UPDATE and
DELETE, accepts all of these that no comment stands before, and leaves batches to the
source. -/
theorem isWriteQuery_accepts (query : String) (hcql : StartsAsCql query) :
    (isWriteQuery query = true → firstWord query ∈ writeKeywords) ∧
      (NoLeadingComment query → (isWriteQuery query = true ↔ firstWord query ∈ writeKeywords)) ∧
      (IsBatch query → isWriteQuery query = false) := by
  have haccepts : isWriteQuery query = true → firstWord query ∈ writeKeywords := by
    intro hwrite
    obtain ⟨keyword, hkeyword, hpre⟩ := isWriteQuery_iff.mp hwrite
    rw [hcql keyword hkeyword (keyword_prefix_firstWord hkeyword hpre)]
    exact hkeyword
  refine ⟨haccepts, ?_, ?_⟩
  · intro hnone
    refine ⟨haccepts, fun hfirst => ?_⟩
    exact isWriteQuery_iff.mpr ⟨firstWord query, hfirst, prefix_of_firstWord hnone⟩
  · intro hbatch
    rw [Bool.eq_false_iff]
    intro hwrite
    exact not_mem_writeKeywords_of_isBatch hbatch (haccepts hwrite)

theorem nextWord_cons_space {c : Char} (hc : isSpace c) (rest : List Char) :
    nextWord (c :: rest) = nextWord rest := by
  rw [nextWord, skipTrivia_cons_space hc, nextWord]

/-- A word ends at the first character that can be no part of it. -/
theorem nextWord_append {word : List Char} (hword : ∀ k ∈ word, isWordChar k) (hne : word ≠ [])
    {c : Char} (hc : isWordChar c = false) (rest : List Char) :
    nextWord (word ++ c :: rest) = (word.map Char.toUpper, c :: rest) := by
  obtain ⟨k, ks, rfl⟩ := List.exists_cons_of_ne_nil hne
  have hskip : skipTrivia (k :: ks ++ c :: rest) = k :: ks ++ c :: rest :=
    skipTrivia_cons_word (hword k List.mem_cons_self) _
  have htake : (c :: rest).takeWhile isWordChar = [] := by
    rw [List.takeWhile_cons, hc]
    rfl
  have hdrop : (c :: rest).dropWhile isWordChar = c :: rest := by
    rw [List.dropWhile_cons, hc]
    rfl
  rw [nextWord, hskip, List.takeWhile_append_of_pos hword, List.dropWhile_append_of_pos hword,
    htake, hdrop, List.append_nil]

/-- The same for a word in front of a blank. -/
theorem nextWord_blank {word : String} (hword : ∀ k ∈ word.toList, isWordChar k)
    (hne : word.toList ≠ []) (rest : String) :
    nextWord (word ++ " " ++ rest).toList =
      (word.toList.map Char.toUpper, (" " ++ rest).toList) := by
  rw [String.toList_append, String.toList_append, String.toList_append, List.append_assoc]
  exact nextWord_append hword hne (by decide) _

theorem isWriteQuery_accepts_delete :
    isWriteQuery "\n  delete from app.files where id = 1" = true := by
  have hfirst : firstWord ("\n  " ++ ("delete" ++ " " ++ "from app.files where id = 1")) =
      "DELETE".toList := by
    have hblanks : "\n  ".toList = ['\n', ' ', ' '] := by simp
    have hword : nextWord ("delete" ++ " " ++ "from app.files where id = 1").toList =
        ("delete".toList.map Char.toUpper, (" " ++ "from app.files where id = 1").toList) :=
      nextWord_blank (by simp [isWordChar]) (by simp) _
    rw [firstWord, String.toList_append, hblanks]
    simp only [List.cons_append, List.nil_append]
    rw [nextWord_cons_space (by decide), nextWord_cons_space (by decide),
      nextWord_cons_space (by decide), hword]
    simp
  have hnone : NoLeadingComment "\n  delete from app.files where id = 1" := by
    have htext : "\n  delete from app.files where id = 1".toList =
        '\n' :: ' ' :: ' ' :: 'd' :: "elete from app.files where id = 1".toList := by simp
    rw [NoLeadingComment, htext, skipTrivia_cons_space (by decide), skipTrivia_cons_space (by decide),
      skipTrivia_cons_space (by decide), skipTrivia_cons_word (by decide)]
    rfl
  have hmem : firstWord "\n  delete from app.files where id = 1" ∈ writeKeywords := by
    show firstWord ("\n  " ++ ("delete" ++ " " ++ "from app.files where id = 1")) ∈ writeKeywords
    rw [hfirst]
    decide
  have hcql : StartsAsCql "\n  delete from app.files where id = 1" := by
    apply startsAsCql_of_mem
    show firstWord ("\n  " ++ ("delete" ++ " " ++ "from app.files where id = 1")) ∈ statementKeywords
    rw [hfirst]
    simp [statementKeywords]
  exact ((isWriteQuery_accepts _ hcql).2.1 hnone).mpr hmem

/-- A batch is a modification, and is taken for a read. -/
theorem batch_not_accepted :
    ¬ ∀ query : String, StartsAsCql query → (isWriteQuery query = true ↔ IsModification query) := by
  intro hall
  have hupper : "BEGIN".toList.map Char.toUpper = "BEGIN".toList ∧
      "BATCH".toList.map Char.toUpper = "BATCH".toList := by simp
  have hfirst : nextWord "BEGIN BATCH DELETE FROM app.files WHERE id = 1; APPLY BATCH".toList =
      ("BEGIN".toList, (" " ++ "BATCH DELETE FROM app.files WHERE id = 1; APPLY BATCH").toList) := by
    have hword := @nextWord_blank "BEGIN" (by simp [isWordChar]) (by simp)
      "BATCH DELETE FROM app.files WHERE id = 1; APPLY BATCH"
    rw [hupper.1] at hword
    exact hword
  have hsecond : (nextWord (" " ++ "BATCH DELETE FROM app.files WHERE id = 1; APPLY BATCH").toList).1 =
      "BATCH".toList := by
    have hblank : nextWord (" " ++ "BATCH DELETE FROM app.files WHERE id = 1; APPLY BATCH").toList =
        nextWord ("BATCH" ++ " " ++ "DELETE FROM app.files WHERE id = 1; APPLY BATCH").toList := by
      rw [String.toList_append]
      exact nextWord_cons_space (by decide) _
    rw [hblank, nextWord_blank (by simp [isWordChar]) (by simp)]
    exact hupper.2
  have hbatch : IsBatch "BEGIN BATCH DELETE FROM app.files WHERE id = 1; APPLY BATCH" := by
    unfold IsBatch
    rw [hfirst]
    exact ⟨rfl, Or.inl hsecond⟩
  have hcql : StartsAsCql "BEGIN BATCH DELETE FROM app.files WHERE id = 1; APPLY BATCH" := by
    apply startsAsCql_of_mem
    rw [firstWord, hfirst]
    show "BEGIN".toList ∈ statementKeywords
    simp [statementKeywords]
  -- none of the three words is at the front of BEGIN
  obtain ⟨keyword, hkeyword, hpre⟩ := isWriteQuery_iff.mp ((hall _ hcql).mpr (Or.inr hbatch))
  have hword := keyword_prefix_firstWord hkeyword hpre
  rw [firstWord, hfirst] at hword
  have hnone : ∀ keyword ∈ writeKeywords, ¬ keyword <+: "BEGIN".toList := by
    simp [writeKeywords]
  exact hnone keyword hkeyword hword

end DualWriter
end ScyllaClusterSync
