import ScyllaClusterSync.Svckit.FilterGovernor

/-!
# `services/sstable-loader/src/token_range.cpp`

`calculate_ranges` cuts the Murmur3 ring into ranges of equal width and
`build_range_query` writes the SELECT for one of them. `size_t` is `UInt64`; an
`__int128` is an `ℤ`, since every intermediate value stays between `-2^63` and `2^64`.
-/

namespace ScyllaClusterSync
namespace SSTableLoader

open Svckit

/-- A range on the Murmur3 ring. -/
structure TokenRange where
  start : Int64
  end_ : Int64
deriving DecidableEq, Repr

/-! ## `calculate_ranges` -/

/-- `num_nodes` after the `system.peers` query. -/
def numNodes : Outcome → UInt64
  | .ok => 3
  | .syncError _ => 1

def estimatedCoresPerNode : UInt64 := 8

def totalRanges (peers : Outcome) (rangesPerCore : UInt32) : UInt64 :=
  numNodes peers * estimatedCoresPerNode * rangesPerCore.toUInt64

def minToken : ℤ := Int64.minValue.toInt

def maxToken : ℤ := Int64.maxValue.toInt

def tokenSpace : ℤ := maxToken - minToken + 1

/-- The `__int128` division truncates. -/
def rangeSize (total : ℕ) : ℤ := tokenSpace.tdiv total

/-- `start` of iteration `i`, before the cast. -/
def rangeStart (total i : ℕ) : ℤ := minToken + i * rangeSize total

/-- `end` of iteration `i`, before the cast. -/
def rangeEnd (total i : ℕ) : ℤ :=
  if i = total - 1 then maxToken else rangeStart total i + rangeSize total - 1

/-- What iteration `i` appends: both ends cast to `int64_t`, which wraps. -/
def tokenRange (total i : ℕ) : TokenRange where
  start := Int64.ofInt (rangeStart total i)
  end_ := Int64.ofInt (rangeEnd total i)

/-- `none` is the division by zero, which C++ leaves undefined. -/
def calculateRanges (peers : Outcome) (rangesPerCore : UInt32) : Option (List TokenRange) :=
  let total := (totalRanges peers rangesPerCore).toNat
  if total = 0 then none else some ((List.range total).map (tokenRange total))

/-! ## `build_range_query` -/

/-- The columns of the `token` function, joined with `, `. -/
def tokenColumns (partitionKeys : List String) : String := ", ".intercalate partitionKeys

def buildRangeQuery (table : String) (partitionKeys : List String) (range : TokenRange) : String :=
  "SELECT JSON * FROM " ++ table ++
    " WHERE token(" ++ tokenColumns partitionKeys ++ ") >= " ++ range.start.toInt.repr ++
    " AND token(" ++ tokenColumns partitionKeys ++ ") <= " ++ range.end_.toInt.repr

/-! ## How such a query is read

The cluster's side, for a table whose name and partition key it knows. -/

/-- The text after this literal. -/
def expect : List Char → List Char → Option (List Char)
  | [], text => some text
  | _ :: _, [] => none
  | c :: literal, d :: text => if c = d then expect literal text else none

/-- `[0-9]+`, and the text after it. -/
def readDigits (text : List Char) : Option (ℕ × List Char) :=
  let digits := text.takeWhile Char.isDigit
  if digits = [] then none
  else some (Nat.ofDigitChars 10 digits 0, text.dropWhile Char.isDigit)

/-- A CQL integer, `-?[0-9]+`, and the text after it. -/
def readInteger : List Char → Option (ℤ × List Char)
  | '-' :: text => (readDigits text).map fun (n, rest) => (-(n : ℤ), rest)
  | text => (readDigits text).map fun (n, rest) => ((n : ℤ), rest)

/-- What stands before the lower bound. -/
def lowerLiteral (table : String) (partitionKeys : List String) : String :=
  "SELECT JSON * FROM " ++ table ++ " WHERE token(" ++ tokenColumns partitionKeys ++ ") >= "

/-- What stands between the two bounds. -/
def upperLiteral (partitionKeys : List String) : String :=
  " AND token(" ++ tokenColumns partitionKeys ++ ") <= "

/-- The bounds of `token(pk) >= a AND token(pk) <= b`, when the query has that form. -/
def readRangePredicate (table : String) (partitionKeys : List String) (query : String) :
    Option (ℤ × ℤ) := do
  let text ← expect (lowerLiteral table partitionKeys).toList query.toList
  let (start, text) ← readInteger text
  let text ← expect (upperLiteral partitionKeys).toList text
  let (end_, text) ← readInteger text
  if text = [] then some (start, end_) else none

/-- The query selects the rows whose partition key has this token. -/
def selectsToken (table : String) (partitionKeys : List String) (query : String) (t : Int64) :
    Bool :=
  match readRangePredicate table partitionKeys query with
  | some (start, end_) => start ≤ t.toInt ∧ t.toInt ≤ end_
  | none => false

end SSTableLoader
end ScyllaClusterSync
