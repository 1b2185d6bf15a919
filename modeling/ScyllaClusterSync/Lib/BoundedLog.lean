import Mathlib.Data.List.DropRight

/-!
# A log that keeps its last entries

`push` appends an entry and drops the first one when that makes one entry too many. A log that
was filled in this way holds the last entries of everything it was given, whatever its
capacity, and a log of a smaller capacity is the end of a log of a greater one (`push_rtake`).
-/

namespace ScyllaClusterSync
namespace Lib
namespace BoundedLog

variable {α : Type*} {cap cap' : ℕ} {log : List α}

/-- One more entry in a log of at most `cap` entries. -/
def push (cap : ℕ) (log : List α) (entry : α) : List α :=
  if cap < (log ++ [entry]).length then (log ++ [entry]).tail else log ++ [entry]

theorem length_push_le (hlog : log.length ≤ cap) (entry : α) :
    (push cap log entry).length ≤ cap := by
  unfold push
  split
  · rw [List.length_tail, List.length_append, List.length_singleton]
    omega
  · omega

theorem mem_push {entry e : α} (he : e ∈ push cap log entry) : e ∈ log ∨ e = entry := by
  have hmem : e ∈ log ++ [entry] := by
    unfold push at he
    split at he
    · exact List.mem_of_mem_tail he
    · exact he
  rcases List.mem_append.mp hmem with hold | hnew
  · exact Or.inl hold
  · exact Or.inr (List.mem_singleton.mp hnew)

/-- An entry more, and the last ones of all of them. -/
theorem push_eq_rtake (hlog : log.length ≤ cap) (entry : α) :
    push cap log entry = (log ++ [entry]).rtake cap := by
  unfold push List.rtake
  have hlength : (log ++ [entry]).length = log.length + 1 := by
    rw [List.length_append, List.length_singleton]
  split
  next hlt =>
    have hone : (log ++ [entry]).length - cap = 1 := by omega
    rw [hone, List.drop_one]
  next hle =>
    have hzero : (log ++ [entry]).length - cap = 0 := by omega
    rw [hzero, List.drop_zero]

theorem rtake_rtake (hcap : cap ≤ cap') (l : List α) : (l.rtake cap').rtake cap = l.rtake cap := by
  unfold List.rtake
  rw [List.drop_drop, List.length_drop]
  congr 1
  omega

theorem rtake_append_singleton (l : List α) (entry : α) :
    (l.rtake cap ++ [entry]).rtake cap = (l ++ [entry]).rtake cap := by
  cases cap with
  | zero => rw [List.rtake_zero, List.rtake_zero]
  | succ cap =>
    rw [List.rtake_concat_succ, List.rtake_concat_succ, rtake_rtake (Nat.le_succ cap)]

theorem length_rtake_le (l : List α) : (l.rtake cap).length ≤ cap := by
  unfold List.rtake
  rw [List.length_drop]
  omega

/-- The smaller log is the end of the greater one, and stays so. -/
theorem push_rtake (hcap : cap ≤ cap') (hlog : log.length ≤ cap') (entry : α) :
    push cap (log.rtake cap) entry = (push cap' log entry).rtake cap := by
  rw [push_eq_rtake (length_rtake_le log), push_eq_rtake hlog, rtake_rtake hcap,
    rtake_append_singleton]

end BoundedLog
end Lib
end ScyllaClusterSync
