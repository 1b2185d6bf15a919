import ScyllaClusterSync.DualWriter.WriterSystemTheorems

/-!
# Reading a history of the dual-writer

A history is the list of actions of a run. This file has the questions that statements
about runs ask of it: which statements were executed on which cluster and with what
outcome, which queued writes were disposed of and how, and how often.
-/

namespace ScyllaClusterSync
namespace DualWriter

open Svckit Lib

/-! ## Executes on the two clusters -/

/-- The call of `source_->execute` or `target_->execute` an action makes. -/
def clusterCall : Action → Option ClusterCall
  | .act _ (.sourceExecute cql o) => some (.source cql o)
  | .act _ (.targetExecute cql o) => some (.target cql o)
  | .env (.retry (.execute _ cql o)) => some (.target cql o)
  | _ => none

/-- The source accepted the statement `cql` of call `w`. -/
def SourceAccepted (h : List Action) (w : ℕ) (cql : String) : Prop :=
  .act w (.sourceExecute cql .ok) ∈ h

/-- The shadow write of call `w` was put in `failed_writes_`. -/
def Enqueued (h : List Action) (w : ℕ) : Prop := .act w .enqueue ∈ h

/-- Call `w` was counted in `filtered_writes`. -/
def Filtered (h : List Action) (w : ℕ) : Prop := .act w .countFiltered ∈ h

/-- A successful `target_->execute` made by call `w` itself. -/
def isDirectSuccess (w : ℕ) : Action → Bool
  | .act w' (.targetExecute _ .ok) => w' == w
  | _ => false

/-- A successful `target_->execute` made by the retry thread for the entry `id`. -/
def isRetrySuccess (id : String) : Action → Bool
  | .env (.retry (.execute id' _ .ok)) => id' == id
  | _ => false

/-- The retry thread abandons the entry `id` (and counts it in `abandoned_writes`). -/
def isAbandon (id : String) : Action → Bool
  | .env (.retry (.abandon id')) => id' == id
  | _ => false

/-- The retry thread drops the entry `id` as blacklisted. -/
def isDrop (id : String) : Action → Bool
  | .env (.retry (.drop id')) => id' == id
  | _ => false

/-- An action that increments `abandoned_writes`. -/
def countsAbandoned : Action → Bool
  | .env (.retry (.abandon _)) => true
  | _ => false

/-! ## Closing an entry -/

/-- The entry an action disposes of for good. -/
def closedId : Action → Option String
  | .env (.retry a) => a.closed
  | _ => none

/-- How often the entry `id` was disposed of. -/
def closings (h : List Action) (id : String) : ℕ := h.countP fun a => closedId a == some id

theorem closings_concat (h : List Action) (a : Action) (id : String) :
    closings (h ++ [a]) id = closings h id + if closedId a = some id then 1 else 0 := by
  unfold closings
  rw [List.countP_append, List.countP_singleton]
  simp

theorem closings_concat_of_none {h : List Action} {a : Action} (id : String)
    (ha : closedId a = none) : closings (h ++ [a]) id = closings h id := by
  rw [closings_concat, ha]
  simp

/-- An entry is disposed of by a successful retry, by being abandoned or by being dropped. -/
theorem closings_eq (h : List Action) (id : String) :
    closings h id =
      h.countP (isRetrySuccess id) + h.countP (isAbandon id) + h.countP (isDrop id) := by
  induction h with
  | nil => rfl
  | cons a h ih =>
    have hone : (if closedId a == some id then 1 else 0) =
        (if isRetrySuccess id a then 1 else 0) + (if isAbandon id a then 1 else 0) +
          (if isDrop id a then 1 else 0) := by
      unfold closedId RetryAction.closed isRetrySuccess isAbandon isDrop
      split
      next r => cases r with
        | execute i q o => cases o <;> simp
        | _ => simp
      next hne =>
        cases a with
        | env e => cases e with
          | retry r => exact absurd rfl (hne r)
          | reload => rfl
        | spawn k => rfl
        | act i b => rfl
    unfold closings at ih ⊢
    simp only [List.countP_cons]
    omega

/-! ## Successful executions of one write -/

/-- How often the statement of call `w` was executed on the target with success, by the
call itself or by the retry thread under the id the call drew. -/
def targetSuccesses (generateId : ℕ → String) (h : List Action) (w : ℕ) : ℕ :=
  h.countP (isDirectSuccess w) + h.countP (isRetrySuccess (generateId w))

theorem directSuccess_concat_other {h : List Action} {a : Action} {w : ℕ}
    (ha : isDirectSuccess w a = false) :
    (h ++ [a]).countP (isDirectSuccess w) = h.countP (isDirectSuccess w) := by
  rw [List.countP_append, List.countP_singleton, ha]
  rfl

end DualWriter
end ScyllaClusterSync
