import ScyllaClusterSync.DualWriter.ShadowWriteTheorems
import ScyllaClusterSync.Lib.Replica

/-!
# Reading the two clusters off a history

Every statement overwrites one row: `effect` says which one and with what. A cluster is
then the map that its successful executes have left behind, in the order of the history,
and `pendingWrites` are the writes the source has and the target may not have yet: those
in the retry queue and those of the calls between their two executes.
-/

namespace ScyllaClusterSync
namespace DualWriter

open Svckit Lib

/-- The statement an action executes on the source with success. -/
def sourceOk (a : Action) : Option String :=
  match clusterCall a with
  | some (.source cql .ok) => some cql
  | _ => none

/-- The statement an action executes on the target with success. -/
def targetOk (a : Action) : Option String :=
  match clusterCall a with
  | some (.target cql .ok) => some cql
  | _ => none

/-- The call is between its two executes, or about to queue its shadow write. -/
def Pc.awaitsTarget : Pc → Bool
  | .dualTarget => true
  | .enqueue _ => true
  | _ => false

/-- The call has not reached the source yet, and nothing has told it to skip the target. -/
def Pc.beforeSource : Pc → Bool
  | .entered => true
  | .gate => true
  | .tableCheck => true
  | .dualSource => true
  | _ => false

def Pc.isReturned : Pc → Bool
  | .returned _ => true
  | _ => false

theorem Pc.awaitsTarget_of_isReturned {pc : Pc} (h : pc.isReturned) : pc.awaitsTarget = false := by
  cases pc <;> first | rfl | exact absurd h Bool.false_ne_true

theorem Pc.beforeSource_of_isReturned {pc : Pc} (h : pc.isReturned) : pc.beforeSource = false := by
  cases pc <;> first | rfl | exact absurd h Bool.false_ne_true

/-- A queued entry with this statement is still to be replayed. -/
def Writer.ToReplay (m : Writer) (cql : String) : Prop :=
  ∃ id fw, m.HasCopy id fw ∧ id ∉ m.toRemove ∧ fw.cql = cql

section Rows

variable {R V : Type} [DecidableEq R] (effect : String → R × V) (rows : R → V)

/-- The rows a cluster has after the history: what it started with, overwritten by the
statements `accepts` finds in the actions, in order. -/
def rowsAfter (accepts : Action → Option String) (h : List Action) : R → V :=
  replay rows ((h.filterMap accepts).map effect)

/-- The source after the history. -/
def sourceRows (h : List Action) : R → V := rowsAfter effect rows sourceOk h

/-- The target after the history. -/
def targetRows (h : List Action) : R → V := rowsAfter effect rows targetOk h

/-- What the source has and the target may still be waiting for. -/
def pendingWrites (p : State) : Set (R × V) :=
  {e | ∃ cql, effect cql = e ∧ (p.mem.ToReplay cql ∨
    ∃ (i : ℕ) (c : WriteCall), p.threads[i]? = some c ∧ c.pc.awaitsTarget ∧ c.cql = cql)}

/-! ## One more action -/

variable {accepts : Action → Option String} {h : List Action} {a : Action}

theorem rowsAfter_concat_some {cql : String} (ha : accepts a = some cql) :
    rowsAfter effect rows accepts (h ++ [a]) =
      overwrite (rowsAfter effect rows accepts h) (effect cql) := by
  have happ : (h ++ [a]).filterMap accepts = h.filterMap accepts ++ [cql] := by
    rw [List.filterMap_append, List.filterMap_cons_some ha, List.filterMap_nil]
  rw [rowsAfter, happ, List.map_append, List.map_singleton, replay_concat]
  rfl

theorem rowsAfter_concat_none (ha : accepts a = none) :
    rowsAfter effect rows accepts (h ++ [a]) = rowsAfter effect rows accepts h := by
  have happ : (h ++ [a]).filterMap accepts = h.filterMap accepts := by
    rw [List.filterMap_append, List.filterMap_cons_none ha, List.filterMap_nil, List.append_nil]
  rw [rowsAfter, happ]
  rfl

end Rows

end DualWriter
end ScyllaClusterSync
