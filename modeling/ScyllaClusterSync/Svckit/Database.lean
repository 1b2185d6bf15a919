import ScyllaClusterSync.Svckit.FilterGovernor

/-!
# `svckit/src/database.cpp`: `ScyllaConnection::execute`

What a connection sends to its cluster is a statement with the values bound to it, and
`execute` binds none. Of the cluster's answer it looks at the error code alone: rows that
came back are dropped with the future.
-/

namespace ScyllaClusterSync
namespace Svckit

/-- `CassStatement`. -/
structure Statement where
  cql : String
  values : List String
deriving DecidableEq, Repr

/-- `cass_statement_new_n` with `param_count` 0. -/
def Statement.ofCql (cql : String) : Statement where
  cql := cql
  values := []

/-- `what()` of a `DatabaseError`. -/
def databaseError (msg : String) : String := "[DatabaseError] " ++ msg

/-- What `execute` makes of an answer of the cluster: rows of some kind, or a message. -/
def outcomeOf {ρ : Type} : Except String ρ → Outcome
  | .ok _ => .ok
  | .error msg => .syncError (databaseError ("Query execution failed: " ++ msg))

/-- `ScyllaConnection::execute`. -/
def execute {ρ : Type} (connected : Bool) (session : Statement → Except String ρ) (cql : String) :
    Outcome :=
  if !connected then .syncError (databaseError "Cannot execute query — session not connected")
  else outcomeOf (session (.ofCql cql))

/-- A call of `execute`: what the cluster has been given, and how the call has ended. -/
structure Execution where
  statement : Statement
  outcome : Outcome
deriving DecidableEq

/-- `execute` on a cluster, as a function from statements to how the call ends. -/
def executeOn (cluster : Statement → Outcome) (cql : String) : Execution where
  statement := .ofCql cql
  outcome := cluster (.ofCql cql)

/-- It returns when the cluster has taken the statement. -/
theorem execute_eq_ok_iff {ρ : Type} {connected : Bool} {session : Statement → Except String ρ}
    {cql : String} : execute connected session cql = .ok ↔
      connected = true ∧ ∃ rows, session (.ofCql cql) = .ok rows := by
  unfold execute
  cases connected with
  | false => simp
  | true =>
    cases session (.ofCql cql) <;> simp [outcomeOf]

end Svckit
end ScyllaClusterSync
