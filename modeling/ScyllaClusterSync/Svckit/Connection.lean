import ScyllaClusterSync.Lib.Typestate
import ScyllaClusterSync.Svckit.Database

/-!
# `svckit/src/database.cpp`: the life of a `ScyllaConnection`

What the class does is calls of the driver, and each call is given with the handles it takes
and returns. `Phase` says what the driver documents about a handle: it is returned once, taken
while it lives, and freed at most once; a session is connected by a connect that succeeds, and
only a connected one is executed on or closed. Handles are numbers, those from `next` on have
not been returned yet. What the driver answers comes with each operation, and so does what a
moved-from configuration is left with.
-/

namespace ScyllaClusterSync
namespace Svckit

open Lib

/-! ## The driver -/

inductive HandleKind where
  | cluster
  | policy
  | session
  | statement
  | future
deriving DecidableEq, Repr

inductive Phase where
  | absent
  | live (kind : HandleKind)
  /-- A session whose connect has succeeded. -/
  | connected
  | closed
  | freed
deriving DecidableEq, Repr

/-- What a call of the driver does with one of its handles. -/
inductive Use where
  | return (kind : HandleKind)
  | take (kind : HandleKind)
  | connect (ok : Bool)
  | execute
  | close
  | free (kind : HandleKind)
deriving DecidableEq, Repr

/-- The life of a handle, `none` for a use that the driver leaves undefined. A session that
still is connected is not freed. -/
def Phase.next : Phase → Use → Option Phase
  | .absent, .return kind => some (.live kind)
  | .live kind, .take kind' => if kind = kind' then some (.live kind) else none
  | .live .session, .connect ok => some (if ok then .connected else .live .session)
  | .connected, .execute => some .connected
  | .connected, .close => some .closed
  | .live kind, .free kind' => if kind = kind' then some .freed else none
  | .closed, .free .session => some .freed
  | _, _ => none

/-- A setting of `CassCluster`. -/
inductive ClusterSetting where
  | contactPoints (hosts : String)
  | port (port : Int)
  | connectTimeout (ms : UInt32)
  | requestTimeout (ms : UInt32)
  | numThreadsIo (threads : UInt32)
  | credentials (username password : String)
deriving DecidableEq, Repr

inductive DriverCall where
  | clusterNew (cluster : ℕ)
  | clusterSet (cluster : ℕ) (setting : ClusterSetting)
  | policyNew (policy : ℕ) (delayMs : UInt32) (maxExecutions : ℕ)
  | clusterSetPolicy (cluster policy : ℕ)
  | policyFree (policy : ℕ)
  | sessionNew (session : ℕ)
  /-- `cass_session_connect`, or `_keyspace` with one, and how the connect ends. -/
  | sessionConnect (session cluster : ℕ) (keyspace : Option String) (future : ℕ) (ok : Bool)
  | statementNew (statement : ℕ) (cql : String)
  | sessionExecute (session statement future : ℕ)
  | sessionClose (session future : ℕ)
  | futureWait (future : ℕ)
  | futureErrorCode (future : ℕ)
  | futureErrorMessage (future : ℕ)
  | futureFree (future : ℕ)
  | statementFree (statement : ℕ)
  | sessionFree (session : ℕ)
  | clusterFree (cluster : ℕ)
deriving DecidableEq, Repr

def DriverCall.uses : DriverCall → List (ℕ × Use)
  | .clusterNew c => [(c, .return .cluster)]
  | .clusterSet c _ => [(c, .take .cluster)]
  | .policyNew p _ _ => [(p, .return .policy)]
  | .clusterSetPolicy c p => [(c, .take .cluster), (p, .take .policy)]
  | .policyFree p => [(p, .free .policy)]
  | .sessionNew s => [(s, .return .session)]
  | .sessionConnect s c _ f ok => [(c, .take .cluster), (s, .connect ok), (f, .return .future)]
  | .statementNew t _ => [(t, .return .statement)]
  | .sessionExecute s t f => [(s, .execute), (t, .take .statement), (f, .return .future)]
  | .sessionClose s f => [(s, .close), (f, .return .future)]
  | .futureWait f => [(f, .take .future)]
  | .futureErrorCode f => [(f, .take .future)]
  | .futureErrorMessage f => [(f, .take .future)]
  | .futureFree f => [(f, .free .future)]
  | .statementFree t => [(t, .free .statement)]
  | .sessionFree s => [(s, .free .session)]
  | .clusterFree c => [(c, .free .cluster)]

def usesOfCalls (calls : List DriverCall) : List (ℕ × Use) := calls.flatMap DriverCall.uses

/-! ## `ScyllaConnection` -/

/-- `DatabaseConfig` of `svckit/config.hpp`. -/
structure DatabaseConfig where
  driver : String := ""
  hosts : List String := []
  port : UInt16 := 9042
  keyspace : String := ""
  username : Option String := none
  password : Option String := none
  connectionTimeoutMs : UInt32 := 5000
  requestTimeoutMs : UInt32 := 30000
  poolSize : UInt32 := 8
  speculativeExecution : Bool := false
  speculativeDelayMs : UInt32 := 100
deriving DecidableEq, Repr

structure ScyllaConnection where
  config : DatabaseConfig
  cluster : Option ℕ := none
  session : Option ℕ := none
  connected : Bool := false
deriving DecidableEq, Repr

/-- What the driver answers to `connect`. -/
structure ConnectAnswers where
  allocatesCluster : Bool
  allocatesSession : Bool
  connect : Except String Unit

/-- The cluster `c` as `connect` sets it up, with the policy `p` if there is to be one. -/
def configureCluster (config : DatabaseConfig) (c p : ℕ) : List DriverCall :=
  [DriverCall.clusterNew c,
    .clusterSet c (.contactPoints (",".intercalate config.hosts)),
    .clusterSet c (.port config.port.toNat),
    .clusterSet c (.connectTimeout config.connectionTimeoutMs),
    .clusterSet c (.requestTimeout config.requestTimeoutMs),
    .clusterSet c (.numThreadsIo (max config.poolSize 1))] ++
  (match config.username, config.password with
    | some username, some password => [DriverCall.clusterSet c (.credentials username password)]
    | _, _ => []) ++
  if config.speculativeExecution then
    [DriverCall.policyNew p config.speculativeDelayMs 2, .clusterSetPolicy c p, .policyFree p]
  else []

/-- The connect of the session `s`, up to where its future `f` is freed. -/
def connectSession (config : DatabaseConfig) (s c f : ℕ) (answer : Except String Unit) :
    List DriverCall :=
  let keyspace := if config.keyspace ≠ "" then some config.keyspace else none
  match answer with
  | .ok _ =>
    [.sessionNew s, .sessionConnect s c keyspace f true, .futureWait f, .futureErrorCode f,
      .futureFree f]
  | .error _ =>
    [.sessionNew s, .sessionConnect s c keyspace f false, .futureWait f, .futureErrorCode f,
      .futureErrorMessage f, .futureFree f]

/-- The constructor. When `connect` throws, the members built so far are destroyed, the session
first. -/
def ScyllaConnection.construct (config : DatabaseConfig) (next : ℕ) (answers : ConnectAnswers) :
    List DriverCall × Except String ScyllaConnection :=
  let (c, p, s, f) := (next, next + 1, next + 2, next + 3)
  if !answers.allocatesCluster then
    ([], .error (databaseError "Failed to allocate CassCluster"))
  else if !answers.allocatesSession then
    (configureCluster config c p ++ [.clusterFree c],
      .error (databaseError "Failed to allocate CassSession"))
  else
    let calls := configureCluster config c p ++ connectSession config s c f answers.connect
    match answers.connect with
    | .error msg =>
      (calls ++ [.sessionFree s, .clusterFree c],
        .error (databaseError ("Failed to connect to " ++ config.driver ++ " cluster: " ++ msg)))
    | .ok _ => (calls, .ok { config, cluster := some c, session := some s, connected := true })

/-- `close`, with `f` for the future it waits for. -/
def ScyllaConnection.close (o : ScyllaConnection) (f : ℕ) : List DriverCall × ScyllaConnection :=
  match o.connected, o.session with
  | true, some s =>
    ([.sessionClose s f, .futureWait f, .futureFree f], { o with connected := false })
  | _, _ => ([], o)

/-- What is left of an object that is moved from. -/
def ScyllaConnection.movedFrom (leftover : DatabaseConfig) : ScyllaConnection where
  config := leftover

/-- The move assignment: the old cluster is freed by the assignment to `cluster_`, the old
session by the one to `session_`. -/
def ScyllaConnection.moveAssign (o other : ScyllaConnection) (f : ℕ) :
    List DriverCall × ScyllaConnection :=
  let (calls, o) := o.close f
  (calls ++ o.cluster.toList.map .clusterFree ++ o.session.toList.map .sessionFree, other)

/-- The destructor, and the members destroyed after it in the reverse of their order. -/
def ScyllaConnection.destroy (o : ScyllaConnection) (f : ℕ) : List DriverCall :=
  let (calls, o) := o.close f
  calls ++ o.session.toList.map .sessionFree ++ o.cluster.toList.map .clusterFree

/-- `execute`, with `t` for the statement and `f` for the future. -/
def ScyllaConnection.execute (o : ScyllaConnection) (cql : String) (t f : ℕ)
    (answer : Except String Unit) : List DriverCall × Outcome :=
  match o.connected, o.session with
  | true, some s =>
    let query : List DriverCall :=
      [.statementNew t cql, .sessionExecute s t f, .futureWait f, .futureErrorCode f]
    match answer with
    | .ok _ => (query ++ [.futureFree f, .statementFree t], .ok)
    | .error msg =>
      (query ++ [.futureErrorMessage f, .futureFree f, .statementFree t],
        .syncError (databaseError ("Query execution failed: " ++ msg)))
  | _, _ => ([], .syncError (databaseError "Cannot execute query — session not connected"))

/-- `ping`. -/
def ScyllaConnection.ping (o : ScyllaConnection) (t f : ℕ) (answer : Except String Unit) :
    List DriverCall × Bool :=
  match o.connected, o.session with
  | true, some _ =>
    match o.execute "SELECT now() FROM system.local" t f answer with
    | (calls, .ok) => (calls, true)
    | (calls, .syncError _) => (calls, false)
  | _, _ => ([], false)

/-- The handles of an object. -/
def ScyllaConnection.handles (o : ScyllaConnection) : List ℕ :=
  o.session.toList ++ o.cluster.toList

/-! ## Programs that use connections -/

/-- The variables of a program that hold a connection, and every call of the driver so far. -/
structure Connections where
  objects : ℕ → Option ScyllaConnection := fun _ => none
  next : ℕ := 0
  calls : List DriverCall := []

inductive ConnectionOp where
  | construct (x : ℕ) (config : DatabaseConfig) (answers : ConnectAnswers)
  | moveConstruct (x y : ℕ) (leftover : DatabaseConfig)
  | moveAssign (x y : ℕ) (leftover : DatabaseConfig)
  | destroy (x : ℕ)
  | execute (x : ℕ) (cql : String) (answer : Except String Unit)
  | ping (x : ℕ) (answer : Except String Unit)

namespace Connections

/-- The calls of one operation, after which four more handles are used up. -/
def called (s : Connections) (calls : List DriverCall) : Connections :=
  { s with next := s.next + 4, calls := s.calls ++ calls }

def setObject (s : Connections) (x : ℕ) (o : Option ScyllaConnection) : Connections :=
  { s with objects := Function.update s.objects x o }

/-- The uses of handles so far. -/
def uses (s : Connections) : List (ℕ × Use) := usesOfCalls s.calls

end Connections

/-- One operation of the program. A variable is constructed when it holds nothing and used
when it holds an object; what `execute` and `ping` answer changes no object. -/
def connectionStep (s : Connections) : ConnectionOp → Option Connections
  | .construct x config answers =>
    match s.objects x with
    | some _ => none
    | none =>
      match ScyllaConnection.construct config s.next answers with
      | (calls, .ok o) => some ((s.called calls).setObject x (some o))
      | (calls, .error _) => some (s.called calls)
  | .moveConstruct x y leftover =>
    match s.objects x, s.objects y with
    | none, some other =>
      some ((s.setObject y (some (.movedFrom leftover))).setObject x (some other))
    | _, _ => none
  | .moveAssign x y leftover =>
    match s.objects x, s.objects y with
    | some o, some other =>
      if x = y then some s
      else
        let (calls, o') := o.moveAssign other s.next
        some (((s.called calls).setObject y (some (.movedFrom leftover))).setObject x (some o'))
    | _, _ => none
  | .destroy x => (s.objects x).map fun o => (s.called (o.destroy s.next)).setObject x none
  | .execute x cql answer =>
    (s.objects x).map fun o => s.called (o.execute cql s.next (s.next + 1) answer).1
  | .ping x answer =>
    (s.objects x).map fun o => s.called (o.ping s.next (s.next + 1) answer).1

end Svckit
end ScyllaClusterSync
