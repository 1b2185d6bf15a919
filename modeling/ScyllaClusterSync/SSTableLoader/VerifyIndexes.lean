import ScyllaClusterSync.SSTableLoader.IndexManager
import ScyllaClusterSync.Svckit.Database

/-!
# `services/sstable-loader/src/index_manager.cpp`: `verify_indexes`

Each index is looked up in `system_schema.indexes`. A cluster that is reached answers with the
rows the query asks for, if there are any, and `execute` drops them.
-/

namespace ScyllaClusterSync
namespace SSTableLoader

open Svckit

/-- A row of `system_schema.indexes`. -/
structure IndexRow where
  keyspaceName : String
  tableName : String
  indexName : String
deriving DecidableEq, Repr

/-- The SELECT for one index. -/
structure IndexQuery where
  keyspace : String
  table : String
  indexName : String

namespace IndexQuery

def text (query : IndexQuery) : String :=
  "SELECT index_name FROM system_schema.indexes WHERE keyspace_name = '" ++ query.keyspace ++
    "' AND table_name = '" ++ query.table ++ "' AND index_name = '" ++ query.indexName ++ "'"

/-- The rows it asks for. -/
def select (query : IndexQuery) (rows : Finset IndexRow) : Finset IndexRow :=
  rows.filter fun row => row.keyspaceName = query.keyspace ∧ row.tableName = query.table ∧
    row.indexName = query.indexName

/-- `execute` of it: the cluster is reached and answers with the rows, or there is a message. -/
def execute (query : IndexQuery) (connected : Bool) (reached : Except String Unit)
    (rows : Finset IndexRow) : Outcome :=
  Svckit.execute connected (fun _ => reached.map fun _ => query.select rows) query.text

end IndexQuery

/-- The query for the index. -/
def IndexInfo.query (idx : IndexInfo) : IndexQuery where
  keyspace := idx.keyspace
  table := idx.table
  indexName := idx.indexName

/-- `verify_indexes` of `StandardIndexStrategy`, where `reached` is about one query after the
other. -/
def verifyOneByOne (connected : Bool) (reached : ℕ → Except String Unit)
    (rows : Finset IndexRow) : List IndexInfo → Bool
  | [] => true
  | idx :: indexes =>
    match idx.query.execute connected (reached 0) rows with
    | .ok => verifyOneByOne connected (fun i => reached (i + 1)) rows indexes
    | .syncError _ => false

/-- `verify_indexes`; the parallel strategy delegates to the sequential one. -/
def IndexStrategy.verifyIndexes (strategy : IndexStrategy) (connected : Bool)
    (reached : ℕ → Except String Unit) (rows : Finset IndexRow) (indexes : List IndexInfo) :
    Bool :=
  match strategy with
  | .standard => verifyOneByOne connected reached rows indexes
  | .parallel _ _ => verifyOneByOne connected reached rows indexes

def IndexManager.verifyAll (m : IndexManager) (connected : Bool)
    (reached : ℕ → Except String Unit) (rows : Finset IndexRow) : Bool :=
  m.strategy.verifyIndexes connected reached rows m.indexes

end SSTableLoader
end ScyllaClusterSync
