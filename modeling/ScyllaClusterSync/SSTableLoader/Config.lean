import ScyllaClusterSync.SSTableLoader.MigrateTable

/-!
# `services/sstable-loader/src/config.cpp`: `parse_loader_config`

The YAML document as far as the parser looks at it, and what it makes of the `loader`
section. The conversions of a scalar belong to the YAML library. A number that is missing
or cannot be converted gets its default, and any number that can be is taken as it is; the
two file names have no default, and one that is no string is an exception.
-/

namespace ScyllaClusterSync
namespace SSTableLoader

/-- A defined `YAML::Node`. -/
inductive Node where
  | null
  | scalar (text : String)
  | sequence (items : List Node)
  | map (entries : List (String × Node))

/-- `as<std::string>()`, `none` when it throws, and `as<uint32_t>` and `as<bool>`, `none` when
they fall back to the default. -/
structure Conversions where
  asString : Node → Option String
  asUInt32 : Node → Option UInt32
  asBool : Node → Option Bool

namespace Node

/-- `node[key]`, `none` for an undefined node. -/
def lookup (entries : List (String × Node)) (key : String) : Option Node :=
  (entries.find? fun e => e.1 == key).map Prod.snd

/-- The items of a sequence, none of anything else. -/
def items : Option Node → List Node
  | some (.sequence items) => items
  | _ => []

end Node

variable (conv : Conversions)

/-- `if (node[key]) field = node[key].as<T>(fallback)`. -/
def readOr {α : Type} (convert : Node → Option α) (node : Option Node) (field fallback : α) : α :=
  match node with
  | none => field
  | some n => (convert n).getD fallback

/-- `if (node[key]) field = node[key].as<std::string>()`: whether it goes through. -/
def readString (node : Option Node) : Option Unit :=
  match node with
  | none => some ()
  | some n => (conv.asString n).map fun _ => ()

def parseTableConfig : Node → Option TableConfig
  | .map entries => do
    let name ← (Node.lookup entries "name").bind conv.asString
    let partitionKey ← (Node.items (Node.lookup entries "partition_key")).mapM conv.asString
    some { name := name, partitionKey := partitionKey }
  | _ => some { name := "" }

/-- `none` is an exception of the YAML library. -/
def parseLoaderConfig : Option Node → Option LoaderConfig
  | some (.map entries) => do
    let cfg : LoaderConfig := {}
    let tables ← (Node.items (Node.lookup entries "tables")).mapM (parseTableConfig conv)
    readString conv (Node.lookup entries "checkpoint_file")
    readString conv (Node.lookup entries "failed_rows_file")
    some {
      tables := tables
      numRangesPerCore := readOr conv.asUInt32 (Node.lookup entries "num_ranges_per_core")
        cfg.numRangesPerCore 4
      maxConcurrentLoaders := readOr conv.asUInt32 (Node.lookup entries "max_concurrent_loaders")
        cfg.maxConcurrentLoaders 32
      enablePagination := readOr conv.asBool (Node.lookup entries "enable_pagination")
        cfg.enablePagination false }
  | _ => some {}

/-- A `loader` section with these two entries. -/
def twoNumbers (numRangesPerCore maxConcurrentLoaders : String) : Node :=
  .map [("num_ranges_per_core", .scalar numRangesPerCore),
    ("max_concurrent_loaders", .scalar maxConcurrentLoaders)]

/-- Any two numbers that can be converted are accepted as they are. -/
theorem parseLoaderConfig_twoNumbers {s t : String} {n k : UInt32}
    (hs : conv.asUInt32 (.scalar s) = some n) (ht : conv.asUInt32 (.scalar t) = some k) :
    parseLoaderConfig conv (some (twoNumbers s t)) =
      some { numRangesPerCore := n, maxConcurrentLoaders := k } := by
  simp [parseLoaderConfig, twoNumbers, Node.lookup, Node.items, readString, readOr, hs, ht]

end SSTableLoader
end ScyllaClusterSync
