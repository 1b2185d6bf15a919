import ScyllaClusterSync.DualWriter.WriterSystem

/-!
# `WriteMode` and `parse_writer_config`

The `writer` section of the configuration. The mode is read from it and dropped, and `write`
always goes to `write_dual_async`, so the service runs as `WriterSystem` has it in every mode:
nothing calls `write_dual_sync` or `write_target_only`.

How yaml-cpp converts a scalar is a parameter.
-/

namespace ScyllaClusterSync
namespace DualWriter

open Svckit Lib

/-- `WriteMode`: the phase of the migration. -/
inductive WriteMode where
  | sourceOnly
  | dualAsync
  | dualSync
  | targetOnly
deriving DecidableEq, Repr

/-- The value of `writer.mode` that stands for the mode. -/
def WriteMode.name : WriteMode → String
  | .sourceOnly => "SourceOnly"
  | .dualAsync => "DualAsync"
  | .dualSync => "DualSync"
  | .targetOnly => "TargetOnly"

/-- `WriterConfig`. -/
structure WriterConfig where
  maxConcurrentWrites : UInt32 := 32
  writeTimeoutMs : UInt32 := 10000
  maxRetries : UInt32 := 3
  retryDelayMs : UInt64 := 500
  skipOnError : Bool := false
  failedRowsFile : String := "failed_rows.jsonl"
deriving DecidableEq

/-- `YAML::Node::as<T>` of a scalar, `none` where it falls back. -/
structure Conversions where
  asUInt32 : String → Option UInt32
  asUInt64 : String → Option UInt64
  asBool : String → Option Bool
  asString : String → Option String

/-! ## The `writer` section -/

/-- A map of scalars. -/
abbrev YamlMap := String → Option String

/-- `if (node[key]) field = node[key].as<T>(fallback)`, for a field with a default. -/
def readKey {T : Type} (node : YamlMap) (key : String) (conv : String → Option T)
    (fallback default : T) : T :=
  match node key with
  | some scalar => (conv scalar).getD fallback
  | none => default

/-- `parse_writer_config`; `none` for a section that is missing or no map. The `mode` is
converted to a string that is not kept. -/
def parseWriterConfig (conv : Conversions) : Option YamlMap → WriterConfig
  | none => {}
  | some node => {
      writeTimeoutMs := readKey node "shadow_timeout_ms" conv.asUInt32 10000 10000
      maxRetries := readKey node "max_retry_attempts" conv.asUInt32 3 3
      retryDelayMs := match node "retry_interval_secs" with
        | some scalar => (conv.asUInt64 scalar).getD 60 * 1000
        | none => 500
      maxConcurrentWrites := readKey node "batch_size" conv.asUInt32 100 32
      skipOnError := readKey node "skip_on_error" conv.asBool false false
      failedRowsFile :=
        readKey node "failed_rows_file" conv.asString "failed_rows.jsonl" "failed_rows.jsonl" }

/-- The runs of a service with this `writer` section. -/
abbrev configuredRuns (conv : Conversions) (node : YamlMap) (generateId : ℕ → String)
    (filter : Option BlacklistFilterGovernor) (h : List Action) : Option State :=
  runs generateId (parseWriterConfig conv (some node)).maxRetries filter h

/-- The section asks for this mode. -/
def Selects (conv : Conversions) (node : YamlMap) (mode : WriteMode) : Prop :=
  (node "mode").bind conv.asString = some mode.name

end DualWriter
end ScyllaClusterSync
