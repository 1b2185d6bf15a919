import ScyllaClusterSync.DualWriter.WriterCountersTheorems
import ScyllaClusterSync.SSTableLoader.BlacklistGateTheorems
import ScyllaClusterSync.SSTableLoader.Config
import ScyllaClusterSync.Services.HotReloadTheorems

/-!
# The rules file, from the disk to the decisions of two services

The dual-writer and the sstable-loader read the same `filter-rules.yaml`, each with a
`load_filter_config` of its own. The dual-writer does not start without rules it can read; the
loader starts with none. `same_file_same_decisions` follows the file through both services: they
decide alike at every point of their runs, unless the loader has dropped the rules.

What the YAML library makes of a path, and `as<std::string>`, are parameters.
-/

namespace ScyllaClusterSync

open Lib

/-! ## `svckit/src/config.cpp`: `load_config_yaml` -/

namespace Svckit

open SSTableLoader (Node)

/-- What stands behind a path: no file, one that `YAML::LoadFile` does not take, or a document. -/
inductive ConfigFile where
  | missing
  | malformed (what : String)
  | document (root : Node)

/-- What loading a configuration throws. -/
inductive LoadError where
  | configError (what : String)
  | yamlException
deriving DecidableEq, Repr

/-- A step of the YAML library. -/
def yaml {α : Type} (x : Option α) : Except LoadError α :=
  x.elim (.error .yamlException) .ok

/-- `load_config_yaml`. -/
def loadConfigYaml (path : String) : ConfigFile → Except LoadError Node
  | .missing => .error (.configError ("[ConfigError] Config file not found: " ++ path))
  | .malformed what =>
    .error (.configError ("[ConfigError] YAML parse error in '" ++ path ++ "': " ++ what))
  | .document .null => .error (.configError ("[ConfigError] Empty config file: " ++ path))
  | .document root => .ok root

/-- `root[key]` of a constant node: `none` for `BadSubscript`, which a scalar throws. -/
def subscript (root : Node) (key : String) : Option (Option Node) :=
  match root with
  | .map entries => some (Node.lookup entries key)
  | .scalar _ => none
  | _ => some none

/-- `if (node[key]) for (const auto& t : node[key]) push_back(t.as<std::string>())`: a scalar has
no items, and the items of a map are no nodes that can be converted. -/
def strings (asString : Node → Option String) : Option Node → Option (List String)
  | some (.sequence items) => items.mapM asString
  | some (.map (_ :: _)) => none
  | _ => some []

end Svckit

open Svckit

/-! ## `services/dual-writer/src/config.cpp` -/

namespace DualWriter

open SSTableLoader (Node)

/-- `parse_filter_config`. -/
def parseFilterConfig (asString : Node → Option String) : Node → Option FilterConfig
  | .map entries => do
    let tenantBlacklist ← strings asString (Node.lookup entries "tenant_blacklist")
    let tableBlacklist ← strings asString (Node.lookup entries "table_blacklist")
    let tenantIdColumns ← strings asString (Node.lookup entries "tenant_id_columns")
    some { tenantBlacklist, tableBlacklist, tenantIdColumns }
  | _ => some {}

/-- `load_filter_config`. -/
def loadFilterConfig (asString : Node → Option String) (path : String) (file : ConfigFile) :
    Except LoadError FilterConfig := do
  let root ← loadConfigYaml path file
  match ← yaml (subscript root "filters") with
  | some filters => yaml (parseFilterConfig asString filters)
  | none => .ok {}

/-- The governor `main` constructs, unless it ends with the error. -/
def startGovernor (asString : Node → Option String) (path : String) (file : ConfigFile) :
    Except LoadError BlacklistFilterGovernor := do
  let config ← loadFilterConfig asString path file
  .ok (.ofConfig config)

end DualWriter

/-! ## `services/sstable-loader/src/filter.cpp` and `main.cpp` -/

namespace SSTableLoader

/-- The `filters` section in `load_filter_config`. -/
def parseFilterSection (asString : Node → Option String) (entries : List (String × Node)) :
    Option FilterConfig := do
  let tenantBlacklist ← strings asString (Node.lookup entries "tenant_blacklist")
  let tableBlacklist ← strings asString (Node.lookup entries "table_blacklist")
  let tenantIdColumns ← strings asString (Node.lookup entries "tenant_id_columns")
  some {
    tenantBlacklist, tableBlacklist
    tenantIdColumns := if tenantIdColumns.isEmpty then ["system_domain_id"] else tenantIdColumns }

/-- `load_filter_config`. -/
def loadFilterConfig (asString : Node → Option String) (path : String) (file : ConfigFile) :
    Except LoadError FilterConfig := do
  let root ← loadConfigYaml path file
  match ← yaml (subscript root "filters") with
  | some (.map entries) => yaml (parseFilterSection asString entries)
  | _ => .ok {}

/-- The governor `main` constructs: one without rules for `--skip-filters`, and when the rules
cannot be loaded. -/
def startGovernor (asString : Node → Option String) (skipFilters : Bool) (path : String)
    (file : ConfigFile) : SSTableBlacklistGovernor :=
  if skipFilters then .ofConfig {}
  else
    match loadFilterConfig asString path file with
    | .ok config => .ofConfig config
    | .error _ => .ofConfig {}

end SSTableLoader

namespace Services

open SSTableLoader (Node)

/-! ## The two readings of one file -/

/-- The rules of the loader: the lists of the dual-writer, and a default for the columns. -/
structure SameRules (writer loader : FilterConfig) : Prop where
  tenants : loader.tenantBlacklist = writer.tenantBlacklist
  tables : loader.tableBlacklist = writer.tableBlacklist
  columns : loader.tenantIdColumns = writer.tenantIdColumns ∨
    writer.tenantIdColumns = [] ∧ loader.tenantIdColumns = ["system_domain_id"]

theorem SameRules.refl (config : FilterConfig) : SameRules config config :=
  ⟨rfl, rfl, Or.inl rfl⟩

/-- Rules that differ in the columns alone give the same answers. -/
theorem SameRules.blacklistAnswer_eq {writer loader : FilterConfig} (h : SameRules writer loader)
    (q : GovernorQuery) : blacklistAnswer loader q = blacklistAnswer writer q := by
  have htables : (Blacklists.load loader).tables = (Blacklists.load writer).tables :=
    congrArg StringSet.ofList h.tables
  have htenants : (Blacklists.load loader).tenants = (Blacklists.load writer).tenants :=
    congrArg StringSet.ofList h.tenants
  cases q with
  | shouldSkipTable table =>
    have hskips : (Blacklists.load loader).skipsTable table =
        (Blacklists.load writer).skipsTable table := by
      rw [Blacklists.skipsTable, Blacklists.skipsTable, htables]
    rw [blacklistAnswer, hskips]
    rfl
  | checkTenantId tenantId =>
    have hskips : (Blacklists.load loader).skipsTenant tenantId =
        (Blacklists.load writer).skipsTenant tenantId := by
      rw [Blacklists.skipsTenant, Blacklists.skipsTenant, htenants]
    rw [blacklistAnswer, hskips]
    rfl
  | isEnabled =>
    have henabled : (Blacklists.load loader).enabled = (Blacklists.load writer).enabled := by
      rw [Blacklists.enabled, Blacklists.enabled, htables, htenants]
    rw [blacklistAnswer, henabled]
    rfl

/-- The two sections of the same document: both services can read it, or neither can. -/
theorem sameRules_section {asString : Node → Option String} (entries : List (String × Node)) :
    (∃ writer loader, DualWriter.parseFilterConfig asString (.map entries) = some writer ∧
      SSTableLoader.parseFilterSection asString entries = some loader ∧ SameRules writer loader) ∨
    (DualWriter.parseFilterConfig asString (.map entries) = none ∧
      SSTableLoader.parseFilterSection asString entries = none) := by
  simp only [DualWriter.parseFilterConfig, SSTableLoader.parseFilterSection]
  cases strings asString (Node.lookup entries "tenant_blacklist") with
  | none => exact Or.inr ⟨rfl, rfl⟩
  | some tenants =>
    cases strings asString (Node.lookup entries "table_blacklist") with
    | none => exact Or.inr ⟨rfl, rfl⟩
    | some tables =>
      cases strings asString (Node.lookup entries "tenant_id_columns") with
      | none => exact Or.inr ⟨rfl, rfl⟩
      | some columns =>
        refine Or.inl ⟨_, _, rfl, rfl, rfl, rfl, ?_⟩
        cases columns with
        | nil => exact Or.inr ⟨rfl, rfl⟩
        | cons c cs => exact Or.inl rfl

/-- Either both services find rules in a file, and the same ones, or neither does. -/
theorem sameRules_loadFilterConfig (asString : Node → Option String) (file : ConfigFile)
    (writerPath loaderPath : String) :
    (∃ writer loader, DualWriter.loadFilterConfig asString writerPath file = .ok writer ∧
      SSTableLoader.loadFilterConfig asString loaderPath file = .ok loader ∧
        SameRules writer loader) ∨
    (∃ e e', DualWriter.loadFilterConfig asString writerPath file = .error e ∧
      SSTableLoader.loadFilterConfig asString loaderPath file = .error e') := by
  cases file with
  | missing => exact Or.inr ⟨_, _, rfl, rfl⟩
  | malformed what => exact Or.inr ⟨_, _, rfl, rfl⟩
  | document root =>
    cases root with
    | null => exact Or.inr ⟨_, _, rfl, rfl⟩
    | scalar text => exact Or.inr ⟨_, _, rfl, rfl⟩
    | sequence items => exact Or.inl ⟨_, _, rfl, rfl, .refl _⟩
    | map entries =>
      have hroot : ∀ path, loadConfigYaml path (.document (.map entries)) = .ok (.map entries) :=
        fun _ => rfl
      have hsub : subscript (.map entries) "filters" = some (Node.lookup entries "filters") := rfl
      unfold DualWriter.loadFilterConfig SSTableLoader.loadFilterConfig
      rw [hroot, hroot]
      simp only [hsub, yaml, Option.elim_some, bind, Except.bind]
      cases Node.lookup entries "filters" with
      | none => exact Or.inl ⟨_, _, rfl, rfl, .refl _⟩
      | some filters =>
        cases filters with
        | null => exact Or.inl ⟨_, _, rfl, rfl, .refl _⟩
        | scalar text => exact Or.inl ⟨_, _, rfl, rfl, .refl _⟩
        | sequence items => exact Or.inl ⟨_, _, rfl, rfl, .refl _⟩
        | map fs =>
          rcases @sameRules_section asString fs with ⟨w, l, hw, hl, hsame⟩ | ⟨hw, hl⟩
          · exact Or.inl ⟨w, l, by simp [hw], by simp [hl], hsame⟩
          · exact Or.inr ⟨.yamlException, .yamlException, by simp [hw], by simp [hl]⟩

/-! ## The decisions of the two services -/

/-- What a governor without rules answers. -/
def answerWithoutRules : GovernorQuery → GovernorAnswer
  | .isEnabled => .enabled false
  | _ => .decision .allow

theorem blacklistAnswer_empty (q : GovernorQuery) :
    blacklistAnswer {} q = answerWithoutRules q := by
  cases q <;> rfl

/-- The governor of the dual-writer at any point of its runs. -/
theorem dualWriter_answers {config : FilterConfig} {generateId : ℕ → String} {maxRetries : UInt32}
    {h : List DualWriter.Action} {p : DualWriter.State}
    (hrun : DualWriter.runs generateId maxRetries (some (.ofConfig config)) h = some p) :
    ∃ g, p.mem.filter = some g ∧
      ∀ q, (dualWriterGovernor.decide g q).1 = blacklistAnswer config q := by
  have hconfig : DualWriter.filterConfig p.mem = some config :=
    DualWriter.filterConfig_of_runs hrun
  obtain ⟨g, hg, hgconfig⟩ := DualWriter.configured_iff.mpr hconfig
  exact ⟨g, hg, fun q => by rw [answersConfig_dualWriter.decide_fst, hgconfig]⟩

/-- The governor of the loader at any point of its runs. -/
theorem sstableLoader_answers {config : FilterConfig} {cfg : SSTableLoader.LoaderConfig}
    {h : List SSTableLoader.Action} {p : SSTableLoader.State}
    (hrun : SSTableLoader.runs cfg (some (.ofConfig config)) h = some p) :
    ∃ g, p.mem.filter = some g ∧
      ∀ q, (sstableLoaderGovernor.decide g q).1 = blacklistAnswer config q := by
  have hinv := SSTableLoader.gateInv_of_runs (K := Set.univ) hrun fun k _ => Set.mem_univ k
  obtain ⟨g, hg, hgconfig⟩ := hinv.1.configured
  exact ⟨g, hg, fun q => by rw [answersConfig_sstableLoader.decide_fst, hgconfig]⟩

/-- One rules file for both services. The loader, started with `--skip-filters` or from a file
that keeps the dual-writer from starting, allows every table and every tenant at every point of
its runs. Otherwise it answers every query as the dual-writer does, at any point of the runs of
the two. -/
theorem same_file_same_decisions (asString : Node → Option String) (writerPath loaderPath : String)
    (file : ConfigFile) (skipFilters : Bool) (cfg : SSTableLoader.LoaderConfig)
    (hl : List SSTableLoader.Action) (pl : SSTableLoader.State)
    (hloader : SSTableLoader.runs cfg
      (some (SSTableLoader.startGovernor asString skipFilters loaderPath file)) hl = some pl) :
    ∃ gl, pl.mem.filter = some gl ∧
      ((skipFilters = true ∨ ∃ e, DualWriter.startGovernor asString writerPath file = .error e) →
        ∀ q, (sstableLoaderGovernor.decide gl q).1 = answerWithoutRules q) ∧
      (skipFilters = false → ∀ g, DualWriter.startGovernor asString writerPath file = .ok g →
        ∀ (generateId : ℕ → String) (maxRetries : UInt32) (hw : List DualWriter.Action)
          (pw : DualWriter.State), DualWriter.runs generateId maxRetries (some g) hw = some pw →
        ∃ gw, pw.mem.filter = some gw ∧
          ∀ q, (sstableLoaderGovernor.decide gl q).1 = (dualWriterGovernor.decide gw q).1) := by
  unfold SSTableLoader.startGovernor at hloader
  unfold DualWriter.startGovernor
  cases skipFilters with
  | true =>
    rw [if_pos rfl] at hloader
    obtain ⟨gl, hgl, hanswer⟩ := sstableLoader_answers hloader
    refine ⟨gl, hgl, ?_, ?_⟩
    · intro _ q
      rw [hanswer, blacklistAnswer_empty]
    · intro hskip
      exact absurd hskip (by decide)
  | false =>
    rw [if_neg Bool.false_ne_true] at hloader
    rcases sameRules_loadFilterConfig asString file writerPath loaderPath with
      ⟨writer, loader, hwriter, hrules, hsame⟩ | ⟨e, e', hwriter, hrules⟩
    · rw [hrules] at hloader
      obtain ⟨gl, hgl, hanswer⟩ := sstableLoader_answers hloader
      refine ⟨gl, hgl, ?_, ?_⟩
      · intro hnone
        rcases hnone with hskip | ⟨e, he⟩
        · exact absurd hskip (by decide)
        · rw [hwriter] at he
          exact absurd he (by simp [bind, Except.bind])
      · intro _ g hg generateId maxRetries hw pw hrun
        rw [hwriter] at hg
        obtain rfl := Except.ok.inj hg
        obtain ⟨gw, hgw, hanswer'⟩ := dualWriter_answers hrun
        exact ⟨gw, hgw, fun q => by rw [hanswer, hanswer', hsame.blacklistAnswer_eq]⟩
    · rw [hrules] at hloader
      obtain ⟨gl, hgl, hanswer⟩ := sstableLoader_answers hloader
      refine ⟨gl, hgl, ?_, ?_⟩
      · intro _ q
        rw [hanswer, blacklistAnswer_empty]
      · intro _ g hg
        rw [hwriter] at hg
        exact absurd hg (by simp [bind, Except.bind])

/-- `as<std::string>()` of a scalar. -/
def scalarText : Node → Option String
  | .scalar text => some text
  | _ => none

/-- A rules file with one table and no columns. -/
def migrationsFile : ConfigFile :=
  .document (.map [("filters", .map [("table_blacklist", .sequence [.scalar "*.migrations"])])])

/-- The loader asks about a table, and its rules are reloaded. -/
theorem same_file_same_decisions_migrations :
    ∃ gl, (some (SSTableLoader.startGovernor scalarText false "config/filter-rules.yaml"
        migrationsFile)).map SSTableLoader.SSTableBlacklistGovernor.reloadConfig = some gl ∧
      ((false = true ∨ ∃ e, DualWriter.startGovernor scalarText "config/filter-rules.yaml"
          migrationsFile = .error e) →
        ∀ q, (sstableLoaderGovernor.decide gl q).1 = answerWithoutRules q) ∧
      (false = false → ∀ g, DualWriter.startGovernor scalarText "config/filter-rules.yaml"
          migrationsFile = .ok g →
        ∀ (generateId : ℕ → String) (maxRetries : UInt32) (hw : List DualWriter.Action)
          (pw : DualWriter.State), DualWriter.runs generateId maxRetries (some g) hw = some pw →
        ∃ gw, pw.mem.filter = some gw ∧
          ∀ q, (sstableLoaderGovernor.decide gl q).1 = (dualWriterGovernor.decide gw q).1) :=
  same_file_same_decisions scalarText "config/filter-rules.yaml" "config/filter-rules.yaml"
    migrationsFile false {} [.env .reload] _ rfl

end Services
end ScyllaClusterSync
