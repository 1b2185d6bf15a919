import ScyllaClusterSync.DualReader.Filter
import ScyllaClusterSync.DualWriter.Filter
import ScyllaClusterSync.SSTableLoader.Filter
import ScyllaClusterSync.Svckit.HotReload

/-!
# Hot reload does not read the rules file

The three governors as classes derived from `FilterGovernorBase`. `reload_config` fills the
sets from `config_`, which nobody writes after the constructor, so a reload follows an edit
exactly where the edit changes no answer: `hot_reload_follows_iff`.
-/

namespace ScyllaClusterSync
namespace Services

open Lib Svckit

/-! ## The blacklist governors -/

/-- The decision functions of `FilterGovernorBase`. -/
inductive GovernorQuery where
  | shouldSkipTable (table : String)
  | checkTenantId (tenantId : String)
  | isEnabled

inductive GovernorAnswer where
  | decision (d : FilterDecision)
  | enabled (b : Bool)
deriving DecidableEq

/-- What a blacklist governor with these rules answers. -/
def blacklistAnswer (config : FilterConfig) : GovernorQuery → GovernorAnswer
  | .shouldSkipTable table =>
    .decision (if (Blacklists.load config).skipsTable table then .skipTable else .allow)
  | .checkTenantId tenantId =>
    .decision (if (Blacklists.load config).skipsTenant tenantId then .skipTenant else .allow)
  | .isEnabled => .enabled (Blacklists.load config).enabled

def dualWriterGovernor :
    GovernorClass FilterConfig DualWriter.BlacklistFilterGovernor GovernorQuery GovernorAnswer where
  ofConfig := .ofConfig
  reloadConfig := .reloadConfig
  decide g
    | .shouldSkipTable table => (.decision (g.shouldSkipTable table).1, (g.shouldSkipTable table).2)
    | .checkTenantId tenantId =>
      (.decision (g.checkTenantId tenantId).1, (g.checkTenantId tenantId).2)
    | .isEnabled => (.enabled g.isEnabled, g)

def sstableLoaderGovernor :
    GovernorClass FilterConfig SSTableLoader.SSTableBlacklistGovernor GovernorQuery
      GovernorAnswer where
  ofConfig := .ofConfig
  reloadConfig := .reloadConfig
  decide g
    | .shouldSkipTable table => (.decision (g.shouldSkipTable table).1, (g.shouldSkipTable table).2)
    | .checkTenantId tenantId =>
      (.decision (g.checkTenantId tenantId).1, (g.checkTenantId tenantId).2)
    | .isEnabled => (.enabled g.isEnabled, g)

theorem answersConfig_dualWriter : AnswersConfig dualWriterGovernor (·.config) blacklistAnswer where
  config_ofConfig _ := rfl
  config_reloadConfig _ := rfl
  config_decide g q := by
    cases q with
    | shouldSkipTable table => exact g.config_shouldSkipTable table
    | checkTenantId tenantId => exact g.config_checkTenantId tenantId
    | isEnabled => rfl
  decide_fst g q := by
    cases q with
    | shouldSkipTable table => exact congrArg GovernorAnswer.decision (g.shouldSkipTable_fst table)
    | checkTenantId tenantId =>
      exact congrArg GovernorAnswer.decision (g.checkTenantId_fst tenantId)
    | isEnabled => exact congrArg GovernorAnswer.enabled g.isEnabled_eq

theorem answersConfig_sstableLoader :
    AnswersConfig sstableLoaderGovernor (·.config) blacklistAnswer where
  config_ofConfig _ := rfl
  config_reloadConfig _ := rfl
  config_decide g q := by
    cases q with
    | shouldSkipTable table => exact g.config_shouldSkipTable table
    | checkTenantId tenantId => exact g.config_checkTenantId tenantId
    | isEnabled => rfl
  decide_fst g q := by
    cases q with
    | shouldSkipTable table => exact congrArg GovernorAnswer.decision (g.shouldSkipTable_fst table)
    | checkTenantId tenantId =>
      exact congrArg GovernorAnswer.decision (g.checkTenantId_fst tenantId)
    | isEnabled => exact congrArg GovernorAnswer.enabled g.isEnabled_eq

/-! ## The whitelist governor -/

/-- The dual-reader asks its governor for a table and a domain at once as well. -/
inductive ReaderQuery where
  | base (q : GovernorQuery)
  | decide (table domainId : String)

inductive ReaderAnswer where
  | base (a : GovernorAnswer)
  | read (d : DualReader.ReadDecision)
deriving DecidableEq

/-- What a whitelist governor with these rules answers. -/
def whitelistAnswer (config : DualReader.DualReaderFilterConfig) : ReaderQuery → ReaderAnswer
  | .base (.shouldSkipTable table) =>
    .base (.decision (if DualReader.readsBoth config table "" then .allow else .sourceOnly))
  | .base (.checkTenantId domainId) =>
    .base (.decision
      (if config.enabled && (DualReader.Whitelists.load config).rejectsDomain domainId then
        .sourceOnly else .allow))
  | .base .isEnabled => .base (.enabled config.enabled)
  | .decide table domainId =>
    .read (if DualReader.readsBoth config table domainId then .dualRead else .sourceOnly)

def dualReaderGovernor :
    GovernorClass DualReader.DualReaderFilterConfig DualReader.DualReaderFilterGovernor ReaderQuery
      ReaderAnswer where
  ofConfig := .ofConfig
  reloadConfig := .reloadConfig
  decide g
    | .base (.shouldSkipTable table) =>
      (.base (.decision (g.shouldSkipTable table).1), (g.shouldSkipTable table).2)
    | .base (.checkTenantId domainId) =>
      (.base (.decision (g.checkTenantId domainId).1), (g.checkTenantId domainId).2)
    | .base .isEnabled => (.base (.enabled g.isEnabled), g)
    | .decide table domainId => (.read (g.decide table domainId).1, (g.decide table domainId).2)

theorem answersConfig_dualReader : AnswersConfig dualReaderGovernor (·.config) whitelistAnswer where
  config_ofConfig _ := rfl
  config_reloadConfig _ := rfl
  config_decide g q := by
    cases q with
    | base q =>
      cases q with
      | shouldSkipTable table => exact g.config_shouldSkipTable table
      | checkTenantId domainId => exact g.config_checkTenantId domainId
      | isEnabled => rfl
    | decide table domainId => exact g.config_decide table domainId
  decide_fst g q := by
    cases q with
    | base q =>
      cases q with
      | shouldSkipTable table =>
        exact congrArg (fun d => ReaderAnswer.base (.decision d)) (g.shouldSkipTable_fst table)
      | checkTenantId domainId =>
        exact congrArg (fun d => ReaderAnswer.base (.decision d)) (g.checkTenantId_fst domainId)
      | isEnabled => rfl
    | decide table domainId => exact congrArg ReaderAnswer.read (g.decide_fst table domainId)

/-! ## The result -/

/-- For each governor and every sequence of edits, reloads and decisions: the decisions after
a reload that follows an edit are those of a governor constructed from the rules reloaded,
exactly when these rules give every query that is asked the answer of the rules at the
start. -/
theorem hot_reload_follows_iff (start : FilterConfig)
    (h : List (ReloadAction FilterConfig GovernorQuery))
    (readerStart : DualReader.DualReaderFilterConfig)
    (readerHistory : List (ReloadAction DualReader.DualReaderFilterConfig ReaderQuery)) :
    (Along (reloadStep dualWriterGovernor) (.start dualWriterGovernor start)
        (FollowsRules dualWriterGovernor) h ↔
      Along (reloadStep dualWriterGovernor) (.start dualWriterGovernor start)
        (SameAnswer blacklistAnswer start) h) ∧
    (Along (reloadStep sstableLoaderGovernor) (.start sstableLoaderGovernor start)
        (FollowsRules sstableLoaderGovernor) h ↔
      Along (reloadStep sstableLoaderGovernor) (.start sstableLoaderGovernor start)
        (SameAnswer blacklistAnswer start) h) ∧
    (Along (reloadStep dualReaderGovernor) (.start dualReaderGovernor readerStart)
        (FollowsRules dualReaderGovernor) readerHistory ↔
      Along (reloadStep dualReaderGovernor) (.start dualReaderGovernor readerStart)
        (SameAnswer whitelistAnswer readerStart) readerHistory) :=
  ⟨answersConfig_dualWriter.followsRules_iff start h,
    answersConfig_sstableLoader.followsRules_iff start h,
    answersConfig_dualReader.followsRules_iff readerStart readerHistory⟩

/-- A table is added to the blacklist on disk, or to the whitelist; the reload comes after
that, and the next decision is the old one. -/
theorem reload_ignores_edit :
    (¬ ∀ (start : FilterConfig) (h : List (ReloadAction FilterConfig GovernorQuery)),
      Along (reloadStep dualWriterGovernor) (.start dualWriterGovernor start)
        (FollowsRules dualWriterGovernor) h) ∧
    (¬ ∀ (start : FilterConfig) (h : List (ReloadAction FilterConfig GovernorQuery)),
      Along (reloadStep sstableLoaderGovernor) (.start sstableLoaderGovernor start)
        (FollowsRules sstableLoaderGovernor) h) ∧
    ¬ ∀ (start : DualReader.DualReaderFilterConfig)
      (h : List (ReloadAction DualReader.DualReaderFilterConfig ReaderQuery)),
      Along (reloadStep dualReaderGovernor) (.start dualReaderGovernor start)
        (FollowsRules dualReaderGovernor) h := by
  refine ⟨?_, ?_, ?_⟩
  · intro hall
    have hsame := hall {} [.edit { tableBlacklist := ["app.files"] }, .reload,
      .decide (.shouldSkipTable "app.files")]
      [.edit { tableBlacklist := ["app.files"] }, .reload] (.decide (.shouldSkipTable "app.files"))
      [] _ _ rfl rfl rfl _ _ rfl rfl
    exact absurd hsame (by decide)
  · intro hall
    have hsame := hall {} [.edit { tableBlacklist := ["app.files"] }, .reload,
      .decide (.shouldSkipTable "app.files")]
      [.edit { tableBlacklist := ["app.files"] }, .reload] (.decide (.shouldSkipTable "app.files"))
      [] _ _ rfl rfl rfl _ _ rfl rfl
    exact absurd hsame (by decide)
  · intro hall
    have hsame := hall { enabled := true, compareTables := ["app.files"] }
      [.edit { enabled := true, compareTables := ["app.files", "app.users"] }, .reload,
        .decide (.decide "app.users" "")]
      [.edit { enabled := true, compareTables := ["app.files", "app.users"] }, .reload]
      (.decide (.decide "app.users" "")) [] _ _ rfl rfl rfl _ _ rfl rfl
    exact absurd hsame (by decide)

end Services
end ScyllaClusterSync
