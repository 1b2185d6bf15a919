import ScyllaClusterSync.Lib.Transition
import ScyllaClusterSync.Lib.Trace
import ScyllaClusterSync.Lib.Pool
import ScyllaClusterSync.Lib.KVMap
import ScyllaClusterSync.Svckit.FilterGovernor
import ScyllaClusterSync.DualWriter.Filter
import ScyllaClusterSync.DualWriter.Writer
import ScyllaClusterSync.DualWriter.WriterSystem
import ScyllaClusterSync.DualWriter.WriterSystemTheorems
import ScyllaClusterSync.DualWriter.WriterHistory
import ScyllaClusterSync.DualWriter.RetryQueue
import ScyllaClusterSync.DualWriter.ShadowWriteTheorems
import ScyllaClusterSync.DualWriter.AttemptCounter
import ScyllaClusterSync.DualWriter.RetryBoundTheorems
import ScyllaClusterSync.DualWriter.WriteTheorems
import ScyllaClusterSync.DualWriter.Convergence
import ScyllaClusterSync.DualWriter.ConvergenceTheorems
import ScyllaClusterSync.DualWriter.FilterGateTheorems
import ScyllaClusterSync.DualWriter.TableGateTheorems
import ScyllaClusterSync.DualWriter.WriterCountersTheorems
import ScyllaClusterSync.DualWriter.GetStats
import ScyllaClusterSync.DualWriter.GetStatsTheorems
import ScyllaClusterSync.DualWriter.CqlFrame
import ScyllaClusterSync.DualWriter.CqlServer
import ScyllaClusterSync.DualWriter.CqlServerTheorems
import ScyllaClusterSync.DualWriter.PreparedStmtTheorems
import ScyllaClusterSync.DualWriter.CqlStream
import ScyllaClusterSync.DualWriter.LengthPrefixTheorems
import ScyllaClusterSync.DualWriter.CqlStreamTheorems
import ScyllaClusterSync.DualWriter.InterceptionTheorems
import ScyllaClusterSync.DualWriter.ProxySession
import ScyllaClusterSync.DualWriter.ProxySessionTheorems
import ScyllaClusterSync.DualWriter.KeyspaceTheorems
import ScyllaClusterSync.DualWriter.WriteMode
import ScyllaClusterSync.DualWriter.WriteModeTheorems
import ScyllaClusterSync.DualWriter.WriteStatement
import ScyllaClusterSync.DualWriter.SpellingTheorems
import ScyllaClusterSync.Lib.EqualWidth
import ScyllaClusterSync.SSTableLoader.TokenRange
import ScyllaClusterSync.SSTableLoader.TokenRangeTheorems
import ScyllaClusterSync.SSTableLoader.Filter
import ScyllaClusterSync.SSTableLoader.Loader
import ScyllaClusterSync.SSTableLoader.LoaderTheorems
import ScyllaClusterSync.SSTableLoader.CompletionTheorems
import ScyllaClusterSync.SSTableLoader.BatchLoop
import ScyllaClusterSync.SSTableLoader.DispatchTheorems
import ScyllaClusterSync.SSTableLoader.BlacklistGateTheorems
import ScyllaClusterSync.SSTableLoader.SingleMigrationTheorems
import ScyllaClusterSync.SSTableLoader.TableCountersTheorems
import ScyllaClusterSync.SSTableLoader.LiveCopy
import ScyllaClusterSync.SSTableLoader.LiveCopyTheorems
import ScyllaClusterSync.SSTableLoader.Config
import ScyllaClusterSync.SSTableLoader.TerminationTheorems
import ScyllaClusterSync.SSTableLoader.PauseGateTheorems
import ScyllaClusterSync.SSTableLoader.StalePauseTheorems
import ScyllaClusterSync.SSTableLoader.RunningFlagTheorems
import ScyllaClusterSync.SSTableLoader.RangeFailureTheorems
import ScyllaClusterSync.SSTableLoader.TableSelection
import ScyllaClusterSync.SSTableLoader.TableSelectionTheorems
import ScyllaClusterSync.Svckit.HotReload
import ScyllaClusterSync.DualReader.Filter
import ScyllaClusterSync.DualReader.AndGateTheorems
import ScyllaClusterSync.Services.HotReloadTheorems
import ScyllaClusterSync.Services.WildcardTheorems
import ScyllaClusterSync.DualReader.Discrepancy
import ScyllaClusterSync.Svckit.Database
import ScyllaClusterSync.DualReader.Reconciliation
import ScyllaClusterSync.DualReader.ReconciliationTheorems
import ScyllaClusterSync.Lib.Rounding
import ScyllaClusterSync.DualReader.Validator
import ScyllaClusterSync.DualReader.ValidatorTheorems
import ScyllaClusterSync.DualReader.DiscrepancySystem
import ScyllaClusterSync.DualReader.DiscrepancySystemTheorems
import ScyllaClusterSync.DualReader.Reader
import ScyllaClusterSync.DualReader.FilterStatsTheorems
import ScyllaClusterSync.SSTableLoader.IndexManager
import ScyllaClusterSync.SSTableLoader.IndexManagerTheorems
import ScyllaClusterSync.DualWriter.TableTargetTheorems
import ScyllaClusterSync.DualWriter.WriteQueryTheorems
import ScyllaClusterSync.Lib.Retry
import ScyllaClusterSync.SSTableLoader.RowInsert
import ScyllaClusterSync.SSTableLoader.RowInsertTheorems
import ScyllaClusterSync.SSTableLoader.RowFilter
import ScyllaClusterSync.SSTableLoader.RowFilterTheorems
import ScyllaClusterSync.SSTableLoader.IndexAgreementTheorems
import ScyllaClusterSync.SSTableLoader.VerifyIndexes
import ScyllaClusterSync.SSTableLoader.VerifyIndexesTheorems
import ScyllaClusterSync.Services.RowPayloadTheorems
import ScyllaClusterSync.Lib.Typestate
import ScyllaClusterSync.Svckit.Connection
import ScyllaClusterSync.Svckit.ConnectionTheorems
import ScyllaClusterSync.SSTableLoader.CoverageTheorems
import ScyllaClusterSync.Lib.FixedHex
import ScyllaClusterSync.DualWriter.GenerateId
import ScyllaClusterSync.Lib.Potential
import ScyllaClusterSync.DualWriter.RetryDrainTheorems
import ScyllaClusterSync.DualWriter.ProxyRelay
import ScyllaClusterSync.DualReader.ContinuousValidation
import ScyllaClusterSync.Lib.Overlay
import ScyllaClusterSync.DualWriter.WriteMetrics
import ScyllaClusterSync.Services.FilterRules
import ScyllaClusterSync.Lib.BoundedLog
import ScyllaClusterSync.TuiDash.State
import ScyllaClusterSync.TuiDash.Api
import ScyllaClusterSync.TuiDash.LiveTheorems
import ScyllaClusterSync.SSTableLoader.RowCountersTheorems
import ScyllaClusterSync.Services.StatusFeed
import ScyllaClusterSync.Services.StatusFeedTheorems
import ScyllaClusterSync.DualWriter.ProxyService
import ScyllaClusterSync.DualWriter.ProxyServiceTheorems
