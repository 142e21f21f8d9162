import RowLog.Main
import RowLog.Proofs.PendingDifference
import RowLog.FileTree
import RowLog.Proofs.DrainOrder
import RowLog.Proofs.NetDifference
import RowLog.Proofs.ReplayOrder
import RowLog.Proofs.CompactorSteps
import RowLog.Proofs.FixedKeys
import RowLog.Proofs.Segments
import RowLog.Proofs.Lists
import RowLog.Proofs.NamedTables
import RowLog.Proofs.TimelineAnswers
import RowLog.Proofs.StreamFiles
import RowLog.Proofs.WorkingFiles
import RowLog.Proofs.PartitionShares
import RowLog.Proofs.PartitionFiles
import RowLog.Proofs.Selection
import RowLog.Proofs.Boundary
import RowLog.Proofs.SchemaBoundaries
import RowLog.Proofs.Frames
import RowLog.Proofs.LiveView
import RowLog.Proofs.SingleRow
import RowLog.Proofs.PendingCounts
import RowLog.Proofs.RefusedStatements
import RowLog.Proofs.PrefixCodes
import RowLog.Proofs.RoundingIntervals
import RowLog.Proofs.DecimalNumbers
import RowLog.Proofs.WrittenNumbers
import RowLog.Proofs.JsonText
import RowLog.Proofs.DecimalSpellings
import RowLog.Proofs.EqualKeys
import RowLog.Proofs.RowIdentity
import RowLog.Proofs.WrittenTokens
import RowLog.Proofs.WrittenDocuments
import RowLog.Proofs.StoredValues
import RowLog.Proofs.StoredColumns
import RowLog.Proofs.StoredRecords
import RowLog.Proofs.OutputStamps
import RowLog.Proofs.StatementTokens
import RowLog.Proofs.SplitStatements
import RowLog.Proofs.DefinitionChanges
import RowLog.Proofs.IndexNames
import RowLog.Proofs.TableDefinitions
import RowLog.Proofs.CatalogTables
import RowLog.Proofs.KeyColumns
import RowLog.Proofs.PrimaryNames
import RowLog.Proofs.WrittenStatements
import RowLog.Proofs.NamedIndexes
import RowLog.Proofs.ListElements
import RowLog.Proofs.IndexDeclarations
import RowLog.Proofs.DeclaredKeys
import RowLog.Proofs.DrainedEntries
import RowLog.Proofs.UnrelatedKeys
import RowLog.Proofs.ChangedBytes
import RowLog.Proofs.PassSizes
import RowLog.Proofs.CompactionCounts
import RowLog.Proofs.OutputFiles
import RowLog.Proofs.PrintedTokens
import RowLog.Proofs.RenderedStatements
import RowLog.Proofs.AcceptedStatements
import RowLog.Proofs.KeyTexts
import RowLog.Proofs.LineBreaks
import RowLog.Proofs.Reductions
import RowLog.Proofs.Schedules
