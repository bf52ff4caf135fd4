import TypedSeries.Main
import TypedSeries.Proofs.NumberText
import TypedSeries.Proofs.PipelineText
import TypedSeries.Proofs.PipelineGrammar
import TypedSeries.Proofs.ColumnNames
import TypedSeries.Proofs.RegistryHistory
import TypedSeries.Proofs.SessionRun
import TypedSeries.Proofs.StoredRow
import TypedSeries.Proofs.QueryPaths
import TypedSeries.Proofs.BucketHistory
import TypedSeries.Proofs.HandleRecords
import TypedSeries.Proofs.FilterMeaning
import TypedSeries.Proofs.TagFilters
import TypedSeries.Proofs.LineText
import TypedSeries.Proofs.ResultRows
import TypedSeries.Proofs.LineFraming
import TypedSeries.Proofs.NormalText
import TypedSeries.Proofs.RawForms
import TypedSeries.Proofs.MemoryMachine
import TypedSeries.Proofs.TagColumns
import TypedSeries.Proofs.Conversations
import TypedSeries.Proofs.Binding
import TypedSeries.Proofs.OutputNames
import TypedSeries.Proofs.HealthAddress
import TypedSeries.Proofs.JsonText
import TypedSeries.Proofs.SchemaText
import TypedSeries.Proofs.TokenArguments
import TypedSeries.Proofs.TokenRequests
import TypedSeries.Proofs.TokenRuns
import TypedSeries.Proofs.BatchTimes
import TypedSeries.Proofs.PivotedRows
import TypedSeries.Proofs.BucketPages
import TypedSeries.Proofs.RangeStart
import TypedSeries.Proofs.TargetPaths
import TypedSeries.Proofs.RequestTargets
import TypedSeries.Proofs.BucketDeletion
import TypedSeries.Proofs.BucketCreation
import TypedSeries.Proofs.RangeText
import TypedSeries.Proofs.DeclarationFaults
import TypedSeries.Proofs.HydratedRows
import TypedSeries.Proofs.BareLiterals
import TypedSeries.Proofs.UnreadText
import TypedSeries.Proofs.MixedOrder
import TypedSeries.Proofs.BucketOverview
import TypedSeries.Proofs.QuotedLiterals
import TypedSeries.Proofs.SchemaViews
import TypedSeries.Proofs.HealthVerdict
import TypedSeries.Proofs.SettingsPrecedence
