import SeriesScript.Evaluation.Session
import SeriesScript.Main
import SeriesScript.Proofs.Calendar.Months
import SeriesScript.Proofs.Evaluation.BindingList
import SeriesScript.Proofs.Evaluation.Handled
import SeriesScript.Proofs.Evaluation.Inputs
import SeriesScript.Proofs.Evaluation.OldestFirst
import SeriesScript.Proofs.Language.Completeness
import SeriesScript.Proofs.Language.Soundness
import SeriesScript.Proofs.Language.Acceptance
import SeriesScript.Proofs.Evaluation.Correspondence
import SeriesScript.Proofs.Evaluation.InStep
import SeriesScript.Proofs.Evaluation.Alike
import SeriesScript.Proofs.Evaluation.Renaming
import SeriesScript.Proofs.Evaluation.Unused
import SeriesScript.Proofs.Language.Partition
import SeriesScript.Proofs.Series.Stable
import SeriesScript.Proofs.Evaluation.StorageOrder
import SeriesScript.Proofs.Evaluation.Streams
import SeriesScript.Proofs.Evaluation.Sessions
import SeriesScript.Proofs.Language.Spans
import SeriesScript.Proofs.Language.Relocation
import SeriesScript.Proofs.Language.Newline
import SeriesScript.Proofs.Language.Lines
import SeriesScript.Proofs.Language.Untagged
import SeriesScript.Proofs.Evaluation.Untagged
import SeriesScript.Proofs.CommandLine.Prediction
import SeriesScript.Proofs.Evaluation.Lengths
import SeriesScript.Proofs.Evaluation.Origins
import SeriesScript.Proofs.Evaluation.InsertionOrder
import SeriesScript.Proofs.Series.Calls
import SeriesScript.Proofs.Series.Interleaving
import SeriesScript.Proofs.Series.Matching
import SeriesScript.Proofs.Window.Starts
import SeriesScript.Proofs.Window.Units
import SeriesScript.Proofs.Window.CalendarBins
import SeriesScript.Proofs.Window.Trailing
import SeriesScript.Proofs.Scope.Violations
import SeriesScript.Proofs.Language.Writing
import SeriesScript.Proofs.Language.Nesting
import SeriesScript.Proofs.Time.Resolution
import SeriesScript.Proofs.Window.Nesting
import SeriesScript.Proofs.Window.Dated
import SeriesScript.Proofs.Window.Months
import SeriesScript.Proofs.Window.EqualWindows
import SeriesScript.Proofs.Window.Extension
import SeriesScript.Proofs.Window.Reduced
import SeriesScript.Proofs.Window.Rebinning
import SeriesScript.Proofs.Language.FirstFault
import SeriesScript.Proofs.Language.LineBreaks
import SeriesScript.Proofs.Language.OneLine
import SeriesScript.Proofs.Window.CalendarEnd
import SeriesScript.Proofs.Decimal.FullSignificand
import SeriesScript.Proofs.Series.Neighbours
import SeriesScript.Proofs.Evaluation.BindingHistory
import SeriesScript.Proofs.Series.Splitting
import SeriesScript.Proofs.Reduction.Median
import SeriesScript.Proofs.Time.PeriodText
import SeriesScript.Proofs.Language.Quoting
import SeriesScript.Proofs.Time.Multiples
