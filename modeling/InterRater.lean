import InterRater.Command.Basic
import InterRater.Command.Events
import InterRater.Command.Line
import InterRater.Command.Load
import InterRater.Command.Run
import InterRater.Command.Usage
import InterRater.Config.Basic
import InterRater.Config.File
import InterRater.Digest.Sha256
import InterRater.Error
import InterRater.Failure
import InterRater.Files.FileSystem
import InterRater.Files.Path
import InterRater.Json.Basic
import InterRater.Json.Draft
import InterRater.Json.Numeral
import InterRater.Label.Basic
import InterRater.Label.Group
import InterRater.Log
import InterRater.Main
import InterRater.Number.Binary64
import InterRater.Number.Digits
import InterRater.Number.ErrorFunction
import InterRater.Number.Numeral
import InterRater.Number.Power
import InterRater.Number.Scalar
import InterRater.Number.Shortest
import InterRater.Number.Tail
import InterRater.Paired.Bands
import InterRater.Paired.Comparison
import InterRater.Paired.Report
import InterRater.Paired.Series
import InterRater.Pattern.Basic
import InterRater.Pattern.Brackets
import InterRater.Pattern.Escape
import InterRater.Pattern.Program
import InterRater.Pattern.Reader
import InterRater.Pattern.Search
import InterRater.Pattern.Size
import InterRater.Proofs.Command.Evaluate
import InterRater.Proofs.Command.Files
import InterRater.Proofs.Command.Printed
import InterRater.Proofs.Config.FieldValue
import InterRater.Proofs.Config.Overlay
import InterRater.Proofs.Config.Printed
import InterRater.Proofs.Config.Sound
import InterRater.Proofs.Config.Storable
import InterRater.Proofs.Files.Path
import InterRater.Proofs.Files.Saved
import InterRater.Proofs.Json.Grammar
import InterRater.Proofs.Json.Numeral
import InterRater.Proofs.Json.Range
import InterRater.Proofs.Json.Reading
import InterRater.Proofs.Json.Soundness
import InterRater.Proofs.Json.Strings
import InterRater.Proofs.Json.Value
import InterRater.Proofs.Label.Grammar
import InterRater.Proofs.Label.Partition
import InterRater.Proofs.Label.Standard
import InterRater.Proofs.Label.Token
import InterRater.Proofs.Number.Comparison
import InterRater.Proofs.Number.Exact
import InterRater.Proofs.Number.Extended
import InterRater.Proofs.Number.Integer
import InterRater.Proofs.Number.Operations
import InterRater.Proofs.Number.Order
import InterRater.Proofs.Number.Rounding
import InterRater.Proofs.Number.Sign
import InterRater.Proofs.Number.SquareRoot
import InterRater.Proofs.Number.Student
import InterRater.Proofs.Number.Value
import InterRater.Proofs.Order.Reorder
import InterRater.Proofs.Order.Sorting
import InterRater.Proofs.Order.Traversal
import InterRater.Proofs.Paired.ByMetric
import InterRater.Proofs.Paired.Consistency
import InterRater.Proofs.Paired.Counts
import InterRater.Proofs.Paired.Interval
import InterRater.Proofs.Paired.RoundedShift
import InterRater.Proofs.Paired.SampleOrder
import InterRater.Proofs.Paired.Series
import InterRater.Proofs.Paired.Swap
import InterRater.Proofs.Paired.Tolerance
import InterRater.Proofs.Paired.Totals
import InterRater.Proofs.Paired.Unit
import InterRater.Proofs.Paired.Variance
import InterRater.Proofs.Rating.Agreement
import InterRater.Proofs.Rating.AgreementRange
import InterRater.Proofs.Rating.Alpha
import InterRater.Proofs.Rating.AlphaRange
import InterRater.Proofs.Rating.Coherence
import InterRater.Proofs.Rating.Coincidence
import InterRater.Proofs.Rating.Composite
import InterRater.Proofs.Rating.Construction
import InterRater.Proofs.Rating.Contraction
import InterRater.Proofs.Rating.Description
import InterRater.Proofs.Rating.Diagnostics
import InterRater.Proofs.Rating.Disagreement
import InterRater.Proofs.Rating.Distribution
import InterRater.Proofs.Rating.Matrix
import InterRater.Proofs.Rating.Numbers
import InterRater.Proofs.Rating.Quartiles
import InterRater.Proofs.Rating.RaterOrder
import InterRater.Proofs.Rating.Recoding
import InterRater.Proofs.Rating.Reliability
import InterRater.Proofs.Rating.Scale
import InterRater.Proofs.Rating.Summary
import InterRater.Proofs.Rating.WordRange
import InterRater.Proofs.Statistics.CauchySchwarz
import InterRater.Proofs.Statistics.Correlation
import InterRater.Proofs.Statistics.Interpolation
import InterRater.Proofs.Statistics.LinearCorrelation
import InterRater.Proofs.Statistics.Moments
import InterRater.Proofs.Statistics.MonotoneRescaling
import InterRater.Proofs.Statistics.Percentile
import InterRater.Proofs.Statistics.RankCorrelation
import InterRater.Proofs.Statistics.RankCounts
import InterRater.Proofs.Statistics.Ranks
import InterRater.Proofs.Statistics.RoundedDeviation
import InterRater.Proofs.Statistics.RoundedMean
import InterRater.Proofs.Statistics.RoundedNoise
import InterRater.Proofs.Statistics.Variation
import InterRater.Proofs.Table.Columns
import InterRater.Proofs.Table.Layout
import InterRater.Proofs.Table.Scores
import InterRater.Proofs.Table.Survey
import InterRater.Proofs.Table.Written
import InterRater.Proofs.Text.Trim
import InterRater.Proofs.Text.Utf8
import InterRater.Rating.Agreement
import InterRater.Rating.Alpha
import InterRater.Rating.Description
import InterRater.Rating.Matrix
import InterRater.Rating.Reliability
import InterRater.Rating.Scale
import InterRater.Rating.Summary
import InterRater.Report.Encode
import InterRater.Report.File
import InterRater.Report.Manifest
import InterRater.Report.Timestamp
import InterRater.Statistics.Correlation
import InterRater.Statistics.Moments
import InterRater.Statistics.Ranks
import InterRater.Table.Lines
import InterRater.Table.Scores
import InterRater.Table.Survey
import InterRater.Text.Age
import InterRater.Text.BinaryProperty
import InterRater.Text.Blank
import InterRater.Text.ByteRanges
import InterRater.Text.CaseFold
import InterRater.Text.Category
import InterRater.Text.CharSet
import InterRater.Text.DecimalDigit
import InterRater.Text.Distances
import InterRater.Text.Hidden
import InterRater.Text.Property
import InterRater.Text.Quoted
import InterRater.Text.Script
import InterRater.Text.Split
import InterRater.Text.Utf8
import InterRater.Text.Word
