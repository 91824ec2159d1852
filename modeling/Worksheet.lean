import Worksheet.Command.Files
import Worksheet.Main
import Worksheet.Proofs.Address.Words
import Worksheet.Proofs.Evaluation.Freezing
import Worksheet.Proofs.Evaluation.Range
import Worksheet.Proofs.Formula.ReadingBack
import Worksheet.Proofs.Formula.QuotedColon
import Worksheet.Proofs.Region.Walking
import Worksheet.Proofs.Recalculation.EntryOrder
import Worksheet.Proofs.Sheet.Moves
import Worksheet.Proofs.Sheet.Restore
import Worksheet.Proofs.Session.Effects
import Worksheet.Proofs.Number.Finite
import Worksheet.Proofs.Session.Coverage
import Worksheet.Proofs.Session.Finiteness
import Worksheet.Proofs.Evaluation.InProgress
import Worksheet.Proofs.Evaluation.Termination
import Worksheet.Proofs.Session.Coherence
import Worksheet.Proofs.Snapshot.Restoring
import Worksheet.Proofs.Json.ReadingBack
import Worksheet.Proofs.Snapshot.WrittenNumeral
import Worksheet.Proofs.Snapshot.RoundTrip
import Worksheet.Proofs.Session.SingleCell
import Worksheet.Proofs.Evaluation.FewerInProgress
import Worksheet.Proofs.Evaluation.Aggregates
import Worksheet.Proofs.Recalculation.Report
import Worksheet.Proofs.Sheet.LineAlgebra
import Worksheet.Proofs.Number.ShownNumbers
import Worksheet.Proofs.Region.RegionText
import Worksheet.Proofs.Evaluation.LetterCase
import Worksheet.Proofs.Sheet.UsedRegion
import Worksheet.Proofs.Table.Unambiguous
import Worksheet.Proofs.Command.Failures
import Worksheet.Proofs.Number.Arithmetic
import Worksheet.Proofs.Number.Approximation
import Worksheet.Proofs.Snapshot.Scaling
import Worksheet.Proofs.Snapshot.Significand
import Worksheet.Proofs.Snapshot.NumberDrift
