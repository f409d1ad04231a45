import PocketCalculator.Main
import PocketCalculator.Window
import PocketCalculator.Proofs.Descent
import PocketCalculator.Proofs.Stability
import PocketCalculator.Proofs.FewestDigits
import PocketCalculator.Proofs.Rendering
import PocketCalculator.Proofs.PadOutcomes
import PocketCalculator.Proofs.EnteredTexts
import PocketCalculator.Proofs.ContinuedResults
import PocketCalculator.Proofs.LogTexts
import PocketCalculator.Proofs.Reports
import PocketCalculator.Proofs.Sessions
import PocketCalculator.Proofs.DigitLists
import PocketCalculator.Proofs.LoggedRuns
import PocketCalculator.Proofs.StandardForms
import PocketCalculator.Proofs.Displays
import PocketCalculator.Proofs.LexemeReading
import PocketCalculator.Proofs.PaddedLiterals
import PocketCalculator.Proofs.Completions
import PocketCalculator.Proofs.Sharing
import PocketCalculator.Proofs.CheckedRuns
import PocketCalculator.Proofs.AppendedTexts
import PocketCalculator.Proofs.LogRereading
import PocketCalculator.Proofs.UniqueReadings
import PocketCalculator.Proofs.OrdinaryKeys
import PocketCalculator.Proofs.WaitingOperations
