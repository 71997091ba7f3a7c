import RollCall.Main
import RollCall.Proofs.Preset.Tokens
import RollCall.Proofs.Reading
import RollCall.Proofs.PatternRoutes
import RollCall.Proofs.DotEnv.Load
import RollCall.Proofs.Escapes
import RollCall.Proofs.Rearranging
import RollCall.Proofs.Appending
import RollCall.Proofs.Presentation
import RollCall.Proofs.Regex.Leftmost
import RollCall.Proofs.Report.Lines
import RollCall.Proofs.Json.Grammar
import RollCall.Proofs.Json.Reader
import RollCall.Proofs.Json.Decoding
import RollCall.Proofs.Json.Writer
import RollCall.Proofs.Report.Document
import RollCall.Proofs.Regex.Exploring
import RollCall.Proofs.Enclosing
import RollCall.Proofs.Pieces
import RollCall.Proofs.Preset.Lines
import RollCall.Proofs.DotEnv.Overlay
import RollCall.Proofs.Settings.Order
import RollCall.Proofs.CommandLine.Written
import RollCall.Proofs.Moment
