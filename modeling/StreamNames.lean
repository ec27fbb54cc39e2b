import StreamNames.Main
import StreamNames.Proofs.Batch.Fields
import StreamNames.Proofs.Batch.Recount
import StreamNames.Proofs.Batch.Relocation
import StreamNames.Proofs.Command.Check
import StreamNames.Proofs.Highlight.Ownership
import StreamNames.Proofs.Pattern.Absorption
import StreamNames.Proofs.Pattern.Scan
import StreamNames.Proofs.Regex.Ast.Bare
import StreamNames.Proofs.Regex.Reader.Mirrors
import StreamNames.Proofs.Regex.Reader.Escapes
import StreamNames.Proofs.Regex.Reader.Brackets
import StreamNames.Proofs.Regex.Reader.Parts
import StreamNames.Proofs.Regex.Reader.Levels
import StreamNames.Proofs.Regex.Reader.Groups
import StreamNames.Proofs.Pattern.Translation
import StreamNames.Proofs.Regex.Reader.Counts
import StreamNames.Proofs.Regex.Reader.Rounds
import StreamNames.Proofs.Pattern.Bounds
import StreamNames.Proofs.Pattern.References
import StreamNames.Proofs.Verdict.Toggle
import StreamNames.Proofs.Pattern.Splitting
import StreamNames.Proofs.Highlight.Capture
import StreamNames.Proofs.Settings.Loading
import StreamNames.Proofs.Command.Effects
import StreamNames.Proofs.Command.Statistics
import StreamNames.Proofs.Highlight.NormalForm
import StreamNames.Proofs.Pattern.Searches
import StreamNames.Proofs.Pattern.Classes
import StreamNames.Proofs.Regex.Reader.Recorded
import StreamNames.Proofs.Regex.Reader.Names
import StreamNames.Proofs.Pattern.Queries
import StreamNames.Proofs.Pattern.Limits
import StreamNames.Proofs.Pattern.Growth
import StreamNames.Proofs.Verdict.Parts
import StreamNames.Proofs.Verdict.Runs
import StreamNames.Proofs.Text.Conversion
import StreamNames.Proofs.Pattern.Braces
import StreamNames.Proofs.Settings.Overlay
import StreamNames.Proofs.Batch.RoundTrip
