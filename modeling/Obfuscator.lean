import Obfuscator.Profile.Registry
import Obfuscator.Text.Lowercase
import Obfuscator.Text.WordTable
import Obfuscator.Text.HiddenTable
import Obfuscator.Options
import Obfuscator.Rename
import Obfuscator.Json.Printer
import Obfuscator.Json.Reader
import Obfuscator.Pipeline
import Obfuscator.Progress.Reporter
import Obfuscator.Language.Tag
import Obfuscator.Options.Field
import Obfuscator.Artifact.Writer
import Obfuscator.World.Simulation
import Obfuscator.Options.Load
import Obfuscator.Report.Summary
import Obfuscator.Listing
import Obfuscator.Log.Logger
import Obfuscator.Main
import Obfuscator.Proofs.Progress.Trail
import Obfuscator.Proofs.Progress.FanOut
import Obfuscator.Proofs.Run.History
import Obfuscator.Proofs.Run.Protocol
import Obfuscator.Proofs.Run.Standard
import Obfuscator.Proofs.Artifact.Names
import Obfuscator.Proofs.Artifact.Writing
import Obfuscator.Proofs.Text.Filling
import Obfuscator.Proofs.Text.Hexadecimal
import Obfuscator.Proofs.Text.Words
import Obfuscator.Proofs.Text.Lines
import Obfuscator.Proofs.World.Disk
import Obfuscator.Proofs.World.Path
import Obfuscator.Proofs.Artifact.Storing
import Obfuscator.Proofs.Options.Layers
import Obfuscator.Proofs.Options.Entries
import Obfuscator.Proofs.Run.Audit
import Obfuscator.Proofs.Run.Secrecy
import Obfuscator.Proofs.Profile.Registrations
import Obfuscator.Proofs.Log.Settings
import Obfuscator.Proofs.Rename.Matching
import Obfuscator.Proofs.Rename.Discovery
import Obfuscator.Proofs.Rename.ClosedForm
import Obfuscator.Proofs.Rename.Failure
import Obfuscator.Proofs.Rename.WholeWords
import Obfuscator.Proofs.Rename.Restoring
import Obfuscator.Proofs.Rename.Twice
import Obfuscator.Proofs.Rename.Pieces
import Obfuscator.Proofs.Rename.OneWay
import Obfuscator.Proofs.Rename.Relevance
import Obfuscator.Proofs.Rename.Boundaries
import Obfuscator.Proofs.Rename.Table
import Obfuscator.Proofs.Program.Course
import Obfuscator.Proofs.Program.Output
import Obfuscator.Proofs.Program.ExitCode
import Obfuscator.Proofs.Program.Reporting
import Obfuscator.Proofs.Text.Case
import Obfuscator.Proofs.FileName.LastDot
import Obfuscator.Proofs.Language.Lookup
import Obfuscator.Proofs.Artifact.SourceName
import Obfuscator.Proofs.World.Way
import Obfuscator.Proofs.World.Directories
import Obfuscator.Proofs.World.Layout
import Obfuscator.Proofs.World.Requests
import Obfuscator.Proofs.Artifact.Putting
import Obfuscator.Proofs.Artifact.Touching
import Obfuscator.Proofs.Run.Pacing
import Obfuscator.Proofs.Text.Marks
import Obfuscator.Proofs.Profile.Canary
import Obfuscator.Proofs.Log.Level
import Obfuscator.Proofs.Text.Decimal
import Obfuscator.Proofs.Time.Calendar
import Obfuscator.Proofs.Json.Reading
import Obfuscator.Proofs.Time.Reading
import Obfuscator.Proofs.Report.RoundTrip
