import StudentRoster.Text.Blank
import StudentRoster.Text.Lowercase
import StudentRoster.Text.Numeral
import StudentRoster.Text.Quoted
import StudentRoster.Gpa.Hundredths
import StudentRoster.Gpa.Literal
import StudentRoster.Student.Line
import StudentRoster.Casing
import StudentRoster.Files.Tree
import StudentRoster.Json.Scan
import StudentRoster.Json.Number
import StudentRoster.Json.Skip
import StudentRoster.Settings.Reader
import StudentRoster.Settings.Printer
import StudentRoster.Roster.Sample
import StudentRoster.Listing.Sink
import StudentRoster.Settings.File
import StudentRoster.Event.Filter
import StudentRoster.Session
import StudentRoster.Program
import StudentRoster.Main
import StudentRoster.Pattern
import StudentRoster.Proofs.Binary.Nearest
import StudentRoster.Proofs.Text.Numeral
import StudentRoster.Proofs.Text.Words
import StudentRoster.Proofs.Gpa.Reread
import StudentRoster.Proofs.Student.Reread
import StudentRoster.Proofs.Listing.Reread
import StudentRoster.Proofs.Roster.Newcomers
import StudentRoster.Proofs.Roster.Load
import StudentRoster.Proofs.Roster.FirstWins
import StudentRoster.Proofs.Listing.Lines
import StudentRoster.Proofs.Roster.Accounting
import StudentRoster.Proofs.Roster.Actions
import StudentRoster.Proofs.Roster.Piles
import StudentRoster.Proofs.Roster.Export
import StudentRoster.Proofs.Files.Walk
import StudentRoster.Proofs.Files.Routes
import StudentRoster.Proofs.Files.Directories
import StudentRoster.Proofs.Settings.Saving
import StudentRoster.Proofs.Session.Situations
import StudentRoster.Proofs.Session.Reported
import StudentRoster.Proofs.Program.SettingsCommand
import StudentRoster.Proofs.Session.Sharing
import StudentRoster.Proofs.Files.Contents
import StudentRoster.Proofs.Session.Refusals
import StudentRoster.Proofs.Student.Identity
import StudentRoster.Proofs.Session.Growth
import StudentRoster.Proofs.CommandLine.Details
import StudentRoster.Proofs.Program.Details
import StudentRoster.Proofs.Program.OutputFile
import StudentRoster.Proofs.Roster.Recasing
import StudentRoster.Proofs.Binary.Neighbours
import StudentRoster.Proofs.Gpa.Exact
import StudentRoster.Proofs.Student.Kept
import StudentRoster.Proofs.Program.Footprint
import StudentRoster.Proofs.Program.ExitCode
import StudentRoster.Proofs.Binary.Overflow
import StudentRoster.Proofs.Text.Spelling
import StudentRoster.Proofs.Gpa.Spelling
import StudentRoster.Proofs.Student.Grammar
import StudentRoster.Proofs.Student.Typed
import StudentRoster.Proofs.Listing.Appended
import StudentRoster.Proofs.Listing.LineEnds
import StudentRoster.Proofs.Roster.Batches
import StudentRoster.Proofs.Roster.FileOrder
import StudentRoster.Proofs.Roster.Repeated
import StudentRoster.Proofs.Listing.Bounded
import StudentRoster.Proofs.Casing.Agreement
import StudentRoster.Proofs.Casing.Settling
import StudentRoster.Proofs.Casing.Letters
import StudentRoster.Proofs.Roster.Search
import StudentRoster.Proofs.Student.Recased
import StudentRoster.Proofs.Roster.Partition
import StudentRoster.Proofs.Roster.Questions
import StudentRoster.Proofs.Text.Lowercase
import StudentRoster.Proofs.Settings.Values
import StudentRoster.Proofs.Json.Grammar
import StudentRoster.Proofs.Json.Leaves
import StudentRoster.Proofs.Json.Skipping
import StudentRoster.Proofs.Settings.Members
import StudentRoster.Proofs.Settings.Reading
import StudentRoster.Proofs.Settings.Documents
import StudentRoster.Proofs.Text.Quoted
import StudentRoster.Proofs.Failure.Quoting
import StudentRoster.Proofs.Gpa.Number
import StudentRoster.Proofs.Roster.Sameness
import StudentRoster.Proofs.CommandLine.Spelling
import StudentRoster.Proofs.CommandLine.Blocks
import StudentRoster.Proofs.Program.OptionPlaces
import StudentRoster.Proofs.Program.Events
import StudentRoster.Proofs.Roster.Counts
import StudentRoster.Proofs.Program.Counts
