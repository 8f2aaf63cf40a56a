import Agenda.Calendar.Date
import Agenda.Calendar.Names
import Agenda.Calendar.TimeOfDay
import Agenda.Clock.Anchor
import Agenda.Clock.Instant
import Agenda.Clock.LocalTime
import Agenda.Clock.Notation
import Agenda.Clock.Zone
import Agenda.Console.Command
import Agenda.Console.Loop
import Agenda.Console.Session
import Agenda.Console.Table
import Agenda.Console.Turn
import Agenda.DueDate.Format
import Agenda.DueDate.Resolve
import Agenda.DueDate.Window
import Agenda.DueDate.Wording
import Agenda.Fault
import Agenda.Files.Path
import Agenda.Files.Tree
import Agenda.Filter.Action
import Agenda.Filter.Basic
import Agenda.Filter.Token
import Agenda.Json.Number
import Agenda.Json.Reader
import Agenda.Json.Value
import Agenda.Json.Writer
import Agenda.Log.Line
import Agenda.Log.Record
import Agenda.Main
import Agenda.Number.Binary
import Agenda.Number.Count
import Agenda.Phrase.Cursor
import Agenda.Phrase.Draft
import Agenda.Phrase.Grammar
import Agenda.Phrase.Resolve
import Agenda.Phrase.Scanner
import Agenda.Phrase.Tape
import Agenda.Preset.Registry
import Agenda.Preset.Store
import Agenda.Program
import Agenda.Proofs.Calendar.Dates
import Agenda.Proofs.Calendar.Days
import Agenda.Proofs.Clock.Anchor
import Agenda.Proofs.Clock.Epoch
import Agenda.Proofs.Clock.LocalTime
import Agenda.Proofs.Clock.Steady
import Agenda.Proofs.Clock.Turn
import Agenda.Proofs.Clock.Zone
import Agenda.Proofs.Console.Crash
import Agenda.Proofs.Console.Epoch
import Agenda.Proofs.Console.Frame
import Agenda.Proofs.Console.Line
import Agenda.Proofs.Console.Listing
import Agenda.Proofs.Console.Loop
import Agenda.Proofs.Console.Presets
import Agenda.Proofs.Console.Step
import Agenda.Proofs.DueDate.Agreement
import Agenda.Proofs.DueDate.Alike
import Agenda.Proofs.DueDate.Anchor
import Agenda.Proofs.DueDate.Distinct
import Agenda.Proofs.DueDate.Epoch
import Agenda.Proofs.DueDate.Explicit
import Agenda.Proofs.DueDate.Format
import Agenda.Proofs.DueDate.Numeric
import Agenda.Proofs.DueDate.Shown
import Agenda.Proofs.DueDate.Window
import Agenda.Proofs.DueDate.Wording
import Agenda.Proofs.Fault
import Agenda.Proofs.Files.Contents
import Agenda.Proofs.Files.Tree
import Agenda.Proofs.Filter.Canonical
import Agenda.Proofs.Filter.Combined
import Agenda.Proofs.Filter.Conjunction
import Agenda.Proofs.Filter.Directive
import Agenda.Proofs.Filter.Pieces
import Agenda.Proofs.Filter.Placement
import Agenda.Proofs.Filter.Reading
import Agenda.Proofs.Filter.Refusal
import Agenda.Proofs.Filter.Search
import Agenda.Proofs.Filter.Selection
import Agenda.Proofs.Filter.Shown
import Agenda.Proofs.Json.RoundTrip
import Agenda.Proofs.Phrase.Ahead
import Agenda.Proofs.Phrase.Alike
import Agenda.Proofs.Phrase.Beginning
import Agenda.Proofs.Phrase.Cursor
import Agenda.Proofs.Phrase.DaySyntax
import Agenda.Proofs.Phrase.Draft
import Agenda.Proofs.Phrase.Epoch
import Agenda.Proofs.Phrase.Grammar
import Agenda.Proofs.Phrase.HalfOfDay
import Agenda.Proofs.Phrase.Ignoring
import Agenda.Proofs.Phrase.Monotone
import Agenda.Proofs.Phrase.MonthDay
import Agenda.Proofs.Phrase.Morning
import Agenda.Proofs.Phrase.Repeated
import Agenda.Proofs.Phrase.Resolve
import Agenda.Proofs.Phrase.Scanner
import Agenda.Proofs.Phrase.Steps
import Agenda.Proofs.Phrase.Terminator
import Agenda.Proofs.Phrase.TimeSyntax
import Agenda.Proofs.Phrase.TimeToday
import Agenda.Proofs.Phrase.Token
import Agenda.Proofs.Phrase.Weekday
import Agenda.Proofs.Preset.Loading
import Agenda.Proofs.Preset.Map
import Agenda.Proofs.Preset.Registry
import Agenda.Proofs.Preset.Saving
import Agenda.Proofs.Preset.Store
import Agenda.Proofs.Program
import Agenda.Proofs.Task.Order
import Agenda.Proofs.Text.Alphabet
import Agenda.Proofs.Text.Case
import Agenda.Proofs.Text.Fold
import Agenda.Proofs.Text.Halves
import Agenda.Proofs.Text.Lower
import Agenda.Proofs.Text.Numeral
import Agenda.Proofs.Text.Sigma
import Agenda.Proofs.Text.Spelling
import Agenda.Proofs.Text.Trim
import Agenda.Settings
import Agenda.Sorting.Runs
import Agenda.Startup
import Agenda.Task.Basic
import Agenda.Task.Order
import Agenda.Text.Alphabet
import Agenda.Text.Basic
import Agenda.Text.Blank
import Agenda.Text.CaseRun
import Agenda.Text.Digit
import Agenda.Text.Entries
import Agenda.Text.Letter
import Agenda.Text.Lower
import Agenda.Text.Numeral
import Agenda.Text.Printable
import Agenda.Text.Quoted
import Agenda.Text.Upper
import Agenda.Text.Utf8
