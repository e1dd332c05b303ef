import DfaTable.Automaton.File
import DfaTable.Command
import DfaTable.Encoding
import DfaTable.Files.Replacement
import DfaTable.Guard
import DfaTable.Journal
import DfaTable.Json
import DfaTable.Label.Codes
import DfaTable.Main
import DfaTable.Markup.Source
import DfaTable.Outcome
import DfaTable.Settings.Loading
import DfaTable.Table.Writing
import DfaTable.Yaml
import DfaTable.Proofs.Label.Grammar
import DfaTable.Proofs.Table.Control
import DfaTable.Proofs.Record.Rendering
import DfaTable.Proofs.Record.Cutting
import DfaTable.Proofs.Table.Lines
import DfaTable.Proofs.Automaton.Elements
import DfaTable.Proofs.Automaton.Loading
import DfaTable.Proofs.Automaton.Sources
import DfaTable.Proofs.Files.Way
import DfaTable.Proofs.Files.Asking
import DfaTable.Proofs.Files.Growth
import DfaTable.Proofs.Guard.Checks
import DfaTable.Proofs.Encoding.Ascii
import DfaTable.Proofs.Files.Writing
import DfaTable.Proofs.Files.Replacement
import DfaTable.Proofs.Record.Writing
import DfaTable.Proofs.Command.Course
import DfaTable.Proofs.Command.Agreement
import DfaTable.Proofs.Command.Failure
import DfaTable.Proofs.Command.Verdict
import DfaTable.Proofs.Journal.Configuration
import DfaTable.Proofs.Journal.Loggers
import DfaTable.Proofs.Settings.Faults
import DfaTable.Proofs.Settings.Acceptance
import DfaTable.Proofs.Command.Usage
import DfaTable.Proofs.Label.Complement
import DfaTable.Proofs.Command.Documents
import DfaTable.Proofs.Label.Misuse
import DfaTable.Proofs.Table.Accounting
import DfaTable.Proofs.Files.Stages
import DfaTable.Proofs.Encoding.Decoding
import DfaTable.Proofs.Record.Policies
import DfaTable.Proofs.Table.Numbers
import DfaTable.Proofs.Automaton.Edits
import DfaTable.Proofs.Automaton.Flags
import DfaTable.Proofs.Guard.Remains
import DfaTable.Journal.Logger
