import SqlDialect.Main
import SqlDialect.Statement.Decoded
import SqlDialect.Statement.Journal
import SqlDialect.Statement.Rereading
import SqlDialect.Token.Cursor
import SqlDialect.Proofs.Spelling.Defs
import SqlDialect.Proofs.Spelling.Front
import SqlDialect.Proofs.Spelling.Text
import SqlDialect.Proofs.Spelling.Resumption
import SqlDialect.Proofs.Spelling.Quotes
import SqlDialect.Proofs.Grammar.Collected
import SqlDialect.Proofs.Grammar.Clauses
import SqlDialect.Proofs.Grammar.Statement
import SqlDialect.Proofs.Grammar.Assignments
import SqlDialect.Proofs.Canonical.WellFormed
import SqlDialect.Proofs.Canonical.Fragments
import SqlDialect.Proofs.Canonical.RoundTrip
import SqlDialect.Proofs.Faults.Reading
import SqlDialect.Proofs.Faults.Messages
import SqlDialect.Proofs.Faults.Clauses
import SqlDialect.Proofs.Faults.Attribution
import SqlDialect.Proofs.Faults.Prospect
import SqlDialect.Proofs.Faults.Locality
import SqlDialect.Proofs.Faults.Unfinished
import SqlDialect.Proofs.Faults.OpenQuote
import SqlDialect.Proofs.Insertion.Header
import SqlDialect.Proofs.Insertion.Rows
import SqlDialect.Proofs.Session.Lines
import SqlDialect.Proofs.Session.Piped
import SqlDialect.Proofs.Session.Effects
import SqlDialect.Proofs.Session.Failures
import SqlDialect.Proofs.Json.Grammar
import SqlDialect.Proofs.Json.Strings
import SqlDialect.Proofs.Json.Numbers
import SqlDialect.Proofs.Json.Reading
import SqlDialect.Proofs.Json.Writing
import SqlDialect.Proofs.Json.Persistence
import SqlDialect.Proofs.Json.Encodings
import SqlDialect.Proofs.Conditions.Mandatory
import SqlDialect.Proofs.Conditions.Shared
import SqlDialect.Proofs.Canonical.Extension
import SqlDialect.Proofs.Json.Decoding
import SqlDialect.Proofs.Json.KnownMembers
import SqlDialect.Proofs.Session.Commands
import SqlDialect.Proofs.Faults.Batch
import SqlDialect.Proofs.Spelling.Cursor
import SqlDialect.Proofs.Description.Texts
import SqlDialect.Proofs.Description.Parts
import SqlDialect.Proofs.Description.Unambiguous
import SqlDialect.Proofs.Positions.Walk
import SqlDialect.Proofs.Positions.Trail
import SqlDialect.Proofs.Positions.Clauses
import SqlDialect.Proofs.Positions.Statement
