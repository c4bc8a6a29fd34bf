import Passforge.Alphabet
import Passforge.Alphabet.Preset
import Passforge.Command.Basic
import Passforge.Command.Flag
import Passforge.Command.Help
import Passforge.Command.Line
import Passforge.Command.Plan
import Passforge.Command.Run
import Passforge.Draw.Buffered
import Passforge.Draw.Entropy
import Passforge.Draw.Seeded
import Passforge.Draw.Source
import Passforge.Draw.Supply
import Passforge.Fault
import Passforge.Generator
import Passforge.Hash.Argon2id
import Passforge.Hash.Base64
import Passforge.Hash.Blake2b
import Passforge.Hash.Stored
import Passforge.Hash.Word
import Passforge.Json.Parser
import Passforge.Json.Printer
import Passforge.Json.Value
import Passforge.Log.Class
import Passforge.Log.Clock
import Passforge.Log.Console
import Passforge.Log.Event
import Passforge.Log.File
import Passforge.Log.Journal
import Passforge.Log.Level
import Passforge.Main
import Passforge.Metrics.Family
import Passforge.Metrics.Tally
import Passforge.Number.Binary64
import Passforge.Number.Entropy
import Passforge.Number.Literal
import Passforge.Number.Power
import Passforge.Number.Shortest
import Passforge.Number.Written
import Passforge.Proofs.Rejection
import Passforge.Proofs.Run
import Passforge.Session
import Passforge.Settings.Basic
import Passforge.Settings.Conversion
import Passforge.Settings.Dump
import Passforge.Settings.Key
import Passforge.Settings.Layers
import Passforge.Settings.Load
import Passforge.Settings.Override
import Passforge.Settings.Validation
import Passforge.Sink
import Passforge.Storage.Disk
import Passforge.Storage.Path
import Passforge.Text.Blank
import Passforge.Text.Canonical.CombiningClass
import Passforge.Text.Canonical.Composition
import Passforge.Text.Canonical.Decomposition
import Passforge.Text.Canonical.Form
import Passforge.Text.Case
import Passforge.Text.Hexadecimal
import Passforge.Text.Piece
import Passforge.Text.Printable
import Passforge.Text.Quoted
import Passforge.Text.Truth
import Passforge.Text.Upper
import Passforge.Toml.Document
import Passforge.Toml.Lookup
import Passforge.Toml.Parser
import Passforge.Toml.Printer
import Passforge.Toml.Scalar
import Passforge.Toml.Text
import Passforge.Proofs.Direct
import Passforge.Proofs.Decoding
import Passforge.Proofs.Symbols
import Passforge.Proofs.Generation
import Passforge.Proofs.Rounds
import Passforge.Proofs.Uniformity
import Passforge.Proofs.Provenance
import Passforge.Proofs.Step
import Passforge.Proofs.Records
import Passforge.Proofs.HashLine
import Passforge.Proofs.Serving
import Passforge.Proofs.Planning
import Passforge.Proofs.Generating
import Passforge.Proofs.Secrecy
import Passforge.Proofs.Output
import Passforge.Proofs.Refusals
import Passforge.Proofs.Numerals
import Passforge.Proofs.Keys
import Passforge.Proofs.Documents
import Passforge.Proofs.Lookup
import Passforge.Proofs.Layering
import Passforge.Proofs.TomlText
import Passforge.Proofs.TomlDump
import Passforge.Proofs.Range
import Passforge.Proofs.Redump
import Passforge.Proofs.JsonText
import Passforge.Proofs.JsonDump
import Passforge.Proofs.Accounting
import Passforge.Proofs.Streams
import Passforge.Proofs.Failing
import Passforge.Proofs.Statements
import Passforge.Proofs.EmptyLists
import Passforge.Proofs.Interference
import Passforge.Proofs.WholeNumbers
import Passforge.Proofs.Exposition
import Passforge.Proofs.SeededDraws
import Passforge.Proofs.Succeeding
import Passforge.Proofs.Appending
import Passforge.Proofs.Reproducible
import Passforge.Proofs.OrdinaryFiles
import Passforge.Proofs.LogLines
import Passforge.Proofs.LogFiles
import Passforge.Proofs.Repeating
import Passforge.Proofs.Trimming
import Passforge.Proofs.StrictBase64
import Passforge.Proofs.Verifying
import Passforge.Proofs.CommaLists
import Passforge.Proofs.PresetUnion
import Passforge.Proofs.Parts
import Passforge.Proofs.WholeBlocks
import Passforge.Proofs.AlphabetChoice
import Passforge.Proofs.Overriding
import Passforge.Proofs.FirstOccurrences
import Passforge.Proofs.LengthArguments
import Passforge.Proofs.SeededEnding
import Passforge.Proofs.SeedsApart
import Passforge.Proofs.CanonicalTables
import Passforge.Proofs.CanonicalParts
import Passforge.Proofs.NormalForm
import Passforge.Proofs.ByteAlphabets
