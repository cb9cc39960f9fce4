import OpcodeAtlas.Abort
import OpcodeAtlas.Catalogue
import OpcodeAtlas.Command.Basic
import OpcodeAtlas.Command.Options
import OpcodeAtlas.Command.Run
import OpcodeAtlas.Command.Transcript
import OpcodeAtlas.Console.Color
import OpcodeAtlas.Console.Emoji
import OpcodeAtlas.Console.Emoji.NamesFromA
import OpcodeAtlas.Console.Emoji.NamesFromC
import OpcodeAtlas.Console.Emoji.NamesFromF
import OpcodeAtlas.Console.Emoji.NamesFromG
import OpcodeAtlas.Console.Emoji.NamesFromM
import OpcodeAtlas.Console.Emoji.NamesFromN
import OpcodeAtlas.Console.Emoji.NamesFromQ
import OpcodeAtlas.Console.Emoji.NamesFromT
import OpcodeAtlas.Console.Emoji.NamesFromW
import OpcodeAtlas.Console.Handler.Expression
import OpcodeAtlas.Console.Handler.Quotation
import OpcodeAtlas.Console.Handler.Term
import OpcodeAtlas.Console.Handler.Token
import OpcodeAtlas.Console.Markup
import OpcodeAtlas.Console.Style
import OpcodeAtlas.Display
import OpcodeAtlas.Failure
import OpcodeAtlas.Files.Path
import OpcodeAtlas.Files.Tree
import OpcodeAtlas.Log.Channel
import OpcodeAtlas.Log.Record
import OpcodeAtlas.Main
import OpcodeAtlas.Number.Arithmetic
import OpcodeAtlas.Number.Binary64
import OpcodeAtlas.Number.Decimal
import OpcodeAtlas.Number.Reading
import OpcodeAtlas.Page.Layout
import OpcodeAtlas.Page.Reading
import OpcodeAtlas.Page.Record
import OpcodeAtlas.Page.Writing
import OpcodeAtlas.Program.Basic
import OpcodeAtlas.Program.Lexeme
import OpcodeAtlas.Program.Merge
import OpcodeAtlas.Program.Piece
import OpcodeAtlas.Program.Reading
import OpcodeAtlas.Proofs.Command.StrictCheck
import OpcodeAtlas.Proofs.Display.AskedCode
import OpcodeAtlas.Proofs.Display.Documented
import OpcodeAtlas.Proofs.Display.OneLine
import OpcodeAtlas.Proofs.Display.ProgramFile
import OpcodeAtlas.Proofs.Log.Fields
import OpcodeAtlas.Proofs.Merge.Conservation
import OpcodeAtlas.Proofs.Merge.Effect
import OpcodeAtlas.Proofs.Merge.ItemOrder
import OpcodeAtlas.Proofs.Merge.LookAhead
import OpcodeAtlas.Proofs.Merge.Sorting
import OpcodeAtlas.Proofs.Merge.Streaming
import OpcodeAtlas.Proofs.Number.Limit
import OpcodeAtlas.Proofs.Number.Nearest
import OpcodeAtlas.Proofs.Number.Reading
import OpcodeAtlas.Proofs.Number.Rounding
import OpcodeAtlas.Proofs.Number.SixDigits
import OpcodeAtlas.Proofs.Number.WordText
import OpcodeAtlas.Proofs.Page.CodeList
import OpcodeAtlas.Proofs.Page.Codes
import OpcodeAtlas.Proofs.Page.Layout
import OpcodeAtlas.Proofs.Page.Replacement
import OpcodeAtlas.Proofs.Page.SingleOrRow
import OpcodeAtlas.Proofs.Page.SpelledText
import OpcodeAtlas.Proofs.Page.TextPlace
import OpcodeAtlas.Proofs.Page.WrittenRecord
import OpcodeAtlas.Proofs.Program.ArgumentText
import OpcodeAtlas.Proofs.Program.CodeLimit
import OpcodeAtlas.Proofs.Program.DocumentOrder
import OpcodeAtlas.Proofs.Program.Framing
import OpcodeAtlas.Proofs.Program.Grouping
import OpcodeAtlas.Proofs.Program.InstructionShape
import OpcodeAtlas.Proofs.Program.LetterCase
import OpcodeAtlas.Proofs.Program.LineNumber
import OpcodeAtlas.Proofs.Program.Mark
import OpcodeAtlas.Proofs.Program.Message
import OpcodeAtlas.Proofs.Program.Partition
import OpcodeAtlas.Proofs.Program.PieceText
import OpcodeAtlas.Proofs.Program.Places
import OpcodeAtlas.Proofs.Program.Printing
import OpcodeAtlas.Proofs.Program.SourceLines
import OpcodeAtlas.Proofs.Program.Spelling
import OpcodeAtlas.Proofs.Program.TrailingComment
import OpcodeAtlas.Proofs.Program.Word
import OpcodeAtlas.Proofs.Program.Wording
import OpcodeAtlas.Proofs.Program.WrittenText
import OpcodeAtlas.Proofs.Registry.Accounting
import OpcodeAtlas.Proofs.Registry.Duplicates
import OpcodeAtlas.Proofs.Registry.Holding
import OpcodeAtlas.Proofs.Registry.Isolation
import OpcodeAtlas.Proofs.Registry.Merging
import OpcodeAtlas.Proofs.Registry.Neighbours
import OpcodeAtlas.Proofs.Registry.Policies
import OpcodeAtlas.Proofs.Registry.Reading
import OpcodeAtlas.Proofs.Registry.Report
import OpcodeAtlas.Proofs.Registry.Resolution
import OpcodeAtlas.Proofs.Registry.Selection
import OpcodeAtlas.Proofs.Schema.Issues
import OpcodeAtlas.Proofs.Schema.Parts
import OpcodeAtlas.Proofs.Sequence.Occurrence
import OpcodeAtlas.Proofs.Settings.Answers
import OpcodeAtlas.Proofs.Settings.Layering
import OpcodeAtlas.Proofs.Settings.OneSetting
import OpcodeAtlas.Proofs.Text.Blank
import OpcodeAtlas.Proofs.Text.DigitRow
import OpcodeAtlas.Proofs.Text.LetterCase
import OpcodeAtlas.Proofs.Text.LineCount
import OpcodeAtlas.Proofs.Text.LineEnd
import OpcodeAtlas.Proofs.Text.OneLine
import OpcodeAtlas.Proofs.Text.UpperCase
import OpcodeAtlas.Proofs.Text.Utf8
import OpcodeAtlas.Proofs.Value.KeyOrder
import OpcodeAtlas.Proofs.Value.PlainText
import OpcodeAtlas.Proofs.Value.ShownPath
import OpcodeAtlas.Proofs.Yaml.StandIn
import OpcodeAtlas.Registry.Basic
import OpcodeAtlas.Registry.Build
import OpcodeAtlas.Registry.CodeTable
import OpcodeAtlas.Registry.Selection
import OpcodeAtlas.Schema.Integer
import OpcodeAtlas.Schema.Issue
import OpcodeAtlas.Schema.Scalar
import OpcodeAtlas.Settings.Basic
import OpcodeAtlas.Settings.Error
import OpcodeAtlas.Settings.File
import OpcodeAtlas.Text.Blank
import OpcodeAtlas.Text.CharacterName
import OpcodeAtlas.Text.CodeRange
import OpcodeAtlas.Text.Digit
import OpcodeAtlas.Text.LetterCase.CaseRun
import OpcodeAtlas.Text.LetterCase.Lower
import OpcodeAtlas.Text.LetterCase.Upper
import OpcodeAtlas.Text.Line
import OpcodeAtlas.Text.NameCharacter
import OpcodeAtlas.Text.Printed
import OpcodeAtlas.Text.Quoted
import OpcodeAtlas.Text.Surrogate
import OpcodeAtlas.Text.Utf8
import OpcodeAtlas.Toml.Document
import OpcodeAtlas.Toml.Literal
import OpcodeAtlas.Toml.Table
import OpcodeAtlas.Value.Basic
import OpcodeAtlas.Value.Calendar
import OpcodeAtlas.Value.Json
import OpcodeAtlas.Value.Order
import OpcodeAtlas.Value.Shown
import OpcodeAtlas.Yaml.Cursor
import OpcodeAtlas.Yaml.Document
import OpcodeAtlas.Yaml.Fault
import OpcodeAtlas.Yaml.Graph
import OpcodeAtlas.Yaml.Node
import OpcodeAtlas.Yaml.Outline
import OpcodeAtlas.Yaml.Reader
import OpcodeAtlas.Yaml.Scalar
import OpcodeAtlas.Yaml.ScalarValue
import OpcodeAtlas.Yaml.Stamp
import OpcodeAtlas.Yaml.Tag
import OpcodeAtlas.Yaml.Token
