import SqlTables.Action
import SqlTables.Bytes.CodePageTable
import SqlTables.Bytes.Decoder
import SqlTables.Bytes.Detection
import SqlTables.Bytes.DomainName
import SqlTables.Bytes.EastAsian.Chinese
import SqlTables.Bytes.EastAsian.ChineseMoreTable
import SqlTables.Bytes.EastAsian.ChineseTable
import SqlTables.Bytes.EastAsian.Designation
import SqlTables.Bytes.EastAsian.Grid
import SqlTables.Bytes.EastAsian.Japanese
import SqlTables.Bytes.EastAsian.JapaneseMoreTable
import SqlTables.Bytes.EastAsian.JapaneseTable
import SqlTables.Bytes.EastAsian.Korean
import SqlTables.Bytes.EastAsian.KoreanTable
import SqlTables.Bytes.EastAsian.Scheme
import SqlTables.Bytes.EastAsian.TraditionalTable
import SqlTables.Bytes.Encoding
import SqlTables.Bytes.EncodingTable
import SqlTables.Bytes.Escaped
import SqlTables.Bytes.Punycode
import SqlTables.Bytes.Utf16
import SqlTables.Bytes.Utf7
import SqlTables.Bytes.Utf8
import SqlTables.Bytes.WholePageTable
import SqlTables.Catalog.Basic
import SqlTables.Catalog.Building
import SqlTables.Catalog.File
import SqlTables.Catalog.Table
import SqlTables.Command.Arguments
import SqlTables.Command.Choices
import SqlTables.Command.Ending
import SqlTables.Command.Output
import SqlTables.Command.Run
import SqlTables.Command.Usage
import SqlTables.Config
import SqlTables.Decimal.Binary
import SqlTables.Decimal.Fixed
import SqlTables.Decimal.Limit
import SqlTables.Decimal.Reading
import SqlTables.Decimal.Shortest
import SqlTables.Document.Calendar
import SqlTables.Document.Display
import SqlTables.Document.Json.Reader
import SqlTables.Document.Json.Writer
import SqlTables.Document.Kind
import SqlTables.Document.ReadError
import SqlTables.Document.Value
import SqlTables.Document.Yaml.Cursor
import SqlTables.Document.Yaml.Implicit
import SqlTables.Document.Yaml.Node
import SqlTables.Document.Yaml.Number
import SqlTables.Document.Yaml.Reader
import SqlTables.Document.Yaml.Scalar
import SqlTables.Document.Yaml.Token
import SqlTables.Extraction
import SqlTables.Failure
import SqlTables.Files.Access
import SqlTables.Files.Path
import SqlTables.Files.Pattern
import SqlTables.Files.Reading
import SqlTables.Files.Tree
import SqlTables.Noted
import SqlTables.Notice
import SqlTables.Report.Basic
import SqlTables.Report.Demo
import SqlTables.Report.Keywords
import SqlTables.Report.Query
import SqlTables.Report.Scan
import SqlTables.Sql.Capture
import SqlTables.Sql.Dialect
import SqlTables.Sql.Identifier
import SqlTables.Sql.Keyword
import SqlTables.Sql.Lexeme
import SqlTables.Sql.Preset
import SqlTables.Sql.Scrub
import SqlTables.Sql.Statement
import SqlTables.Terminal.Grid
import SqlTables.Terminal.Line
import SqlTables.Terminal.Markup
import SqlTables.Terminal.Width
import SqlTables.Terminal.WidthTable
import SqlTables.Text.Blank
import SqlTables.Text.Case
import SqlTables.Text.CaseTable
import SqlTables.Text.Digit
import SqlTables.Text.Letter
import SqlTables.Text.Newline
import SqlTables.Text.Printable
import SqlTables.Text.Quality
import SqlTables.Text.Ranges
import SqlTables.Text.Repertoire
import SqlTables.Text.UnprintableTable
import SqlTables.Text.WordTable
import SqlTables.Main
import SqlTables.Proofs.Blanks
import SqlTables.Proofs.Letters
import SqlTables.Proofs.Identifiers
import SqlTables.Proofs.Phrases
import SqlTables.Proofs.Scanning
import SqlTables.Proofs.Formatting
import SqlTables.Proofs.FirstOccurrences
import SqlTables.Proofs.Resolution
import SqlTables.Proofs.Scrubbing
import SqlTables.Proofs.Reading
import SqlTables.Proofs.JoinQueries
import SqlTables.Proofs.Cutting
import SqlTables.Proofs.Statements
import SqlTables.Proofs.KeywordSets
import SqlTables.Proofs.Squeezing
import SqlTables.Proofs.Walls
import SqlTables.Proofs.QuotedNames
import SqlTables.Proofs.Trees
import SqlTables.Proofs.Directories
import SqlTables.Proofs.Outcomes
import SqlTables.Proofs.Access
import SqlTables.Proofs.Selection
import SqlTables.Proofs.Scans
import SqlTables.Proofs.ScanAccounts
import SqlTables.Proofs.ResultTexts
import SqlTables.Proofs.Writing
import SqlTables.Proofs.ScanOutputs
import SqlTables.Proofs.ScanFailures
import SqlTables.Proofs.CatalogFailures
import SqlTables.Proofs.CatalogEndings
import SqlTables.Proofs.Decoding
import SqlTables.Proofs.Units
import SqlTables.Proofs.Detection
import SqlTables.Proofs.Solids
import SqlTables.Proofs.CleanTexts
import SqlTables.Proofs.Rescrubbing
import SqlTables.Proofs.CanonicalNames
import SqlTables.Proofs.FlatCatalogs
import SqlTables.Proofs.DialectKeywords
import SqlTables.Proofs.QueryReports
import SqlTables.Proofs.DocumentValues
import SqlTables.Proofs.ListedTables
import SqlTables.Proofs.ScanEffects
import SqlTables.Proofs.CatalogBuilding
import SqlTables.Proofs.CatalogDocuments
import SqlTables.Proofs.UpperCase
import SqlTables.Proofs.MatchedRoles
import SqlTables.Proofs.KeywordLists
import SqlTables.Proofs.WrittenNames
import SqlTables.Proofs.NamedEncodings
import SqlTables.Proofs.DocumentKeys
import SqlTables.Proofs.IgnoreFile
import SqlTables.Proofs.Settings
