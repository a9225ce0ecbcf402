import GraphQLTokens.Ascending
import GraphQLTokens.Check
import GraphQLTokens.CommandLine.Arguments
import GraphQLTokens.CommandLine.FileTree
import GraphQLTokens.CommandLine.Host
import GraphQLTokens.CommandLine.Path
import GraphQLTokens.CommandLine.Run
import GraphQLTokens.Config.Basic
import GraphQLTokens.Config.Reader
import GraphQLTokens.Cursor.Basic
import GraphQLTokens.Cursor.Program
import GraphQLTokens.Cursor.Scan
import GraphQLTokens.Diagnosis
import GraphQLTokens.Diagnostic
import GraphQLTokens.Lexer.Number
import GraphQLTokens.Lexer.Recognizer
import GraphQLTokens.Lexer.Stream
import GraphQLTokens.Lexer.Trivia
import GraphQLTokens.Listing.Format
import GraphQLTokens.Listing.Json
import GraphQLTokens.Listing.Record
import GraphQLTokens.Main
import GraphQLTokens.Source.File
import GraphQLTokens.Source.Lines
import GraphQLTokens.Source.Position
import GraphQLTokens.Source.Snippet
import GraphQLTokens.Source.Span
import GraphQLTokens.Text.Alphabetic
import GraphQLTokens.Text.Basic
import GraphQLTokens.Text.Classes
import GraphQLTokens.Text.Extending
import GraphQLTokens.Text.Quoted
import GraphQLTokens.Text.Unprintable
import GraphQLTokens.Token
import GraphQLTokens.Toml.Blank
import GraphQLTokens.Toml.Document
import GraphQLTokens.Toml.Moment
import GraphQLTokens.Toml.Number
import GraphQLTokens.Toml.Quoted
import GraphQLTokens.Toml.Table
import GraphQLTokens.Toml.Value
import GraphQLTokens.Proofs.Grammar.Languages
import GraphQLTokens.Proofs.Grammar.Reading
import GraphQLTokens.Proofs.Grammar.Scalars
import GraphQLTokens.Proofs.Grammar.Numbers
import GraphQLTokens.Proofs.Grammar.Strings
import GraphQLTokens.Proofs.Grammar.Recognition
import GraphQLTokens.Proofs.Grammar.Chain
import GraphQLTokens.Proofs.Grammar.Breaks
import GraphQLTokens.Proofs.Lexing.Pieces
import GraphQLTokens.Proofs.Lexing.Tiling
import GraphQLTokens.Proofs.Lexing.MaximalMunch
import GraphQLTokens.Proofs.Lexing.Printing
import GraphQLTokens.Proofs.Lexing.Restart
import GraphQLTokens.Proofs.Lexing.Concatenation
import GraphQLTokens.Proofs.Lexing.LineEnds
import GraphQLTokens.Proofs.Lexing.Calls
import GraphQLTokens.Proofs.Lexing.OneStream
import GraphQLTokens.Proofs.Source.Lines
import GraphQLTokens.Proofs.Source.LineEnds
import GraphQLTokens.Proofs.Source.Tables
import GraphQLTokens.Proofs.Source.Positions
import GraphQLTokens.Proofs.Source.Agreement
import GraphQLTokens.Proofs.Source.Snippets
import GraphQLTokens.Proofs.Diagnosis.Causes
import GraphQLTokens.Proofs.Diagnosis.OpenBlocks
import GraphQLTokens.Proofs.Diagnosis.Places
import GraphQLTokens.Proofs.Json.Grammar
import GraphQLTokens.Proofs.Json.Reader
import GraphQLTokens.Proofs.Listing.Decomposition
import GraphQLTokens.Proofs.Json.Writer
import GraphQLTokens.Proofs.Listing.Decoding
import GraphQLTokens.Proofs.CommandLine.Files
import GraphQLTokens.Proofs.CommandLine.Traces
import GraphQLTokens.Proofs.CommandLine.Agreement
import GraphQLTokens.Proofs.Scanning.Recognizers
import GraphQLTokens.Proofs.Scanning.Contracts
import GraphQLTokens.Proofs.Lexing.Orders
import GraphQLTokens.Proofs.Source.Underlines
import GraphQLTokens.Proofs.Source.Order
import GraphQLTokens.Proofs.Lexing.Kinds
import GraphQLTokens.Proofs.Diagnosis.Findings
import GraphQLTokens.Proofs.Diagnosis.Reports
import GraphQLTokens.Proofs.Diagnosis.Levels
import GraphQLTokens.Proofs.Scanning.Programs
import GraphQLTokens.Proofs.Scanning.Lookahead
import GraphQLTokens.Proofs.Listing.Rows
