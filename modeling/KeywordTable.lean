import KeywordTable.Text.Basic
import KeywordTable.Text.CaseData
import KeywordTable.Text.AlphanumericData
import KeywordTable.Text.Lower
import KeywordTable.Text.Quoted
import KeywordTable.Number.Binary64
import KeywordTable.Number.Shortest
import KeywordTable.Path
import KeywordTable.Markers
import KeywordTable.Word
import KeywordTable.Layout
import KeywordTable.Table
import KeywordTable.Toml.Node
import KeywordTable.Toml.Text
import KeywordTable.Toml.Number
import KeywordTable.Toml.Entries
import KeywordTable.Toml.Grammar
import KeywordTable.Toml.Document
import KeywordTable.Toml.Excerpt
import KeywordTable.Settings.Setting
import KeywordTable.Settings.Schema
import KeywordTable.Store.FileError
import KeywordTable.Settings.Basic
import KeywordTable.Event
import KeywordTable.Log.Pattern.Mode
import KeywordTable.Log.Pattern.Atom
import KeywordTable.Log.Pattern.Set
import KeywordTable.Log.Pattern.Reader
import KeywordTable.Log.Value
import KeywordTable.Log.Directive
import KeywordTable.Log.Filter
import KeywordTable.Store.Memory
import KeywordTable.Store.Disk
import KeywordTable.Terminal.Plain
import KeywordTable.Host
import KeywordTable.Settings.Find
import KeywordTable.Terminal.Style
import KeywordTable.Terminal.Console
import KeywordTable.Generate
import KeywordTable.Session
import KeywordTable.Arguments
import KeywordTable.Usage
import KeywordTable.Command
import KeywordTable.Main
import KeywordTable.Proofs.Text
import KeywordTable.Proofs.Scan
import KeywordTable.Proofs.Blocks
import KeywordTable.Proofs.Lower
import KeywordTable.Proofs.Entries
import KeywordTable.Proofs.Table
import KeywordTable.Proofs.Path
import KeywordTable.Proofs.Store
import KeywordTable.Proofs.World
import KeywordTable.Proofs.Command
import KeywordTable.Proofs.Choice
import KeywordTable.Proofs.Start
import KeywordTable.Proofs.History
import KeywordTable.Proofs.Generations
import KeywordTable.Proofs.Directory
import KeywordTable.Proofs.Literal
import KeywordTable.Proofs.Edits
import KeywordTable.Proofs.Joining
import KeywordTable.Proofs.Words
import KeywordTable.Proofs.LineEndings
import KeywordTable.Proofs.Plain
import KeywordTable.Proofs.Report
import KeywordTable.Proofs.Spelling
import KeywordTable.Proofs.Contents
import KeywordTable.Proofs.Building
import KeywordTable.Proofs.Collisions
import KeywordTable.Proofs.Fitting
import KeywordTable.Proofs.Acceptance
import KeywordTable.Proofs.Numerals
import KeywordTable.Proofs.Format
import KeywordTable.Proofs.Keys
import KeywordTable.Proofs.Values
import KeywordTable.Proofs.Reading
import KeywordTable.Proofs.Written
import KeywordTable.Proofs.Documents
import KeywordTable.Proofs.LookupKeys
import KeywordTable.Proofs.Resolving
import KeywordTable.Proofs.Walk
import KeywordTable.Proofs.Levels
