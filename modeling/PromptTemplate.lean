import PromptTemplate.Block
import PromptTemplate.Block.Tree
import PromptTemplate.CommandLine
import PromptTemplate.CommandLine.Options
import PromptTemplate.ConfigFile
import PromptTemplate.Context
import PromptTemplate.Dictionary
import PromptTemplate.Dictionary.File
import PromptTemplate.Disk
import PromptTemplate.Disk.Path
import PromptTemplate.Failure
import PromptTemplate.JobData
import PromptTemplate.Json
import PromptTemplate.Json.Parser
import PromptTemplate.Json.Printer
import PromptTemplate.Log.Entry
import PromptTemplate.Log.Line
import PromptTemplate.Log.Logger
import PromptTemplate.Log.RunId
import PromptTemplate.Logged
import PromptTemplate.LoopItems
import PromptTemplate.Main
import PromptTemplate.Markup
import PromptTemplate.Number.Decimal
import PromptTemplate.Number.Integer
import PromptTemplate.Number.Rounding
import PromptTemplate.Pipes
import PromptTemplate.Preview
import PromptTemplate.Render
import PromptTemplate.Resolve
import PromptTemplate.Secret
import PromptTemplate.Secret.File
import PromptTemplate.Settings
import PromptTemplate.Settings.EnvFile
import PromptTemplate.Settings.EnvFile.Source
import PromptTemplate.Table
import PromptTemplate.Tag.ForHeader
import PromptTemplate.Tag.Parser
import PromptTemplate.Tag.Parts
import PromptTemplate.Template
import PromptTemplate.Template.Loader
import PromptTemplate.TemplateError
import PromptTemplate.Text.Blank
import PromptTemplate.Text.CaseClass
import PromptTemplate.Text.Cut
import PromptTemplate.Text.Encoding
import PromptTemplate.Text.LowerCase
import PromptTemplate.Text.Quoted
import PromptTemplate.Text.Units
import PromptTemplate.Text.Utf16
import PromptTemplate.Text.Utf8
import PromptTemplate.Time.Calendar
import PromptTemplate.Time.Duration
import PromptTemplate.Time.Stamp
import PromptTemplate.Time.Zone
import PromptTemplate.Token
import PromptTemplate.Tokenizer
import PromptTemplate.Validation
import PromptTemplate.Proofs.Block.Balance
import PromptTemplate.Proofs.Block.Split
import PromptTemplate.Proofs.Disk.SameBut
import PromptTemplate.Proofs.Markup.Layout
import PromptTemplate.Proofs.Markup.Tokens
import PromptTemplate.Proofs.Preview.Secrecy
import PromptTemplate.Proofs.Render.BlockErrors
import PromptTemplate.Proofs.Render.ErrorKinds
import PromptTemplate.Proofs.Render.Tree
import PromptTemplate.Proofs.Render.Walk
import PromptTemplate.Proofs.Secret.Alike
import PromptTemplate.Proofs.Secret.Blank
import PromptTemplate.Proofs.Text.Cut
import PromptTemplate.Proofs.Markup.Seam
import PromptTemplate.Proofs.Render.Seam
import PromptTemplate.Proofs.Outcome
import PromptTemplate.Proofs.Template.Read
import PromptTemplate.Proofs.Template.Session
import PromptTemplate.Proofs.Disk.Directory
import PromptTemplate.Proofs.JobData.Dates
import PromptTemplate.Proofs.Preview.Failures
import PromptTemplate.Proofs.Number.Rounding
import PromptTemplate.Proofs.Time.Offset
import PromptTemplate.Proofs.Text.Blank
import PromptTemplate.Proofs.Tag.Parts
import PromptTemplate.Proofs.Tag.WellFormed
import PromptTemplate.Proofs.Markup.WellFormed
import PromptTemplate.Proofs.Block.Scope
import PromptTemplate.Proofs.Render.Mentions
import PromptTemplate.Proofs.Tag.Names
import PromptTemplate.Proofs.Tag.Renaming
import PromptTemplate.Proofs.Render.Renaming
import PromptTemplate.Proofs.Number.Digits
import PromptTemplate.Proofs.Time.Calendar
import PromptTemplate.Proofs.Time.WrittenTime
import PromptTemplate.Proofs.Time.DaysAgo
import PromptTemplate.Proofs.Number.Order
import PromptTemplate.Proofs.Preview.Inline
import PromptTemplate.Proofs.Time.DateForm
import PromptTemplate.Proofs.Loop.Counting
import PromptTemplate.Proofs.Loop.Items
import PromptTemplate.Proofs.Tag.Written
import PromptTemplate.Proofs.Markup.Written
import PromptTemplate.Proofs.Render.Written
import PromptTemplate.Proofs.Time.Interpolation
import PromptTemplate.Proofs.Loop.Memories
import PromptTemplate.Proofs.Loop.Indices
import PromptTemplate.Proofs.Tag.ForHeader
import PromptTemplate.Proofs.Json.Members
import PromptTemplate.Proofs.Dictionary.Faults
import PromptTemplate.Proofs.Dictionary.Lookup
import PromptTemplate.Proofs.Render.Phases
import PromptTemplate.Proofs.Secret.Loading
import PromptTemplate.Proofs.Secret.Masking
import PromptTemplate.Proofs.Disk.Path
import PromptTemplate.Proofs.Disk.Entries
import PromptTemplate.Proofs.Template.Listing
import PromptTemplate.Proofs.Tag.Splitting
import PromptTemplate.Proofs.Time.DurationText
