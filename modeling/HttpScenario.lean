import HttpScenario.CommandLine
import HttpScenario.CommandLine.Options
import HttpScenario.CommandLine.Parser
import HttpScenario.Condition
import HttpScenario.Config
import HttpScenario.Diagnostic
import HttpScenario.Document
import HttpScenario.Execution
import HttpScenario.Extraction.Builtin
import HttpScenario.Extraction.Evaluation
import HttpScenario.Extraction.Form
import HttpScenario.Extraction.Rule
import HttpScenario.Extraction.Transform
import HttpScenario.Failure
import HttpScenario.FileTree
import HttpScenario.Files
import HttpScenario.Generator
import HttpScenario.Hook
import HttpScenario.Json.Basic
import HttpScenario.Json.Parser
import HttpScenario.Json.Printer
import HttpScenario.Main
import HttpScenario.Method
import HttpScenario.Noted
import HttpScenario.Number.Decimal
import HttpScenario.Number.Double
import HttpScenario.Number.Integer
import HttpScenario.Path
import HttpScenario.Pattern
import HttpScenario.Pattern.ClassName
import HttpScenario.Pattern.Parser
import HttpScenario.Pattern.Program
import HttpScenario.Pattern.Search
import HttpScenario.Pattern.Shape
import HttpScenario.Pattern.Size
import HttpScenario.Pattern.Syntax
import HttpScenario.Pattern.Utf8
import HttpScenario.Placeholder
import HttpScenario.Prepared
import HttpScenario.Proofs.Fields
import HttpScenario.Proofs.Run.Hoist
import HttpScenario.Proofs.Run.Recording
import HttpScenario.Registry
import HttpScenario.Registry.Outline
import HttpScenario.Report
import HttpScenario.Report.Format
import HttpScenario.Report.Reporters
import HttpScenario.Request
import HttpScenario.Response
import HttpScenario.Runner
import HttpScenario.Scenario
import HttpScenario.Scenario.Form
import HttpScenario.Scenario.Loader
import HttpScenario.Scenario.Outline
import HttpScenario.Schema.Basic
import HttpScenario.Schema.Check
import HttpScenario.Schema.Form
import HttpScenario.Status
import HttpScenario.Template
import HttpScenario.Text.Age
import HttpScenario.Text.Base64
import HttpScenario.Text.Blank
import HttpScenario.Text.Break
import HttpScenario.Text.Case
import HttpScenario.Text.Category
import HttpScenario.Text.CharSet
import HttpScenario.Text.Composition
import HttpScenario.Text.Escaped
import HttpScenario.Text.Letter
import HttpScenario.Text.Part
import HttpScenario.Text.Property
import HttpScenario.Text.Runs
import HttpScenario.Text.Script
import HttpScenario.Transport
import HttpScenario.Transport.Address
import HttpScenario.Transport.Answer
import HttpScenario.Transport.Message
import HttpScenario.Transport.Outgoing
import HttpScenario.Url.Basic
import HttpScenario.Url.Domain
import HttpScenario.Url.Error
import HttpScenario.Url.Host
import HttpScenario.Url.Label
import HttpScenario.Url.Mapping
import HttpScenario.Url.Parser
import HttpScenario.Url.Percent
import HttpScenario.Url.Punycode
import HttpScenario.Validation.Builtin
import HttpScenario.Validation.Check
import HttpScenario.Validation.Evaluation
import HttpScenario.Validation.Form
import HttpScenario.World
import HttpScenario.Yaml.Document
import HttpScenario.Yaml.Node
import HttpScenario.Yaml.Plain
import HttpScenario.Yaml.Printer
import HttpScenario.Yaml.Token
import HttpScenario.Yaml.Token.Lexer
import HttpScenario.Yaml.Token.Scalar
import HttpScenario.Proofs.Run.Performed
import HttpScenario.Proofs.Run.History
import HttpScenario.Proofs.Run.Results
import HttpScenario.Proofs.Run.Calls
import HttpScenario.Proofs.Run.Replay
import HttpScenario.Proofs.Validation.Reason
import HttpScenario.Proofs.Run.Atomicity
import HttpScenario.Proofs.Registrations
import HttpScenario.Proofs.Schema.Meaning
import HttpScenario.Proofs.Schema.Order
import HttpScenario.Proofs.Schema.Checking
import HttpScenario.Proofs.Schema.Reading
import HttpScenario.Proofs.Validation.Condition
import HttpScenario.Proofs.Validation.Meaning
import HttpScenario.Proofs.Validation.Rearrangement
import HttpScenario.Proofs.Extraction.Entries
import HttpScenario.Proofs.Extraction.Keys
import HttpScenario.Proofs.Path.Steps
import HttpScenario.Proofs.Schema.Culprit
import HttpScenario.Proofs.Json.Distinct
import HttpScenario.Proofs.Template.Filling
import HttpScenario.Proofs.Transport.Script
import HttpScenario.Proofs.Transport.Strictness
import HttpScenario.Proofs.Loading
import HttpScenario.Proofs.Run.DryRun
import HttpScenario.Proofs.Run.Session
import HttpScenario.Proofs.Run.Correspondence
import HttpScenario.Proofs.Run.Parametric
import HttpScenario.Proofs.Validation.Errors
import HttpScenario.Proofs.CommandLine.Readings
import HttpScenario.Proofs.CommandLine.Verdict
import HttpScenario.Proofs.Transport.Retries
import HttpScenario.Proofs.Validation.Derivation
import HttpScenario.Proofs.Run.FirstError
import HttpScenario.Proofs.Run.Dispatch
import HttpScenario.Proofs.Extraction.Elements
import HttpScenario.Proofs.Extraction.Attribution
import HttpScenario.Proofs.Transport.Address
import HttpScenario.Proofs.Validation.Entries
import HttpScenario.Proofs.Validation.Coercions
import HttpScenario.Proofs.Validation.Nesting
import HttpScenario.Proofs.Template.Composition
import HttpScenario.Proofs.Path.Resolution
import HttpScenario.Proofs.Template.Staging
import HttpScenario.Proofs.Run.Headers
import HttpScenario.Proofs.Number.Comparison
import HttpScenario.Proofs.Extraction.Integers
import HttpScenario.Proofs.Validation.Grammar
import HttpScenario.Proofs.Extraction.Grammar
import HttpScenario.Proofs.Registry.Latest
import HttpScenario.Proofs.FileTree.Writing
import HttpScenario.Proofs.Report.Saving
import HttpScenario.Proofs.Text.Membership
