import ConstantScan.Cli.Command
import ConstantScan.Cli.Help
import ConstantScan.Cli.Invocation
import ConstantScan.Cli.Parse
import ConstantScan.Cli.Program
import ConstantScan.Cli.Run
import ConstantScan.Config.Basic
import ConstantScan.Config.Extract
import ConstantScan.Config.Format
import ConstantScan.Config.Load
import ConstantScan.Config.Merge
import ConstantScan.Config.Variable
import ConstantScan.Console
import ConstantScan.Environment
import ConstantScan.Execution
import ConstantScan.FileFilter
import ConstantScan.FileTree
import ConstantScan.Glob.Basic
import ConstantScan.Glob.Parser
import ConstantScan.Ignore.Basic
import ConstantScan.Ignore.Chain
import ConstantScan.Ignore.Parser
import ConstantScan.Json.Parser
import ConstantScan.Json.Printer
import ConstantScan.Libraries
import ConstantScan.Main
import ConstantScan.NameSet
import ConstantScan.Number.Decimal
import ConstantScan.Number.Double
import ConstantScan.Path
import ConstantScan.Regex.Basic
import ConstantScan.Regex.CharClass
import ConstantScan.Regex.Matcher
import ConstantScan.Regex.Parser
import ConstantScan.Report.Basic
import ConstantScan.Report.Json
import ConstantScan.Report.Render
import ConstantScan.Report.Text
import ConstantScan.Rule.Basic
import ConstantScan.Rule.Builtin
import ConstantScan.Scan.File
import ConstantScan.Scan.LineMatch
import ConstantScan.Scan.Log
import ConstantScan.Scan.Run
import ConstantScan.Scan.Scanner
import ConstantScan.Target
import ConstantScan.Text.Lines
import ConstantScan.Text.Quoted
import ConstantScan.Text.Style
import ConstantScan.Text.Utf8
import ConstantScan.Toml.Document
import ConstantScan.Toml.Parser
import ConstantScan.Toml.Printer
import ConstantScan.Unicode.Blank
import ConstantScan.Unicode.Case
import ConstantScan.Unicode.CaseTable
import ConstantScan.Unicode.CategoryTable
import ConstantScan.Unicode.Property
import ConstantScan.Unicode.PropertyTable
import ConstantScan.Unicode.Runs
import ConstantScan.Unicode.ScriptTable
import ConstantScan.Unicode.WordTable
import ConstantScan.Value
import ConstantScan.Walk
import ConstantScan.Yaml.Cursor
import ConstantScan.Yaml.Node
import ConstantScan.Yaml.Parser
import ConstantScan.Yaml.Printer
import ConstantScan.Yaml.Scalar
import ConstantScan.Yaml.Token
import ConstantScan.Proofs.Execution
import ConstantScan.Proofs.Path
import ConstantScan.Proofs.FileTree
import ConstantScan.Proofs.Walk
import ConstantScan.Proofs.WalkSelection
import ConstantScan.Proofs.Run
import ConstantScan.Proofs.Enumeration
import ConstantScan.Proofs.Effort
import ConstantScan.Proofs.Groups
import ConstantScan.Proofs.TargetOrder
import ConstantScan.Proofs.LineByLine
import ConstantScan.Proofs.RuleIndependence
import ConstantScan.Proofs.Layers
import ConstantScan.Proofs.Lookup
import ConstantScan.Proofs.Defaults
import ConstantScan.Proofs.Priority
import ConstantScan.Proofs.ConfigFields
import ConstantScan.Proofs.JsonText
import ConstantScan.Proofs.Reload
import ConstantScan.Proofs.TomlDocument
import ConstantScan.Proofs.TomlText
import ConstantScan.Proofs.StatusLines
import ConstantScan.Proofs.Stages
import ConstantScan.Proofs.ExitStatus
import ConstantScan.Proofs.Preflight
import ConstantScan.Proofs.TargetCounts
import ConstantScan.Proofs.ConfigValues
import ConstantScan.Proofs.Shown
import ConstantScan.Proofs.ReportJson
import ConstantScan.Proofs.Places
import ConstantScan.Proofs.RegexMatch
import ConstantScan.Proofs.BuiltinShapes
import ConstantScan.Proofs.BuiltinTails
import ConstantScan.Proofs.RuleErrors
import ConstantScan.Proofs.TextOrder
import ConstantScan.Proofs.Grouping
import ConstantScan.Proofs.ReportText
import ConstantScan.Proofs.ReportStyles
import ConstantScan.Proofs.Roots
import ConstantScan.Proofs.NarrowerWalks
import ConstantScan.Proofs.NearestDouble
import ConstantScan.Proofs.Limits
import ConstantScan.Proofs.Overrides
import ConstantScan.Proofs.Extensions
import ConstantScan.Proofs.TargetRoots
import ConstantScan.Proofs.GivenPaths
import ConstantScan.Proofs.ReportAborts
import ConstantScan.Proofs.CanonicalOrder
import ConstantScan.Proofs.LineEnds
