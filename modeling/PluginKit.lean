import PluginKit.Data.Table
import PluginKit.Text.Blank
import PluginKit.Text.Slice
import PluginKit.Text.Alphanumeric
import PluginKit.Version.Parser
import PluginKit.Version.Compatibility
import PluginKit.Version.Json
import PluginKit.Decimal.Style
import PluginKit.Json.Basic
import PluginKit.Json.Token
import PluginKit.Json.Draft
import PluginKit.Json.Printer
import PluginKit.Halt
import PluginKit.Accessor.Spec
import PluginKit.Host
import PluginKit.Yaml.Printer
import PluginKit.Yaml.Scalar
import PluginKit.Yaml.Tag
import PluginKit.Yaml.Token
import PluginKit.Yaml.Node
import PluginKit.Files
import PluginKit.Json.Summary
import PluginKit.Cli.Output
import PluginKit.Cli.Failure
import PluginKit.Cli.Configuration
import PluginKit.Pattern.Basic
import PluginKit.Pattern.Parser
import PluginKit.Pattern.Support
import PluginKit.Cli.LogFilter
import PluginKit.Cli.Words
import PluginKit.Cli.Transcript
import PluginKit.Cli.Program
import PluginKit.Main
import PluginKit.Proofs.Outcome
import PluginKit.Proofs.Text.Numeral
import PluginKit.Proofs.Json.Ending
import PluginKit.Proofs.Version.Grammar
import PluginKit.Proofs.Version.Diagnosis
import PluginKit.Proofs.Version.Canonical
import PluginKit.Proofs.Version.Builder
import PluginKit.Proofs.Version.PartialOrder
import PluginKit.Proofs.Version.Shortfall
import PluginKit.Proofs.Host.Requirement
import PluginKit.Proofs.Accessor.Meaning
import PluginKit.Proofs.Cli.Output
import PluginKit.Proofs.Cli.Check
import PluginKit.Proofs.Json.Keys
import PluginKit.Proofs.Record.Path
import PluginKit.Proofs.Accessor.Kind
import PluginKit.Proofs.Record.Node
import PluginKit.Proofs.Yaml.Ending
import PluginKit.Proofs.Version.Explanation
import PluginKit.Proofs.Cli.Serialized
import PluginKit.Proofs.Incident
import PluginKit.Proofs.Cli.Settings
import PluginKit.Proofs.Cli.Access
import PluginKit.Proofs.Cli.Values
import PluginKit.Proofs.Record.Composition
import PluginKit.Proofs.Cli.Configuration
import PluginKit.Proofs.Cli.Recheck
import PluginKit.Proofs.Data.Table
import PluginKit.Proofs.Catalog
import PluginKit.Proofs.Dependency
import PluginKit.Proofs.Json.Escape
import PluginKit.Proofs.Json.Draft
import PluginKit.Proofs.Data.Document
import PluginKit.Proofs.Settings
import PluginKit.Proofs.Cli.Acceptance
import PluginKit.Proofs.Json.Summary
import PluginKit.Proofs.Cli.Lines
import PluginKit.Proofs.Cli.Simulation
