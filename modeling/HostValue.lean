import HostValue.Capability
import HostValue.Coalescing
import HostValue.Comparison
import HostValue.DataModel
import HostValue.DeepCopy
import HostValue.Error
import HostValue.Function.Basic
import HostValue.Function.Set
import HostValue.Function.Uuid
import HostValue.Function.Version
import HostValue.Function.Yaml
import HostValue.Json.Basic
import HostValue.Json.Reader
import HostValue.Json.Writer
import HostValue.Log.Filter
import HostValue.Log.Pattern
import HostValue.Number.Digits
import HostValue.Number.Double
import HostValue.Number.Format
import HostValue.Path.Access
import HostValue.Path.Basic
import HostValue.Proofs.Coalescing.Integer
import HostValue.Proofs.Coalescing.Leniency
import HostValue.Proofs.Comparison.Agreement
import HostValue.Proofs.Comparison.Answers
import HostValue.Proofs.Comparison.Contests
import HostValue.Proofs.Comparison.Failures
import HostValue.Proofs.Comparison.KeyOrder
import HostValue.Proofs.Comparison.Leaves
import HostValue.Proofs.Comparison.Leniency
import HostValue.Proofs.Comparison.Numbers
import HostValue.Proofs.Comparison.Ranks
import HostValue.Proofs.Comparison.Reversal
import HostValue.Proofs.Comparison.Sameness
import HostValue.Proofs.Comparison.TextForms
import HostValue.Proofs.Comparison.Transitivity
import HostValue.Proofs.Function.ArgumentChecks
import HostValue.Proofs.Function.Encoding
import HostValue.Proofs.Function.Flattening
import HostValue.Proofs.Function.ItemArguments
import HostValue.Proofs.Function.Leniency
import HostValue.Proofs.Function.SetEquality
import HostValue.Proofs.Function.Yaml
import HostValue.Proofs.Json.NumberText
import HostValue.Proofs.Json.RoundTrip
import HostValue.Proofs.Json.StringText
import HostValue.Proofs.Number.Exact
import HostValue.Proofs.Number.Magnitude
import HostValue.Proofs.Number.Nearest
import HostValue.Proofs.Number.Numeral
import HostValue.Proofs.Number.Signed
import HostValue.Proofs.Number.Single
import HostValue.Proofs.Number.Whole
import HostValue.Proofs.Outcome
import HostValue.Proofs.Path.Concatenation
import HostValue.Proofs.Path.Failures
import HostValue.Proofs.Path.Field
import HostValue.Proofs.Path.Frame
import HostValue.Proofs.Path.Lens
import HostValue.Proofs.Path.Spelling
import HostValue.Proofs.Path.Write
import HostValue.Proofs.Set.Algebra
import HostValue.Proofs.Set.Membership
import HostValue.Proofs.Set.Order
import HostValue.Proofs.Supply
import HostValue.Proofs.Text.ByteOrder
import HostValue.Proofs.Text.Run
import HostValue.Proofs.Value.Copy
import HostValue.Proofs.Value.CopyFailure
import HostValue.Proofs.Value.Decoded
import HostValue.Proofs.Value.Entries
import HostValue.Proofs.Value.Erasure
import HostValue.Proofs.Value.Gathering
import HostValue.Proofs.Value.Handles
import HostValue.Proofs.Value.Meaning
import HostValue.Proofs.Value.Parts
import HostValue.Proofs.Value.Reordering
import HostValue.Proofs.Value.Visits
import HostValue.Proofs.Version.Decoration
import HostValue.Proofs.Version.Fields
import HostValue.Proofs.Version.Grammar
import HostValue.Proofs.Version.Normalization
import HostValue.Proofs.Version.Precedence
import HostValue.Proofs.Version.RoundTrip
import HostValue.Proofs.Version.Strict
import HostValue.Proofs.Version.Tolerant
import HostValue.Proofs.Version.WellFormed
import HostValue.Proofs.Yaml.Keys
import HostValue.Proofs.Yaml.Layout
import HostValue.Proofs.Yaml.Marks
import HostValue.Proofs.Yaml.Meaning
import HostValue.Proofs.Yaml.Nodes
import HostValue.Proofs.Yaml.RoundTrip
import HostValue.Proofs.Yaml.Scalar.DoubleQuoted
import HostValue.Proofs.Yaml.Scalar.Literal
import HostValue.Proofs.Yaml.Scalar.Plain
import HostValue.Proofs.Yaml.Scalar.SingleQuoted
import HostValue.Proofs.Yaml.Scalar.Words
import HostValue.Proofs.Yaml.Scalar.Written
import HostValue.Proofs.Yaml.ScalarTokens
import HostValue.Proofs.Yaml.Text
import HostValue.Proofs.Yaml.Tokens
import HostValue.Proofs.Yaml.Tree
import HostValue.Settings
import HostValue.StringSet
import HostValue.Text.Casing
import HostValue.Text.Character
import HostValue.Text.Quoted
import HostValue.Value.Basic
import HostValue.Value.Display
import HostValue.Value.Identity
import HostValue.Version.Basic
import HostValue.Version.Encoding
import HostValue.Version.Grammar
import HostValue.Yaml.Layout
import HostValue.Yaml.Node
import HostValue.Yaml.Reader
import HostValue.Yaml.Scalar
import HostValue.Yaml.Tag
import HostValue.Yaml.Text
import HostValue.Yaml.Writer
