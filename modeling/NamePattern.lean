import NamePattern.Captures
import NamePattern.CharRegex
import NamePattern.CharRegex.ByteRuns
import NamePattern.CharRegex.CharSet
import NamePattern.CharRegex.Expr
import NamePattern.CharRegex.Folding
import NamePattern.CharRegex.Footprint
import NamePattern.CharRegex.Marks
import NamePattern.CharRegex.Packed
import NamePattern.CharRegex.Program
import NamePattern.CharRegex.Property
import NamePattern.CharRegex.Property.Age
import NamePattern.CharRegex.Property.Binary
import NamePattern.CharRegex.Property.Boundary
import NamePattern.CharRegex.Property.Category
import NamePattern.CharRegex.Property.Script
import NamePattern.CharRegex.Reader
import NamePattern.CharRegex.Search
import NamePattern.CharRegex.Tree
import NamePattern.Component
import NamePattern.Component.Escaped
import NamePattern.Name
import NamePattern.Name.Relation
import NamePattern.Name.Uri
import NamePattern.NameRegex
import NamePattern.Pattern.Arena
import NamePattern.Pattern.Basic
import NamePattern.Pattern.Bracket
import NamePattern.Pattern.Error
import NamePattern.Pattern.Matcher
import NamePattern.Pattern.Memo
import NamePattern.Pattern.Quantifier
import NamePattern.Pattern.Registry
import NamePattern.Pattern.Repetition
import NamePattern.Pattern.Search
import NamePattern.Pattern.Slots
import NamePattern.Proofs.Allocation
import NamePattern.Proofs.Anchors
import NamePattern.Proofs.Attempt
import NamePattern.Proofs.Balance
import NamePattern.Proofs.Building
import NamePattern.Proofs.Built
import NamePattern.Proofs.CanonicalForm
import NamePattern.Proofs.Capturing
import NamePattern.Proofs.Classes
import NamePattern.Proofs.Compiled
import NamePattern.Proofs.Decision
import NamePattern.Proofs.Defined
import NamePattern.Proofs.DotRegex
import NamePattern.Proofs.Emission
import NamePattern.Proofs.Enclosed
import NamePattern.Proofs.EscapedForm
import NamePattern.Proofs.Escapes
import NamePattern.Proofs.ExactMatch
import NamePattern.Proofs.ExactRegex
import NamePattern.Proofs.Execution
import NamePattern.Proofs.Exploration
import NamePattern.Proofs.Failure
import NamePattern.Proofs.Faults
import NamePattern.Proofs.Forest
import NamePattern.Proofs.Frame
import NamePattern.Proofs.Genuine
import NamePattern.Proofs.Grammar
import NamePattern.Proofs.Greedy
import NamePattern.Proofs.Groups
import NamePattern.Proofs.Growth
import NamePattern.Proofs.Guarded
import NamePattern.Proofs.Hygiene
import NamePattern.Proofs.Indexed
import NamePattern.Proofs.Items
import NamePattern.Proofs.Juxtaposition
import NamePattern.Proofs.Language
import NamePattern.Proofs.Locality
import NamePattern.Proofs.Matching
import NamePattern.Proofs.Meaning
import NamePattern.Proofs.NameOrder
import NamePattern.Proofs.Numbering
import NamePattern.Proofs.OfName
import NamePattern.Proofs.Openings
import NamePattern.Proofs.Outcome
import NamePattern.Proofs.Parentheses
import NamePattern.Proofs.Persistence
import NamePattern.Proofs.Places
import NamePattern.Proofs.Positions
import NamePattern.Proofs.Quantifiers
import NamePattern.Proofs.Quoting
import NamePattern.Proofs.Reading
import NamePattern.Proofs.Refusal
import NamePattern.Proofs.Registering
import NamePattern.Proofs.Renumbering
import NamePattern.Proofs.Repetition
import NamePattern.Proofs.Room
import NamePattern.Proofs.RoundTrip
import NamePattern.Proofs.Shifting
import NamePattern.Proofs.ShortCut
import NamePattern.Proofs.SingleItem
import NamePattern.Proofs.Spans
import NamePattern.Proofs.Spelling
import NamePattern.Proofs.Stack
import NamePattern.Proofs.Steady
import NamePattern.Proofs.SubNames
import NamePattern.Proofs.Surroundings
import NamePattern.Proofs.Templates
import NamePattern.Proofs.Tokens
import NamePattern.Proofs.Unescaping
import NamePattern.Proofs.Validity
import NamePattern.Proofs.Verdict
import NamePattern.Proofs.Windows
import NamePattern.Proofs.Writing
import NamePattern.Template
import NamePattern.Text.Decimal
import NamePattern.Text.Glyph
import NamePattern.Text.Letter
import NamePattern.Text.Quoted
import NamePattern.Text.Utf8
import NamePattern.TrustRule
