import DartTree.Concrete.Convert
import DartTree.Concrete.Kind
import DartTree.Concrete.Tree
import DartTree.Decimal.Shortest
import DartTree.Decimal.Written
import DartTree.Grammar.Category
import DartTree.Grammar.Json
import DartTree.Grammar.Kind
import DartTree.Grammar.Role
import DartTree.ImportError
import DartTree.Interchange.Build
import DartTree.Interchange.Json
import DartTree.Interchange.Text
import DartTree.Interchange.Tree
import DartTree.Json.Document
import DartTree.Json.Numeral
import DartTree.Json.Reading
import DartTree.Json.Record
import DartTree.Json.Scan
import DartTree.Json.StringScan
import DartTree.Json.Value
import DartTree.Limits
import DartTree.Span
import DartTree.SyntaxError
import DartTree.Text.Blank
import DartTree.Text.Quoted
import DartTree.Text.Visible
import DartTree.Tree.Json
import DartTree.Tree.Node
import DartTree.Tree.Preorder
import DartTree.View
import DartTree.Visitor.Basic
import DartTree.Visitor.Recording
import DartTree.Proofs.Interchange.Codec
import DartTree.Proofs.Grammar.Names
import DartTree.Proofs.Interchange.RoundTrip
import DartTree.Proofs.Interchange.Import
import DartTree.Proofs.Concrete.Sites
import DartTree.Proofs.Concrete.Conversion
import DartTree.Proofs.Concrete.Survival
import DartTree.Proofs.Concrete.Outcome
import DartTree.Proofs.Interchange.WellFormed
import DartTree.Proofs.Grammar.Chains
import DartTree.Proofs.Tree.Walk
import DartTree.Proofs.Visitor.Dispatch
import DartTree.Proofs.Visitor.Forwarding
import DartTree.Proofs.Visitor.Descent
import DartTree.Proofs.Tree.Codec
import DartTree.Proofs.Concrete.Shape
import DartTree.Proofs.Interchange.Builder
import DartTree.Proofs.Interchange.Strict
import DartTree.Proofs.Json.Grammar
import DartTree.Proofs.Interchange.Objects
import DartTree.Proofs.Interchange.LastMembers
import DartTree.Proofs.Span.Enclosure
import DartTree.Proofs.Tree.Listing
import DartTree.Proofs.Visitor.Reentry
import DartTree.Proofs.Visitor.Views
import DartTree.Proofs.Concrete.Names
