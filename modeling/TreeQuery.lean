import TreeQuery.Main
import TreeQuery.Proofs.Document.WellFormed
import TreeQuery.Proofs.Document.Preservation
import TreeQuery.Proofs.Document.Attachment
import TreeQuery.Proofs.Document.Construction
import TreeQuery.Proofs.Document.History
import TreeQuery.Proofs.Document.Preorder
import TreeQuery.Proofs.Document.Siblings
import TreeQuery.Proofs.Document.Refusals
import TreeQuery.Proofs.Selector.Chains
import TreeQuery.Proofs.Query.Results
import TreeQuery.Proofs.Text.Character
import TreeQuery.Proofs.Text.Numeral
import TreeQuery.Proofs.Text.Lowercase
import TreeQuery.Proofs.Text.LetterCase
import TreeQuery.Proofs.Text.Sigma
import TreeQuery.Proofs.Text.Joining
import TreeQuery.Proofs.Document.Attributes
import TreeQuery.Proofs.Selector.Checks
import TreeQuery.Proofs.Selector.Grammar
import TreeQuery.Proofs.Selector.Delimiters
import TreeQuery.Proofs.Selector.Characters
import TreeQuery.Proofs.Selector.Leaves
import TreeQuery.Proofs.Selector.Pieces
import TreeQuery.Proofs.Selector.Solidity
import TreeQuery.Proofs.Selector.RoundTrip
import TreeQuery.Proofs.Document.Description
import TreeQuery.Proofs.Document.Resemblance
import TreeQuery.Proofs.Document.Rebuilding
import TreeQuery.Proofs.Document.Copies
import TreeQuery.Proofs.Document.Locality
import TreeQuery.Proofs.Query.Shape
import TreeQuery.Proofs.Selector.Openings
import TreeQuery.Proofs.Selector.Breaks
import TreeQuery.Proofs.Selector.Readings
import TreeQuery.Proofs.Selector.Steps
import TreeQuery.Proofs.Selector.Shapes
import TreeQuery.Proofs.Selector.Parametricity
import TreeQuery.Proofs.Selector.Levels
import TreeQuery.Proofs.Selector.Escapes
import TreeQuery.Proofs.Selector.Failures
import TreeQuery.Proofs.Selector.Depth
import TreeQuery.Proofs.Selector.DepthLimit
import TreeQuery.Proofs.Selector.Arguments
import TreeQuery.Proofs.Selector.EscapedArguments
import TreeQuery.Proofs.Query.Complement
import TreeQuery.Proofs.Selector.LetterCase
import TreeQuery.Proofs.Selector.RightSides
import TreeQuery.Proofs.Query.Identification
import TreeQuery.Proofs.Query.Occurrences
import TreeQuery.Proofs.Query.Upward
import TreeQuery.Proofs.Query.Narrowing
import TreeQuery.Proofs.Json.Layout
import TreeQuery.Proofs.Json.Writers
import TreeQuery.Proofs.CommandLine.JsonOutput
import TreeQuery.Proofs.Document.Traversals
import TreeQuery.Proofs.Selector.Clauses
import TreeQuery.Proofs.Query.Positions
import TreeQuery.Proofs.CommandLine.OutputModes
import TreeQuery.Selector.Cursor
import TreeQuery.Proofs.Document.LastValues
import TreeQuery.Proofs.Warnings
import TreeQuery.Proofs.Selector.LiveDelimiters
import TreeQuery.Proofs.Selector.Cuts
import TreeQuery.Proofs.Selector.CursorRuns
