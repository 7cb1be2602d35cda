import KeyTree.Text.Blank
import KeyTree.Text.Digit
import KeyTree.Text.Identifier
import KeyTree.Text.Quoted
import KeyTree.Number.Reading
import KeyTree.Number.Shortest
import KeyTree.Value.Display
import KeyTree.Value.Equality
import KeyTree.Value.Cycle
import KeyTree.Entry.Difference
import KeyTree.Entry.KeySet
import KeyTree.Tree.Traversal
import KeyTree.Tree.Display
import KeyTree.Tree.Walk
import KeyTree.Tree.Dispatch
import KeyTree.Entry.Split
import KeyTree.Tree.OfEntries
import KeyTree.Lookup.Build
import KeyTree.Value.Literal
import KeyTree.Source.Writer
import KeyTree.Source.Emission
import KeyTree.Source.Helpers
import KeyTree.Source.Module
import KeyTree.Source.Compiled
import KeyTree.Class.Known
import KeyTree.Declaration.Conversion
import KeyTree.Declaration.Reading
import KeyTree.Yaml.Tokens
import KeyTree.Yaml.Load
import KeyTree.Text.Utf8
import KeyTree.Text.LineEnd
import KeyTree.Files.Path
import KeyTree.Files.System
import KeyTree.Generation
import KeyTree.Command.Arguments
import KeyTree.Command.Run
import KeyTree.Main
import KeyTree.Text.Parts
import KeyTree.Text.NormalForm
import KeyTree.Proofs.Outcome
import KeyTree.Proofs.Entry.Difference
import KeyTree.Proofs.Entry.Division
import KeyTree.Proofs.Tree.Separation
import KeyTree.Proofs.Tree.Walk
import KeyTree.Proofs.Tree.Decision
import KeyTree.Proofs.Entry.KeySet
import KeyTree.Proofs.Lookup.Recall
import KeyTree.Proofs.Tree.Unnumbered
import KeyTree.Proofs.Lookup.Order
import KeyTree.Proofs.Declaration.Conformity
import KeyTree.Proofs.Text.NormalForm
import KeyTree.Proofs.Source.Names
import KeyTree.Proofs.Tree.Shape
import KeyTree.Proofs.Source.Emission
import KeyTree.Proofs.Source.Values
import KeyTree.Proofs.Source.Helpers
import KeyTree.Proofs.Source.Agreement
import KeyTree.Proofs.Source.Assembly
import KeyTree.Proofs.Source.Binding
import KeyTree.Proofs.Text.Quoted
import KeyTree.Proofs.Value.Literal
import KeyTree.Proofs.Source.Unnumbered
import KeyTree.Proofs.Source.Reading
import KeyTree.Proofs.Source.Layout
import KeyTree.Proofs.Source.Recovery
import KeyTree.Proofs.Source.Canonical
import KeyTree.Proofs.Source.Capture
import KeyTree.Proofs.Class.Resolution
import KeyTree.Proofs.Lookup.Faults
import KeyTree.Proofs.Number.Range
import KeyTree.Proofs.Declaration.Accepted
import KeyTree.Proofs.Declaration.Faults
import KeyTree.Proofs.Source.Refusal
import KeyTree.Proofs.Declaration.Rendering
import KeyTree.Proofs.Class.Reference
import KeyTree.Proofs.Declaration.Classes
import KeyTree.Proofs.Command.Run
import KeyTree.Proofs.Tree.Canonical
import KeyTree.Proofs.Tree.Routing
import KeyTree.Proofs.Lookup.Work
import KeyTree.Proofs.Lookup.Contents
import KeyTree.Proofs.Tree.Repetition
import KeyTree.Proofs.Entry.FirstFault
import KeyTree.Proofs.Tree.Splitting
import KeyTree.Proofs.Tree.Count
import KeyTree.Proofs.Source.Nesting
import KeyTree.Proofs.Source.Blocks
import KeyTree.Proofs.Source.Indentation
import KeyTree.Proofs.Source.Calls
import KeyTree.Proofs.Source.Delegation
import KeyTree.Proofs.Source.KeyLiterals
import KeyTree.Proofs.Source.RoundTrip
import KeyTree.Proofs.Declaration.WellFormed
import KeyTree.Proofs.Declaration.Validation
import KeyTree.Proofs.Value.Grammar
import KeyTree.Proofs.Class.Missing
import KeyTree.Proofs.Source.Spacing
import KeyTree.Proofs.Entry.Gathering
