import ConfigTree.Number.Format
import ConfigTree.Number.Shortest
import ConfigTree.Number.Layout
import ConfigTree.Number.Literal
import ConfigTree.Number.IntKind
import ConfigTree.Json.Basic
import ConfigTree.Json.Reader
import ConfigTree.Text.CaseTable
import ConfigTree.Text.Case
import ConfigTree.Node.Basic
import ConfigTree.Node.Tree
import ConfigTree.Node.Json
import ConfigTree.Node.Debug
import ConfigTree.Node.Resolve
import ConfigTree.Text.Quote
import ConfigTree.Error
import ConfigTree.Coerce
import ConfigTree.Naming
import ConfigTree.Template
import ConfigTree.Render
import ConfigTree.TypeExpr
import ConfigTree.Access
import ConfigTree.Text.Split
import ConfigTree.Source.Properties
import ConfigTree.Source.Env
import ConfigTree.Binding.Shape
import ConfigTree.Binding.Member
import ConfigTree.Binding.Body
import ConfigTree.Binding.Schema
import ConfigTree.Binding.Instance
import ConfigTree.Binding.Construct
import ConfigTree.Binding.Evaluate
import ConfigTree.Binding.Dump
import ConfigTree.Toml.Scalar
import ConfigTree.Toml.Document
import ConfigTree.Source.Layers
import ConfigTree.Samples.Classes
import ConfigTree.Samples.Reports
import ConfigTree.Proofs.Node.Lookup
import ConfigTree.Proofs.Node.Merge
import ConfigTree.Proofs.Node.Expand
import ConfigTree.Proofs.Binding.Queue
import ConfigTree.Proofs.Binding.FailureSite
import ConfigTree.Proofs.Binding.FailurePath
import ConfigTree.Proofs.Binding.Forest
import ConfigTree.Proofs.Binding.Termination
import ConfigTree.Proofs.Binding.Advance
import ConfigTree.Proofs.Binding.Enclosing
import ConfigTree.Proofs.Binding.Demand
import ConfigTree.Proofs.Binding.Memo
import ConfigTree.Proofs.Binding.Equations
import ConfigTree.Proofs.Binding.Record
import ConfigTree.Proofs.Binding.Slots
import ConfigTree.Proofs.Binding.Acyclic
import ConfigTree.Proofs.Binding.Valuation
import ConfigTree.Proofs.Node.Layers
import ConfigTree.Proofs.Node.Paths
import ConfigTree.Proofs.Node.Templates
import ConfigTree.Proofs.Node.Resolution
import ConfigTree.Proofs.Node.Constructed
import ConfigTree.Proofs.Binding.Derived
import ConfigTree.Proofs.Node.TextLeaves
import ConfigTree.Proofs.Coerce.Integers
import ConfigTree.Proofs.Node.Documents
import ConfigTree.Proofs.Source.IndexLists
import ConfigTree.Proofs.Node.Escaping
import ConfigTree.Proofs.Text.Pieces
import ConfigTree.Proofs.Coerce.ListTexts
import ConfigTree.Proofs.Source.PropertiesText
import ConfigTree.Proofs.Text.UpperCase
import ConfigTree.Proofs.Coerce.Enums
