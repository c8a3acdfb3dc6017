import ComponentAtlas.Analysis.Engine
import ComponentAtlas.Analysis.Progress
import ComponentAtlas.Analysis.Routine
import ComponentAtlas.Analysis.Scripted
import ComponentAtlas.Diagnostic.Basic
import ComponentAtlas.Diagnostic.Code
import ComponentAtlas.Diagnostic.Failure
import ComponentAtlas.Evaluation.Interpreter
import ComponentAtlas.Evaluation.Value
import ComponentAtlas.Export.Markup
import ComponentAtlas.Export.Program
import ComponentAtlas.Export.Scope
import ComponentAtlas.Export.Value
import ComponentAtlas.Export.Workspace
import ComponentAtlas.FileGraph
import ComponentAtlas.Json.Basic
import ComponentAtlas.Json.Reading
import ComponentAtlas.Log
import ComponentAtlas.Markup.Entity
import ComponentAtlas.Markup.Node
import ComponentAtlas.Markup.Tag
import ComponentAtlas.Markup.Token
import ComponentAtlas.Markup.Tree
import ComponentAtlas.Metadata
import ComponentAtlas.Number.Shortest
import ComponentAtlas.Path
import ComponentAtlas.Program.Basic
import ComponentAtlas.Program.Classes
import ComponentAtlas.Program.Glob
import ComponentAtlas.Program.Host
import ComponentAtlas.Program.Names
import ComponentAtlas.Proofs.Analysis.Contract
import ComponentAtlas.Proofs.Analysis.Independence
import ComponentAtlas.Proofs.Analysis.Lifecycle
import ComponentAtlas.Proofs.Analysis.Reentrancy
import ComponentAtlas.Proofs.Evaluation.Finality
import ComponentAtlas.Proofs.Evaluation.Quietness
import ComponentAtlas.Proofs.Evaluation.Refinement
import ComponentAtlas.Proofs.Markup.Places
import ComponentAtlas.Proofs.Program.Chains
import ComponentAtlas.Proofs.Program.Loading
import ComponentAtlas.Proofs.Program.Resolution
import ComponentAtlas.Proofs.Roles.Knowledge
import ComponentAtlas.Proofs.Roles.Locality
import ComponentAtlas.Proofs.Roles.QueryOrder
import ComponentAtlas.Proofs.Scope.Exports
import ComponentAtlas.Proofs.Scope.Listing
import ComponentAtlas.Proofs.Scope.Membership
import ComponentAtlas.Proofs.Scope.Order
import ComponentAtlas.Proofs.Selector.Lexemes
import ComponentAtlas.Proofs.Selector.Matching
import ComponentAtlas.Proofs.Selector.Progress
import ComponentAtlas.Proofs.Selector.ReadBack
import ComponentAtlas.Proofs.Source.Positions
import ComponentAtlas.Proofs.Template.Binding
import ComponentAtlas.Provider
import ComponentAtlas.Resource
import ComponentAtlas.Role
import ComponentAtlas.Roles.Analysis
import ComponentAtlas.Roles.Component
import ComponentAtlas.Roles.Directive
import ComponentAtlas.Roles.Handlers
import ComponentAtlas.Roles.Injectable
import ComponentAtlas.Roles.Injection
import ComponentAtlas.Roles.Module
import ComponentAtlas.Roles.Pipe
import ComponentAtlas.Roles.Work
import ComponentAtlas.Route
import ComponentAtlas.Scope.Basic
import ComponentAtlas.Scope.Lookup
import ComponentAtlas.Script.Declaration
import ComponentAtlas.Script.Reading.Classes
import ComponentAtlas.Script.Reading.Cursor
import ComponentAtlas.Script.Reading.Expressions
import ComponentAtlas.Script.Reading.Module
import ComponentAtlas.Script.Reading.Statements
import ComponentAtlas.Script.Reading.Types
import ComponentAtlas.Script.Token
import ComponentAtlas.Script.Tree
import ComponentAtlas.Selector.Basic
import ComponentAtlas.Selector.Matcher
import ComponentAtlas.Selector.Reading
import ComponentAtlas.Source.Span
import ComponentAtlas.Style.Reading
import ComponentAtlas.Style.Rule
import ComponentAtlas.Table
import ComponentAtlas.Template.Binding
import ComponentAtlas.Template.Microsyntax
import ComponentAtlas.Template.Node
import ComponentAtlas.Template.Reading
import ComponentAtlas.Text.Chars
import ComponentAtlas.Text.Identifier
import ComponentAtlas.Text.LetterCase
import ComponentAtlas.Text.Ranges
import ComponentAtlas.Workspace.Options
import ComponentAtlas.Workspace.Routes
import ComponentAtlas.Workspace.Session
import ComponentAtlas.Workspace.Symbols
import ComponentAtlas.Workspace.Views
import ComponentAtlas.Proofs.Markup.Scanning
import ComponentAtlas.Proofs.Markup.Nesting
import ComponentAtlas.Proofs.Markup.Printing
import ComponentAtlas.Proofs.Markup.ReadBack
import ComponentAtlas.Proofs.Source.Bytes
import ComponentAtlas.Proofs.Markup.Bytewise.Scanner
import ComponentAtlas.Proofs.Markup.Bytewise.Tags
import ComponentAtlas.Proofs.Markup.Bytewise.Tokens
import ComponentAtlas.Proofs.Template.Clauses
import ComponentAtlas.Proofs.Template.Cuts
import ComponentAtlas.Proofs.Template.Microsyntax
import ComponentAtlas.Proofs.Template.Aborts
import ComponentAtlas.Proofs.Evaluation.Confinement
import ComponentAtlas.Proofs.FileGraph.Dependents
import ComponentAtlas.Proofs.Evaluation.Dependence
import ComponentAtlas.Proofs.Roles.Scopeless
import ComponentAtlas.Proofs.Analysis.Records
import ComponentAtlas.Proofs.Workspace.Serving
import ComponentAtlas.Proofs.Workspace.Safety
import ComponentAtlas.Proofs.Workspace.RouteSearch
import ComponentAtlas.Proofs.Workspace.LazyRoutes
import ComponentAtlas.Proofs.Workspace.Accessors
import ComponentAtlas.Proofs.Workspace.Isolation
import ComponentAtlas.Proofs.Workspace.SelectorScope
import ComponentAtlas.Proofs.Analysis.PhaseOrder
import ComponentAtlas.Proofs.Roles.ModuleChecks
import ComponentAtlas.Proofs.Evaluation.FunctionScope
import ComponentAtlas.Proofs.Evaluation.DottedNames
import ComponentAtlas.Proofs.FileGraph.ModuleLinks
import ComponentAtlas.Proofs.Style.Balance
import ComponentAtlas.Proofs.Style.Bytewise
import ComponentAtlas.Proofs.Style.Offsets
import ComponentAtlas.Proofs.Style.Printing
import ComponentAtlas.Proofs.Style.ReadBack
import ComponentAtlas.Proofs.Text.Cutting
import ComponentAtlas.Proofs.Text.LowerCase
import ComponentAtlas.Proofs.Scope.Reordering
import ComponentAtlas.Proofs.Template.Rendering
import ComponentAtlas.Proofs.Template.Accounting
import ComponentAtlas.Proofs.Template.LiteralMode
import ComponentAtlas.Proofs.Script.Functions
import ComponentAtlas.Proofs.Evaluation.Arguments
import ComponentAtlas.Proofs.Evaluation.References
import ComponentAtlas.Proofs.Table.Keys
import ComponentAtlas.Proofs.FileGraph.Changes
import ComponentAtlas.Proofs.Path.Normal
import ComponentAtlas.Proofs.Path.Joining
import ComponentAtlas.Proofs.Program.Candidates
import ComponentAtlas.Proofs.Evaluation.Plan
import ComponentAtlas.Proofs.Evaluation.Counters
import ComponentAtlas.Proofs.Markup.RawText
import ComponentAtlas.Proofs.Provider.Flattening
import ComponentAtlas.Proofs.Program.Inheritance
import ComponentAtlas.Proofs.Roles.ConstructorDependencies
