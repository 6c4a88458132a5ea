import ResourcePaths.Text.Words
import ResourcePaths.Text.Reader
import ResourcePaths.Text.Quoted
import ResourcePaths.Text.Escaped
import ResourcePaths.Number.Integer
import ResourcePaths.Guid
import ResourcePaths.Calendar.Instant
import ResourcePaths.Calendar.Duration
import ResourcePaths.Literal.Parser
import ResourcePaths.Path.RawSegment
import ResourcePaths.Path.InPlace
import ResourcePaths.Json.Reader
import ResourcePaths.Json.Writer
import ResourcePaths.Json.Record
import ResourcePaths.Declared.Json
import ResourcePaths.Model.Name
import ResourcePaths.Model.Primitive
import ResourcePaths.Model.Constant
import ResourcePaths.Binding.Settings
import ResourcePaths.Model.Index
import ResourcePaths.Model.Structure
import ResourcePaths.Model.Annotation
import ResourcePaths.Session.Annotation
import ResourcePaths.Binding.Render
import ResourcePaths.Binding.Binder
import ResourcePaths.Proofs.Text.Reading
import ResourcePaths.Proofs.Path.SegmentGrammar
import ResourcePaths.Proofs.Outcome
import ResourcePaths.Proofs.Binding.Steps
import ResourcePaths.Proofs.Binding.Typing
import ResourcePaths.Proofs.Session.Transparency
import ResourcePaths.Proofs.Model.Lookup
import ResourcePaths.Proofs.Model.Reordering
import ResourcePaths.Proofs.Model.Resolution
import ResourcePaths.Proofs.Model.Validation
import ResourcePaths.Proofs.Text.Words
import ResourcePaths.Proofs.Model.Naming
import ResourcePaths.Proofs.Path.PlainChains
import ResourcePaths.Proofs.Model.Members
import ResourcePaths.Proofs.Model.Inheritance
import ResourcePaths.Proofs.Binding.Keys
import ResourcePaths.Proofs.Binding.Rendering
import ResourcePaths.Proofs.Binding.OwnNames
import ResourcePaths.Proofs.Binding.Rebinding
import ResourcePaths.Proofs.Binding.FirstFault
import ResourcePaths.Proofs.Model.Keys
import ResourcePaths.Proofs.Session.Growth
import ResourcePaths.Proofs.Session.Queries
import ResourcePaths.Proofs.Session.Dropped
import ResourcePaths.Proofs.Binding.FromSource
import ResourcePaths.Proofs.Binding.Reordering
import ResourcePaths.Proofs.Binding.BadTypes
import ResourcePaths.Proofs.Binding.ExactNames
import ResourcePaths.Proofs.Binding.Spelling
import ResourcePaths.Proofs.Model.Clashes
import ResourcePaths.Proofs.Model.FullNames
import ResourcePaths.Proofs.Json.Records
import ResourcePaths.Proofs.Declared.RoundTrip
import ResourcePaths.Proofs.Number.Words
import ResourcePaths.Proofs.Calendar.Writing
import ResourcePaths.Proofs.Calendar.Days
import ResourcePaths.Proofs.Guid
import ResourcePaths.Proofs.Literal.Reading
import ResourcePaths.Proofs.Literal.Printing
import ResourcePaths.Proofs.Literal.EnumMembers
import ResourcePaths.Proofs.Model.Bindings
import ResourcePaths.Proofs.Model.BindingPaths
import ResourcePaths.Proofs.Model.BindingSpelling
import ResourcePaths.Proofs.Binding.KeyValues
import ResourcePaths.Proofs.Model.ImportSets
import ResourcePaths.Proofs.Model.Imports
import ResourcePaths.Proofs.Binding.Imports
import ResourcePaths.Proofs.Path.Edits
import ResourcePaths.Proofs.Model.Ancestors
import ResourcePaths.Proofs.Model.Assignability
import ResourcePaths.Proofs.Binding.WiderSettings
import ResourcePaths.Proofs.Session.Bereft
import ResourcePaths.Proofs.Session.LateProblems
import ResourcePaths.Proofs.Model.BaseChains
import ResourcePaths.Proofs.Model.NearestProperty
import ResourcePaths.Proofs.Model.IndexOrder
import ResourcePaths.Proofs.Binding.KeyPredicates
import ResourcePaths.Proofs.Model.InheritedKeys
import ResourcePaths.Proofs.Path.TokenLists
import ResourcePaths.Proofs.Path.SegmentLists
import ResourcePaths.Proofs.Binding.UnknownSources
import ResourcePaths.Proofs.Binding.ElementTypes
import ResourcePaths.Proofs.Model.BinaryConstants
import ResourcePaths.Proofs.Number.Rounding
import ResourcePaths.Proofs.Number.Closeness
import ResourcePaths.Proofs.Calendar.Durations
import ResourcePaths.Proofs.Calendar.DurationGrammar
import ResourcePaths.Proofs.Model.MemberValues
import ResourcePaths.Proofs.Literal.Numbers
import ResourcePaths.Proofs.Literal.Constants
import ResourcePaths.Proofs.Number.Overflow
import ResourcePaths.Proofs.Literal.Decimals
import ResourcePaths.Proofs.Model.Placeholders
import ResourcePaths.Proofs.Binding.Candidates
import ResourcePaths.Proofs.Session.StoredReferences
