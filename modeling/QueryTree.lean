import QueryTree.Main
import QueryTree.Proofs.Code.Balance
import QueryTree.Proofs.Code.Fragments
import QueryTree.Proofs.Code.Frame
import QueryTree.Proofs.Code.Lines
import QueryTree.Proofs.Code.Literal
import QueryTree.Proofs.Code.Number
import QueryTree.Proofs.Code.Quoting
import QueryTree.Proofs.Code.Skeleton
import QueryTree.Proofs.Code.Surface
import QueryTree.Proofs.Code.Term
import QueryTree.Proofs.CommandLine.Configuration
import QueryTree.Proofs.CommandLine.Lines
import QueryTree.Proofs.Compile.Admission
import QueryTree.Proofs.Compile.Balance
import QueryTree.Proofs.Compile.Blame
import QueryTree.Proofs.Compile.Confinement
import QueryTree.Proofs.Compile.Depth
import QueryTree.Proofs.Compile.Frame
import QueryTree.Proofs.Compile.Growth
import QueryTree.Proofs.Compile.Insight
import QueryTree.Proofs.Compile.Lines
import QueryTree.Proofs.Compile.Misfit
import QueryTree.Proofs.Compile.Node
import QueryTree.Proofs.Compile.Place
import QueryTree.Proofs.Compile.Report
import QueryTree.Proofs.Compile.Subject
import QueryTree.Proofs.Compile.Surface
import QueryTree.Proofs.Compile.Touched
import QueryTree.Proofs.Compile.Verdict
import QueryTree.Proofs.Config.Document
import QueryTree.Proofs.Config.Layers
import QueryTree.Proofs.Config.Spelling
import QueryTree.Proofs.Digest
import QueryTree.Proofs.Expression.Decoding
import QueryTree.Proofs.Expression.Default
import QueryTree.Proofs.Expression.Encoding
import QueryTree.Proofs.Expression.Fingerprint
import QueryTree.Proofs.Expression.Hosting
import QueryTree.Proofs.Expression.Induction
import QueryTree.Proofs.Expression.Outline
import QueryTree.Proofs.Expression.Spelling
import QueryTree.Proofs.Expression.Tags
import QueryTree.Proofs.Json.Layout
import QueryTree.Proofs.Json.Nesting
import QueryTree.Proofs.Json.Order
import QueryTree.Proofs.Json.Reading
import QueryTree.Proofs.Json.Scanning
import QueryTree.Proofs.Json.Storing
import QueryTree.Proofs.Json.Tokens
import QueryTree.Proofs.Meaning.Basic
import QueryTree.Proofs.Meaning.Compilation
import QueryTree.Proofs.Meaning.Correctness
import QueryTree.Proofs.Meaning.World
import QueryTree.Proofs.Operator.DaySpan
import QueryTree.Proofs.Operator.Shape
import QueryTree.Proofs.Result.Aggregation
import QueryTree.Proofs.SavedQuery.Default
import QueryTree.Proofs.SavedQuery.Header
import QueryTree.Proofs.SavedQuery.Import
import QueryTree.Proofs.SavedQuery.RoundTrip
import QueryTree.Proofs.SavedQuery.Subject
import QueryTree.Proofs.Schema.Description
import QueryTree.Proofs.Schema.Filling
import QueryTree.Proofs.Schema.NameMap
import QueryTree.Proofs.Schema.Order
import QueryTree.Proofs.Schema.Plain
import QueryTree.Proofs.Schema.References
import QueryTree.Proofs.Schema.Stored
import QueryTree.Proofs.Schema.Subtypes
import QueryTree.Proofs.Schema.Supertypes
