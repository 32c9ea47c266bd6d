import CsgPreview.Arith.Basic
import CsgPreview.Arith.Remainder
import CsgPreview.Cache.Lru
import CsgPreview.Cache.Tessellation
import CsgPreview.Cli.Arguments
import CsgPreview.Cli.Console
import CsgPreview.Cli.Program
import CsgPreview.Cli.Report
import CsgPreview.Cli.Runner
import CsgPreview.Config.Basic
import CsgPreview.Config.Load
import CsgPreview.Csg.Chain
import CsgPreview.Csg.Evaluate
import CsgPreview.Csg.Normalize
import CsgPreview.Csg.Rewrite
import CsgPreview.Csg.Term
import CsgPreview.Decimal.Fixed
import CsgPreview.Decimal.Plain
import CsgPreview.Decimal.Read
import CsgPreview.Decimal.Shortest
import CsgPreview.Digest.Sha256
import CsgPreview.Error
import CsgPreview.Files.Path
import CsgPreview.Files.Store
import CsgPreview.Geometry.Boolean
import CsgPreview.Geometry.Box
import CsgPreview.Geometry.Matrix
import CsgPreview.Geometry.Mesh
import CsgPreview.Geometry.Outline
import CsgPreview.Geometry.Primitive
import CsgPreview.Geometry.Shape
import CsgPreview.Geometry.Tessellate
import CsgPreview.Log
import CsgPreview.Main
import CsgPreview.Pipeline.Coordinator
import CsgPreview.Pipeline.Document
import CsgPreview.Pipeline.Progress
import CsgPreview.Pipeline.Render
import CsgPreview.Pipeline.Scheduler
import CsgPreview.Pipeline.Tracker
import CsgPreview.Proofs.Arith.FloatOrder
import CsgPreview.Proofs.Cache.Entries
import CsgPreview.Proofs.Csg.Denote
import CsgPreview.Proofs.Csg.Flatten
import CsgPreview.Proofs.Csg.Meaning
import CsgPreview.Proofs.Csg.NormalForm
import CsgPreview.Proofs.Csg.PassRelation
import CsgPreview.Proofs.Csg.Provenance
import CsgPreview.Proofs.Csg.Routing
import CsgPreview.Proofs.Csg.WalkSteps
import CsgPreview.Proofs.Geometry.BoxPoints
import CsgPreview.Proofs.Pipeline.ExactRender
import CsgPreview.Proofs.Pipeline.Generation
import CsgPreview.Proofs.Pipeline.Keeps
import CsgPreview.Proofs.Pipeline.Overlays
import CsgPreview.Proofs.Pipeline.Quiescent
import CsgPreview.Proofs.Scene.Solid
import CsgPreview.Scene.Builtins
import CsgPreview.Scene.Color
import CsgPreview.Scene.Instantiate
import CsgPreview.Scene.Node
import CsgPreview.Scene.Tree
import CsgPreview.Script.Functions
import CsgPreview.Script.Grammar.Basic
import CsgPreview.Script.Grammar.Document
import CsgPreview.Script.Grammar.Expression
import CsgPreview.Script.Grammar.Lexeme
import CsgPreview.Script.Load
import CsgPreview.Script.Scope
import CsgPreview.Script.Syntax
import CsgPreview.Script.Value
import CsgPreview.Text.Blank
import CsgPreview.Text.GraphemeExtend
import CsgPreview.Text.Printable
import CsgPreview.Text.Quoted
import CsgPreview.Toml.Parse
import CsgPreview.Toml.Report
import CsgPreview.Toml.Value
import CsgPreview.Proofs.Cache.Recency
import CsgPreview.Proofs.Pipeline.AutoReload
import CsgPreview.Proofs.Scene.DumpLine
import CsgPreview.Proofs.Scene.SubtreeKeys
import CsgPreview.Proofs.Pipeline.ExactKeys
import CsgPreview.Proofs.Cache.Faithful
import CsgPreview.Proofs.Geometry.MeshIndices
import CsgPreview.Proofs.Csg.CacheTransparent
import CsgPreview.Proofs.Pipeline.FaithfulCaches
import CsgPreview.Proofs.Csg.Budget
import CsgPreview.Proofs.Scene.Arena
import CsgPreview.Proofs.Pipeline.PreviewTransparent
import CsgPreview.Proofs.Scene.EffectiveRoot
import CsgPreview.Proofs.Scene.RecursionBound
import CsgPreview.Proofs.Scene.HexNotation
import CsgPreview.Proofs.Script.Range
import CsgPreview.Proofs.Files.PathOrder
import CsgPreview.Proofs.Script.Includes
import CsgPreview.Proofs.Csg.Representation
import CsgPreview.Proofs.Csg.PreviewTerm
import CsgPreview.Proofs.Csg.PreviewSets
import CsgPreview.Proofs.Pipeline.PreviewExact
