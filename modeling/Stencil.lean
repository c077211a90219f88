import Stencil.Proofs.Script.BlockReader
import Stencil.Proofs.Script.BoundNames
import Stencil.Proofs.Script.DeclaredNames
import Stencil.Proofs.Script.DeepLines
import Stencil.Proofs.Script.InsertedText
import Stencil.Proofs.Script.LexemeBound
import Stencil.Proofs.Script.LoneLine
import Stencil.Proofs.Script.NameResolution
import Stencil.Proofs.Script.NameTables
import Stencil.Proofs.Script.ProgramReads
import Stencil.Proofs.Script.ScopeGrowth
import Stencil.Proofs.Script.StatementReader
import Stencil.Proofs.Script.WidenedReading
import Stencil.Proofs.Script.WidenedScopes
import Stencil.Proofs.Source.BindingScope
import Stencil.Proofs.Source.BodyLines
import Stencil.Proofs.Source.BodyPlaces
import Stencil.Proofs.Source.BoundProgram
import Stencil.Proofs.Source.Classification
import Stencil.Proofs.Source.CodeLine
import Stencil.Proofs.Source.ExpressionValue
import Stencil.Proofs.Source.Fragments
import Stencil.Proofs.Source.InsertedLiteral
import Stencil.Proofs.Source.Layout
import Stencil.Proofs.Source.LiteralEncoding
import Stencil.Proofs.Source.PrintedBlocks
import Stencil.Proofs.Source.ProgramShape
import Stencil.Proofs.Source.RenderFunction
import Stencil.Proofs.Source.Requests
import Stencil.Proofs.Source.TrailingComment
import Stencil.Proofs.Template.AssembledProgram
import Stencil.Proofs.Template.FaultReport
import Stencil.Proofs.Template.HeaderBody
import Stencil.Proofs.Template.InsertedLiteral
import Stencil.Proofs.Template.KeywordContext
import Stencil.Proofs.Template.LineEnds
import Stencil.Proofs.Template.LiteralRoundTrip
import Stencil.Proofs.Template.Seam
import Stencil.Proofs.Template.SingleFunction
import Stencil.Proofs.Template.TokenContents
import Stencil.Proofs.Template.UntouchedContext
import Stencil.Proofs.Tree.Session
import Stencil.Template.Outcome
import Stencil.Template.Rendering
