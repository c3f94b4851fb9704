import Stencil.Engine.Session
import Stencil.Proofs.Escape.Soundness
import Stencil.Proofs.Inheritance.Cycles
import Stencil.Proofs.Inheritance.Deferral
import Stencil.Proofs.Inheritance.Resolution
import Stencil.Proofs.Render.Places
import Stencil.Proofs.Engine.Provenance
import Stencil.Proofs.Engine.Uncached
import Stencil.Proofs.Engine.Caching
import Stencil.Proofs.Render.Transparency
import Stencil.Proofs.Engine.Transparency
import Stencil.Proofs.Source.TopLevel
import Stencil.Proofs.Expr.Words
import Stencil.Proofs.Expr.Spelling
import Stencil.Proofs.Expr.Balanced
import Stencil.Proofs.Expr.Reads
import Stencil.Proofs.Expr.Extent
import Stencil.Proofs.Expr.Chain
import Stencil.Proofs.Token.OutputTag
import Stencil.Proofs.Engine.Printing
import Stencil.Proofs.Engine.Circles
import Stencil.Proofs.Token.Traversal
import Stencil.Proofs.Render.Bindings
import Stencil.Proofs.Render.Nesting
import Stencil.Proofs.Expr.Recognition
import Stencil.Proofs.Source.Scanning
import Stencil.Proofs.Engine.Verbatim
import Stencil.Proofs.Node.Stripping
import Stencil.Proofs.Engine.Kept
import Stencil.Proofs.Escape.SafeFilters
import Stencil.Proofs.Escape.Entities
import Stencil.Proofs.Escape.ScriptLiteral
import Stencil.Proofs.Render.Lookup
import Stencil.Proofs.Token.Scoping
import Stencil.Proofs.Render.Turns
import Stencil.Proofs.Render.Standalone
import Stencil.Proofs.Expr.Pieces
import Stencil.Proofs.Inheritance.Naming
import Stencil.Proofs.Engine.Checked
import Stencil.Proofs.Location.Joining
import Stencil.Proofs.Text.Markup
import Stencil.Proofs.Calendar.Offset
import Stencil.Proofs.Engine.Complaints
import Stencil.Proofs.Engine.Resolved
import Stencil.Proofs.Source.Cutting
