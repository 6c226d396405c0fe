import MarkedTree.Action
import MarkedTree.Catalog
import MarkedTree.Declaration
import MarkedTree.Dispatch
import MarkedTree.Edited
import MarkedTree.Expr
import MarkedTree.Json.Forms
import MarkedTree.Json.Reader
import MarkedTree.Json.Record
import MarkedTree.Marker
import MarkedTree.Number
import MarkedTree.Replacement
import MarkedTree.Text
import MarkedTree.Proofs.Action.Relation
import MarkedTree.Proofs.Action.Uses
import MarkedTree.Proofs.ByteOrder
import MarkedTree.Proofs.Catalog.CycleSearch
import MarkedTree.Proofs.Catalog.DocumentText
import MarkedTree.Proofs.Catalog.Faults
import MarkedTree.Proofs.Catalog.Listing
import MarkedTree.Proofs.Catalog.Loading
import MarkedTree.Proofs.Catalog.Reachable
import MarkedTree.Proofs.Catalog.WellFormed
import MarkedTree.Proofs.Context
import MarkedTree.Proofs.Dispatch.Attribution
import MarkedTree.Proofs.Dispatch.Decision
import MarkedTree.Proofs.Dispatch.Memory
import MarkedTree.Proofs.Dispatch.Overlap
import MarkedTree.Proofs.Edited.Relation
import MarkedTree.Proofs.Edited.Slots
import MarkedTree.Proofs.Expr.Path
import MarkedTree.Proofs.Expr.Traversal
import MarkedTree.Proofs.Json.Grammar
import MarkedTree.Proofs.Json.Reading
import MarkedTree.Proofs.Json.Records
import MarkedTree.Proofs.Json.Scanning
import MarkedTree.Proofs.Json.Writing
import MarkedTree.Proofs.Members
import MarkedTree.Proofs.Replacement.Account
import MarkedTree.Proofs.Replacement.Asked
import MarkedTree.Proofs.Replacement.Elimination
import MarkedTree.Proofs.Replacement.Outermost
import MarkedTree.Proofs.Replacement.Retarget
import MarkedTree.Proofs.Replacement.Run
import MarkedTree.Proofs.Replacement.SideBySide
import MarkedTree.Proofs.Replacement.Slotwise
import MarkedTree.Proofs.Replacement.Stopping
import MarkedTree.Proofs.Replacement.Unplaced
import MarkedTree.Proofs.Unplaced
