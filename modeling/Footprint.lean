import Footprint.Filter
import Footprint.Main
import Footprint.Proofs.Command.Failure
import Footprint.Proofs.Filter.Agreement
import Footprint.Proofs.Filter.Deletion
import Footprint.Proofs.Filter.Grammar
import Footprint.Proofs.Filter.Operand
import Footprint.Proofs.Filter.Quotation
import Footprint.Proofs.Filter.Requirement
import Footprint.Proofs.Filter.Selection
import Footprint.Proofs.Log.Configuration
import Footprint.Proofs.Log.Record
import Footprint.Proofs.Number.Numeral
import Footprint.Proofs.Race.Merge
import Footprint.Proofs.Race.Removal
import Footprint.Proofs.Race.Safety
import Footprint.Proofs.Session.Scope
import Footprint.Proofs.Sql.Condition
import Footprint.Proofs.Sql.Equation
import Footprint.Proofs.Sql.Lexing
import Footprint.Proofs.Sql.Nesting
import Footprint.Proofs.Sql.Parsing
import Footprint.Proofs.Store.Gathering
import Footprint.Proofs.Store.Schema
import Footprint.Proofs.Validation.Repetition
import Footprint.Proofs.Workspace.Bootstrap
import Footprint.Proofs.Workspace.Boundary
import Footprint.Proofs.Workspace.Call
import Footprint.Proofs.Workspace.Failure
import Footprint.Proofs.Workspace.Handles
import Footprint.Proofs.Workspace.History
import Footprint.Proofs.Workspace.Identity
import Footprint.Proofs.Workspace.Insertion
import Footprint.Proofs.Workspace.Invariant
import Footprint.Proofs.Workspace.Isolation
import Footprint.Proofs.Workspace.Location
import Footprint.Proofs.Workspace.Lookup
import Footprint.Proofs.Workspace.Name
import Footprint.Proofs.Workspace.Order
import Footprint.Proofs.Workspace.Misfit
import Footprint.Proofs.Workspace.Parents
import Footprint.Proofs.Workspace.Reachable
import Footprint.Proofs.Workspace.Readback
import Footprint.Proofs.Workspace.Rebuild
import Footprint.Proofs.Workspace.Reopen
import Footprint.Proofs.Workspace.Report
import Footprint.Proofs.Workspace.Schema
import Footprint.Proofs.Workspace.Scope
import Footprint.Proofs.Workspace.Transaction
import Footprint.Proofs.Workspace.Update
