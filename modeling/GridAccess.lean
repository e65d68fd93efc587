import GridAccess.Catalogue.Inventory
import GridAccess.Exchange.Access
import GridAccess.Exchange.Name
import GridAccess.Exchange.Storage
import GridAccess.Selection.Delete
import GridAccess.Selection.Read
import GridAccess.Selection.Write
import GridAccess.Settings.Load
import GridAccess.Storage.Derived
import GridAccess.Text.Quoted
import GridAccess.Ticket.VerifyToken
import GridAccess.Proofs.Access.Policy
import GridAccess.Proofs.Catalogue.History
import GridAccess.Proofs.Catalogue.Ranking
import GridAccess.Proofs.Envelope.Agreement
import GridAccess.Proofs.Envelope.Document
import GridAccess.Proofs.Name.Tree
import GridAccess.Proofs.Selection.Archive
import GridAccess.Proofs.Selection.Creating
import GridAccess.Proofs.Selection.Deleting
import GridAccess.Proofs.Selection.Expiry
import GridAccess.Proofs.Selection.Granting
import GridAccess.Proofs.Selection.Quality
import GridAccess.Proofs.Selection.Reading
import GridAccess.Proofs.Selection.Totals
import GridAccess.Proofs.Selection.Writing
import GridAccess.Proofs.Storage.Endpoint
import GridAccess.Proofs.Ticket.Binding
import GridAccess.Proofs.Ticket.Crossing
import GridAccess.Proofs.Ticket.ElementSigned
import GridAccess.Proofs.Ticket.Form
import GridAccess.Proofs.Ticket.Scope
import GridAccess.Proofs.Ticket.Unsealing
import GridAccess.Proofs.Ticket.Validity
import GridAccess.Proofs.Identity.Guid
import GridAccess.Proofs.Storage.Placement
import GridAccess.Proofs.Ticket.NewReplica
import GridAccess.Proofs.Text.Percent
import GridAccess.Proofs.Envelope.Grammar
import GridAccess.Proofs.Storage.Link
import GridAccess.Proofs.Envelope.Assignment
import GridAccess.Proofs.Text.Delimiters
