import QuadClient.Connection.Refusing
import QuadClient.Cursor.Scripted
import QuadClient.Graph.Evaluate
import QuadClient.Graph.Update
import QuadClient.Main
import QuadClient.Proofs.Iri.Characters
import QuadClient.Proofs.Rdf.Characters
import QuadClient.Proofs.Statement.Slot
import QuadClient.Proofs.Statement.ReadBack
import QuadClient.Proofs.Store.Contents
import QuadClient.Proofs.Coding.RoundTrip
import QuadClient.Proofs.Store.History
import QuadClient.Proofs.Cursor.Delivery
import QuadClient.Proofs.Cursor.Account
import QuadClient.Proofs.Solution.Row
import QuadClient.Proofs.Graph.Write
import QuadClient.Proofs.Local.Queries
import QuadClient.Proofs.Graph.Read
import QuadClient.Proofs.Local.Durable
import QuadClient.Proofs.Graph.Durable
import QuadClient.Proofs.Graph.Run
import QuadClient.Proofs.Graph.Listing
import QuadClient.Proofs.Graph.OwnWrites
import QuadClient.Proofs.Graph.Removal
import QuadClient.Proofs.Local.Frame
import QuadClient.Proofs.Cursor.Frame
import QuadClient.Proofs.Graph.Frame
import QuadClient.Proofs.Local.Transactions
import QuadClient.Proofs.Graph.WholeWrite
import QuadClient.Proofs.Connection.Recorded
import QuadClient.Proofs.Graph.Batching
import QuadClient.Proofs.Graph.TransactionSteps
import QuadClient.Proofs.Graph.Staged
import QuadClient.Proofs.Graph.Profile
import QuadClient.Proofs.Graph.Transparency
import QuadClient.Proofs.Graph.WholeTransaction
import QuadClient.Proofs.Statement.Filling
import QuadClient.Proofs.Statement.Variables
import QuadClient.Proofs.Statement.Directives
import QuadClient.Proofs.Statement.InlineText
import QuadClient.Proofs.Graph.Course
import QuadClient.Proofs.Graph.Progress
import QuadClient.Proofs.Graph.Restoring
import QuadClient.Proofs.Graph.Protection
import QuadClient.Proofs.Graph.Adhoc
import QuadClient.Proofs.Graph.SingleWrite
import QuadClient.Proofs.Graph.Streams
import QuadClient.Proofs.Graph.Closed
import QuadClient.Proofs.Graph.Failures
import QuadClient.Proofs.Graph.Storable
import QuadClient.Proofs.Calendar.Timestamp
