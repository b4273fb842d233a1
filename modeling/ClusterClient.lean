import ClusterClient.Document.ExtendedJson
import ClusterClient.Scenario
import ClusterClient.Proofs.Keeping
import ClusterClient.Proofs.Quiet
import ClusterClient.Proofs.Course
import ClusterClient.Proofs.Retry
import ClusterClient.Proofs.Following
import ClusterClient.Proofs.Sending
import ClusterClient.Proofs.Effect
import ClusterClient.Proofs.History
import ClusterClient.Proofs.Holders
import ClusterClient.Proofs.Reachable
import ClusterClient.Proofs.Numbers
import ClusterClient.Proofs.Servers
import ClusterClient.Proofs.Choice
import ClusterClient.Proofs.Enumeration
import ClusterClient.Proofs.Actions
import ClusterClient.Proofs.Leases
import ClusterClient.Proofs.Loans
import ClusterClient.Proofs.Keys
import ClusterClient.Proofs.Allocation
import ClusterClient.Proofs.Chronicle
import ClusterClient.Proofs.Classification
import ClusterClient.Proofs.Balance
import ClusterClient.Proofs.Traffic
import ClusterClient.Proofs.Conservation
import ClusterClient.Proofs.Location
import ClusterClient.Proofs.Refusal
import ClusterClient.Proofs.Routing
import ClusterClient.Proofs.Reading
import ClusterClient.Proofs.Publication
import ClusterClient.Proofs.Belonging
import ClusterClient.Proofs.TransactionInserts
import ClusterClient.Proofs.Ending
import ClusterClient.Proofs.Alone
import ClusterClient.Proofs.Judgement
import ClusterClient.Proofs.Labels
import ClusterClient.Proofs.Ownership
import ClusterClient.Proofs.Support
import ClusterClient.Proofs.Wire
import ClusterClient.Proofs.Recycling
import ClusterClient.Proofs.SessionMachine
import ClusterClient.Proofs.Spreading
import ClusterClient.Proofs.LowerCase
import ClusterClient.Proofs.Addresses
import ClusterClient.Proofs.SelectionWait
import ClusterClient.Proofs.Preferences
