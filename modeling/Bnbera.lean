import Bnbera.Interleaving.Program
import Bnbera.Interleaving.Pool
import Bnbera.Errors
import Bnbera.Json
import Bnbera.Calls
import Bnbera.Operations.Context
import Bnbera.Operations.Evidence
import Bnbera.Browser.Claiming
import Bnbera.Coordinator.Recoverability
import Bnbera.Altana.Authority
import Bnbera.Altana.AuthoritySystem
import Bnbera.Altana.Digest
import Bnbera.Altana.Revocation
import Bnbera.Domain
import Bnbera.Interleaving.Serialized
import Bnbera.Jobs.Lifecycle
import Bnbera.Jobs.Alone
import Bnbera.Jobs.Immutable
import Bnbera.Jobs.EventLog
import Bnbera.Jobs.Histories
import Bnbera.Payments.Commits
import Bnbera.Payments.Challenges
import Bnbera.Payments.Delivery
import Bnbera.Payments.Frozen
import Bnbera.Payments.Settlement
import Bnbera.Publication.Steady
import Bnbera.Publication.Creates
import Bnbera.Reservations.Listing
import Bnbera.Reservations.Moves
import Bnbera.Reservations.Single
import Bnbera.Reservations.Terms
import Bnbera.Auth.Accounts
import Bnbera.Ingestion.Normalize
import Bnbera.Interleaving.Traces
import Bnbera.Auth.Ports
import Bnbera.Interleaving.Relying
import Bnbera.Patterns
import Bnbera.Creator.Unovertaken
import Bnbera.Creator.Wallets
import Bnbera.Registration.Grants
import Bnbera.Registration.Survival
import Bnbera.Bootstrap.Durable
import Bnbera.Scan.Exact
import Bnbera.HealthFactor.Exact
import Bnbera.Auth.Messages
import Bnbera.Ingestion.Replay
import Bnbera.Payments.Stability
import Bnbera.Receipts.Shadowing
import Bnbera.Evidence.Order
import Bnbera.JsonText.Canonical
import Bnbera.JsonText.Seller
import Bnbera.Publication.Identities
import Bnbera.Seller.Submission
import Bnbera.Publication.SdkOutcomes
import Bnbera.Ingestion.McpEvents
import Bnbera.Seller.JobList
import Bnbera.Ingestion.CategoryEvidence
import Bnbera.Seller.Offers
import Bnbera.Altana.Handoff
import Bnbera.Payments.Replay
import Bnbera.Publication.Fencing
import Bnbera.Coordinator.Continuity
import Bnbera.Altana.Gate
