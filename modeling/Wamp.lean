import Wamp.Broker
import Wamp.Client
import Wamp.Dealer
import Wamp.Dealer.Announcing
import Wamp.Dealer.Calling
import Wamp.Dealer.Registering
import Wamp.Double
import Wamp.Double.Scaling
import Wamp.Double.Shortest
import Wamp.Identifier
import Wamp.Journal
import Wamp.Json
import Wamp.Json.Compact
import Wamp.Json.Number
import Wamp.Json.Reader
import Wamp.Json5.Token
import Wamp.Json5.Tree
import Wamp.Message
import Wamp.Message.Kind
import Wamp.Message.Policy
import Wamp.Network
import Wamp.Outcome
import Wamp.Record.Field
import Wamp.Record.Message
import Wamp.Record.Snapshot
import Wamp.Registration
import Wamp.Registration.Announcement
import Wamp.Router
import Wamp.Session
import Wamp.Settings
import Wamp.Settings.File
import Wamp.Settings.Reader
import Wamp.Text.Numeral
import Wamp.Text.Quoted
import Wamp.Text.Surrogate
import Wamp.Unicode.Ranges
import Wamp.Unicode.Unprintable
import Wamp.Unicode.Word
import Wamp.Uri.Directory
import Wamp.Uri.Pattern
import Wamp.Uri.RadixTree
import Wamp.Workload
import Wamp.Proofs.Directory
import Wamp.Proofs.Run
import Wamp.Proofs.Broker.Run
import Wamp.Proofs.Broker.Sending
import Wamp.Proofs.Broker.Tables
import Wamp.Proofs.Broker.Attachment
import Wamp.Proofs.Broker.Identifiers
import Wamp.Proofs.Client
import Wamp.Proofs.Dealer.Announcing
import Wamp.Proofs.Dealer.Callees
import Wamp.Proofs.Dealer.Identities
import Wamp.Proofs.Dealer.InFlight
import Wamp.Proofs.Dealer.QuietRuns
import Wamp.Proofs.Dealer.Views
import Wamp.Proofs.Dealer.Lifetimes
import Wamp.Proofs.Dealer.Ledger
import Wamp.Proofs.Dealer.Undisturbed
import Wamp.Proofs.Broker.Followers
import Wamp.Proofs.Refusals
import Wamp.Proofs.Resolution
import Wamp.Proofs.Router.Run
import Wamp.Proofs.Router.Publishing
import Wamp.Proofs.Router.Components
import Wamp.Proofs.Strangers
import Wamp.Proofs.Router.Successors
import Wamp.Proofs.Router.Handling
import Wamp.Proofs.Network.Run
import Wamp.Proofs.Network.Agreement
import Wamp.Proofs.Dealer.Routes
import Wamp.Proofs.Network.Invocations
import Wamp.Proofs.FlatTable
import Wamp.Proofs.Precedence
import Wamp.Proofs.Dealer.Progress
import Wamp.Proofs.Dealer.Kills
import Wamp.Proofs.Router.Membership
import Wamp.Proofs.Dealer.Consumers
import Wamp.Proofs.Dealer.Replicas
import Wamp.Proofs.Router.Recipients
import Wamp.Proofs.Dealer.Turns
import Wamp.Proofs.Dealer.Chunks
import Wamp.Proofs.Dealer.FreshCalls
import Wamp.Proofs.Anonymity
import Wamp.Proofs.Router.Disclosure
import Wamp.Proofs.RadixTree.Canonical
import Wamp.Proofs.RadixTree.FiniteMap
import Wamp.Proofs.RadixTree.Layout
import Wamp.Proofs.Client.Correlation
import Wamp.Proofs.Client.Refusals
import Wamp.Proofs.Client.Answers
import Wamp.Proofs.Settings
import Wamp.Proofs.Dealer.Commuting
import Wamp.Proofs.Broker.Departure
import Wamp.Proofs.Dealer.Departure
import Wamp.Proofs.Departure
import Wamp.Proofs.Pattern
import Wamp.Proofs.Identifier
