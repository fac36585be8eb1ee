import Switchboard.Main
import Switchboard.Registry.Operation
import Switchboard.Session.Service
import Switchboard.Proofs.Stream.Lines
import Switchboard.Proofs.Stream.Reassembly
import Switchboard.Proofs.Stream.Verdicts
import Switchboard.Proofs.Stream.Extraction
import Switchboard.Proofs.Connection.Transfer
import Switchboard.Proofs.Connection.Listening
import Switchboard.Proofs.Connection.Receiving
import Switchboard.Proofs.Connection.Policies
import Switchboard.Proofs.Registry.Index
import Switchboard.Proofs.Connection.Driving
import Switchboard.Proofs.Registry.Contributions
import Switchboard.Proofs.Registry.Incarnations
import Switchboard.Proofs.Registry.Ledger
import Switchboard.Proofs.Session.Serving
import Switchboard.Proofs.Text.Sequences
import Switchboard.Proofs.Text.RoundTrip
import Switchboard.Proofs.Text.Replacements
import Switchboard.Proofs.Wire.Answers
import Switchboard.Proofs.Connection.Answering
import Switchboard.Proofs.Registry.Exchange
import Switchboard.Proofs.Lifecycle.Walks
import Switchboard.Proofs.Registry.Accounts
import Switchboard.Proofs.Registry.Lifecycles
import Switchboard.Proofs.Registry.Queues
import Switchboard.Proofs.Registry.Works
import Switchboard.Proofs.Workload.Phases
import Switchboard.Proofs.Workload.Traffic
import Switchboard.Proofs.Workload.Rounds
import Switchboard.Proofs.Workload.Fairness
import Switchboard.Proofs.Workload.Reconciliation
import Switchboard.Proofs.Registry.Reopenings
import Switchboard.Proofs.Registry.Interleavings
import Switchboard.Proofs.Registry.PlainRegistry
import Switchboard.Proofs.Registry.Visits
import Switchboard.Proofs.Registry.Disturbances
import Switchboard.Proofs.Session.Courses
import Switchboard.Proofs.Session.Endings
import Switchboard.Proofs.Wire.Classification
import Switchboard.Proofs.Wire.Codec
import Switchboard.Proofs.Registry.Reclamations
import Switchboard.Proofs.Registry.Refusals
import Switchboard.Proofs.Registry.Distribution
import Switchboard.Proofs.Registry.Purges
import Switchboard.Proofs.Registry.Identities
import Switchboard.Proofs.Registry.Records
import Switchboard.Proofs.Workload.Exactness
import Switchboard.Proofs.Lifecycle.Paths
