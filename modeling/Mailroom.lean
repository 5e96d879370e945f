import Mailroom.Interrupt
import Mailroom.Session.Crowd
import Mailroom.Session.Single
import Mailroom.Version
import Mailroom.Proofs.Lanes
import Mailroom.Proofs.Reference
import Mailroom.Proofs.Course
import Mailroom.Proofs.Traffic
import Mailroom.Proofs.Ledger
import Mailroom.Proofs.Custody
import Mailroom.Proofs.Delivery
import Mailroom.Proofs.Outcome
import Mailroom.Proofs.Exit
import Mailroom.Proofs.Order
import Mailroom.Proofs.Suspension
import Mailroom.Proofs.Waiting
import Mailroom.Proofs.Report
import Mailroom.Proofs.Processor
import Mailroom.Proofs.Waking
import Mailroom.Proofs.Debt
import Mailroom.Proofs.Journal
import Mailroom.Proofs.Lifecycle
import Mailroom.Proofs.Collection
import Mailroom.Proofs.Alarms
import Mailroom.Proofs.Handles
import Mailroom.Proofs.DefaultCalls
import Mailroom.Proofs.Alone
import Mailroom.Proofs.Likeness
import Mailroom.Proofs.Draining
import Mailroom.Proofs.Stepping
import Mailroom.Proofs.Arrival
import Mailroom.Proofs.Emptying
import Mailroom.Proofs.Rundown
import Mailroom.Proofs.Fatal
import Mailroom.Proofs.Nesting
import Mailroom.Proofs.Panic
import Mailroom.Proofs.Causes
import Mailroom.Proofs.Calls
import Mailroom.Proofs.Refused
import Mailroom.Proofs.Taking
import Mailroom.Proofs.Hearing
import Mailroom.Proofs.ErrorKinds
import Mailroom.Proofs.Templates
import Mailroom.Proofs.Sweeping
import Mailroom.Proofs.LowestYield
import Mailroom.Proofs.Renderings
import Mailroom.Proofs.Keys
import Mailroom.Proofs.Confinement
