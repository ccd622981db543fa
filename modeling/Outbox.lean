import Outbox.Broker.Session
import Outbox.Buffer.Session
import Outbox.Counters.Session
import Outbox.Fleet.Report
import Outbox.Hook.Session
import Outbox.Retry.Session
import Outbox.Settings.Source
import Outbox.Proofs.Agreement
import Outbox.Proofs.Batches
import Outbox.Proofs.Contract
import Outbox.Proofs.Early
import Outbox.Proofs.Identity
import Outbox.Proofs.InProgress
import Outbox.Proofs.Inert
import Outbox.Proofs.Interval
import Outbox.Proofs.Leftover
import Outbox.Proofs.Ownership
import Outbox.Proofs.Pressure
import Outbox.Proofs.Reentry
import Outbox.Proofs.Register
import Outbox.Proofs.Renewal
import Outbox.Proofs.Settlement
import Outbox.Proofs.Stranded
import Outbox.Proofs.Threshold
import Outbox.Proofs.Trials
