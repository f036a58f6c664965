import ServiceRecords.Health
import ServiceRecords.Main
import ServiceRecords.Proofs.Concurrent.Convergence
import ServiceRecords.Proofs.Concurrent.ForeignData
import ServiceRecords.Proofs.Concurrent.LiveEntries
import ServiceRecords.Proofs.Concurrent.Namespaces
import ServiceRecords.Proofs.Concurrent.Remembrance
import ServiceRecords.Proofs.Concurrent.Stabilization
import ServiceRecords.Proofs.Queue.Delivery
import ServiceRecords.Proofs.Queue.Wakeups
import ServiceRecords.Proofs.Reconcile.Clearance
import ServiceRecords.Proofs.Reconcile.Independence
import ServiceRecords.Proofs.Reconcile.Repetition
import ServiceRecords.Proofs.Reconcile.Steadiness
import ServiceRecords.Proofs.Record.Differences
import ServiceRecords.Proofs.Record.Mirroring
import ServiceRecords.Proofs.Record.Presentation
import ServiceRecords.Proofs.Schema.Admission
import ServiceRecords.Proofs.Service.Specification
import ServiceRecords.Proofs.Simulation.Readiness
import ServiceRecords.Proofs.Watch.Announcement
import ServiceRecords.Proofs.Watch.Moves
import ServiceRecords.Proofs.Worker.Retries
import ServiceRecords.Proofs.Worker.Shutdown
import ServiceRecords.Schema.Definition
import ServiceRecords.Simulation.Controller
import ServiceRecords.Simulation.Desk
import ServiceRecords.Proofs.Dns.Respelling
import ServiceRecords.Proofs.Config.Endpoints
import ServiceRecords.Proofs.Worker.Numbering
import ServiceRecords.Proofs.Concurrent.Pacing
