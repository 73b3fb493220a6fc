import Tenancy.Catalog
import Tenancy.CommandLine
import Tenancy.Config.Load
import Tenancy.Failure
import Tenancy.Identity.Static
import Tenancy.Main
import Tenancy.Pool.Yard
import Tenancy.Proofs.Catalog
import Tenancy.Proofs.CommandLine
import Tenancy.Proofs.Config
import Tenancy.Proofs.Desk.Act
import Tenancy.Proofs.Desk.Attempts
import Tenancy.Proofs.Desk.Borrowing
import Tenancy.Proofs.Desk.Configured
import Tenancy.Proofs.Desk.Connections
import Tenancy.Proofs.Desk.Gauges
import Tenancy.Proofs.Desk.Hall
import Tenancy.Proofs.Desk.Lease
import Tenancy.Proofs.Desk.Opening
import Tenancy.Proofs.Desk.Region
import Tenancy.Proofs.Desk.Registry
import Tenancy.Proofs.Desk.Routing
import Tenancy.Proofs.Desk.TrustedHosts
import Tenancy.Proofs.Passwords
import Tenancy.Proofs.Publication
import Tenancy.Proofs.Services
import Tenancy.Proofs.Settings
import Tenancy.Proofs.Snapshot
import Tenancy.Proofs.Tables
import Tenancy.Proofs.Timestamp
import Tenancy.Proofs.Yard.Capacity
import Tenancy.Proofs.Yard.Conservation
import Tenancy.Proofs.Yard.Counters
import Tenancy.Proofs.Yard.Drain
import Tenancy.Proofs.Yard.Isolation
import Tenancy.Proofs.Yard.Loans
import Tenancy.Proofs.Yard.Recency
import Tenancy.Proofs.Yard.Refusal
import Tenancy.Proofs.Yard.Reservation
import Tenancy.Proofs.Yard.Slots
import Tenancy.Rehearsal.Catalog
import Tenancy.Rehearsal.Pool
import Tenancy.Rehearsal.Tenants
import Tenancy.Retry
import Tenancy.Tenant.Desk
import Tenancy.Proofs.Yard.Trimming
import Tenancy.Proofs.Validation
import Tenancy.Proofs.Version
import Tenancy.Proofs.Duration
import Tenancy.Proofs.Desk.Retrying
import Tenancy.Proofs.Backoff
import Tenancy.Proofs.Config.Document
import Tenancy.Proofs.Identity.Grant
