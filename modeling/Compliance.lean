import Compliance.Agent.Scan
import Compliance.Api.Routes
import Compliance.Playbook.Document
import Compliance.Playbook.Record
import Compliance.Playbook.Standard
import Compliance.Settings.Webhook
import Compliance.Proofs.Traversal
import Compliance.Proofs.Visits
import Compliance.Proofs.Timeline
import Compliance.Proofs.Turns
import Compliance.Proofs.Watched
import Compliance.Proofs.Passing
import Compliance.Proofs.Isolation
import Compliance.Proofs.Interruption
import Compliance.Proofs.Echo
import Compliance.Proofs.Independence
import Compliance.Proofs.Operations
import Compliance.Proofs.Chronology
import Compliance.Proofs.Rereading
import Compliance.Proofs.Refusals
import Compliance.Proofs.Agreement
import Compliance.Proofs.Footprint
import Compliance.Proofs.Lifecycle
import Compliance.Proofs.Deadline
import Compliance.Proofs.Delivery
import Compliance.Proofs.Links
import Compliance.Proofs.Locality
import Compliance.Proofs.StepLimit
import Compliance.Proofs.Race
import Compliance.Proofs.Answers
import Compliance.Proofs.Registration
import Compliance.Proofs.Switching
import Compliance.Proofs.Catalogue
import Compliance.Proofs.Substitution
import Compliance.Proofs.Rearrangement
import Compliance.Proofs.Amendment
import Compliance.Proofs.Provenance
import Compliance.Proofs.Cancellation
import Compliance.Proofs.Membership
import Compliance.Proofs.Namesakes
import Compliance.Proofs.Equivalence
import Compliance.Proofs.Comparison
import Compliance.Proofs.Loading
import Compliance.Proofs.Branching
import Compliance.Proofs.Decimals
import Compliance.Proofs.Records
import Compliance.Proofs.Enrolment
import Compliance.Proofs.Interchange
import Compliance.Proofs.Linkage
import Compliance.Proofs.Serviceable
import Compliance.Proofs.Census
import Compliance.Proofs.Spelling
