import ClientRegistration.Filter.Script
import ClientRegistration.Product
import ClientRegistration.Session.Variants
import ClientRegistration.Proofs.AssignedFields
import ClientRegistration.Proofs.Binary64.ReadBack
import ClientRegistration.Proofs.Fields
import ClientRegistration.Proofs.Identity
import ClientRegistration.Proofs.Interpretation
import ClientRegistration.Proofs.Lifecycle
import ClientRegistration.Proofs.Lineage
import ClientRegistration.Proofs.Retry
import ClientRegistration.Proofs.Snapshots
import ClientRegistration.Proofs.Credentials
import ClientRegistration.Proofs.UpdateChain
import ClientRegistration.Proofs.Session.Alike
import ClientRegistration.Proofs.Session.Passing
import ClientRegistration.Proofs.Twins
import ClientRegistration.Proofs.Session.Course
import ClientRegistration.Proofs.Session.Turns
import ClientRegistration.Proofs.Concurrency
import ClientRegistration.Proofs.MergeLaws
import ClientRegistration.Proofs.Session.Akin
import ClientRegistration.Proofs.Discretion
import ClientRegistration.Proofs.Pipeline
import ClientRegistration.Proofs.Sendable
import ClientRegistration.Proofs.Normalization
import ClientRegistration.Proofs.Acceptance
import ClientRegistration.Proofs.CanonicalText
import ClientRegistration.Proofs.TextAndData
import ClientRegistration.Proofs.Binary64.Range
import ClientRegistration.Proofs.Settings
import ClientRegistration.Proofs.Pacing
import ClientRegistration.Proofs.Conversions
import ClientRegistration.Proofs.WritingModes
