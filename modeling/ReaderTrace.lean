import ReaderTrace.Query
import ReaderTrace.Moment
import ReaderTrace.Proofs.Logging
import ReaderTrace.Proofs.Contract
import ReaderTrace.Proofs.Layer
import ReaderTrace.Proofs.Edits
import ReaderTrace.Proofs.Move
import ReaderTrace.Proofs.Course
import ReaderTrace.Proofs.Inventory
import ReaderTrace.Proofs.Representation
import ReaderTrace.Proofs.Frame
import ReaderTrace.Proofs.Toggle
import ReaderTrace.Proofs.BaseTable
import ReaderTrace.Proofs.Agreement
import ReaderTrace.Proofs.Unaware
import ReaderTrace.Proofs.Coupling
import ReaderTrace.Proofs.Lookup
import ReaderTrace.Proofs.Mirror.Calls
import ReaderTrace.Proofs.Mirror.Operations
import ReaderTrace.Proofs.Transparency
import ReaderTrace.Proofs.Reconciliation
import ReaderTrace.Proofs.Refusal
import ReaderTrace.Proofs.Removal
import ReaderTrace.Proofs.Rooted
import ReaderTrace.Proofs.Trail
import ReaderTrace.Proofs.Completeness
import ReaderTrace.Proofs.Plan
import ReaderTrace.Proofs.Steady
import ReaderTrace.Proofs.Grounds
import ReaderTrace.Proofs.Disposal
import ReaderTrace.Proofs.Presence
import ReaderTrace.Proofs.Relocation
import ReaderTrace.Proofs.Silence
import ReaderTrace.Proofs.Conservation
import ReaderTrace.Proofs.Numbering
import ReaderTrace.Proofs.Dialogue
import ReaderTrace.Proofs.Pairing
import ReaderTrace.Proofs.Announcement
import ReaderTrace.Proofs.Invocation
import ReaderTrace.Proofs.Finishing
import ReaderTrace.Proofs.Hexadecimal
import ReaderTrace.Proofs.Inscription
import ReaderTrace.Proofs.Transcript
import ReaderTrace.Proofs.Detachment
import ReaderTrace.Proofs.Forwarding
import ReaderTrace.Proofs.Construction
import ReaderTrace.Proofs.Outcome
import ReaderTrace.Proofs.Scope
import ReaderTrace.Proofs.Vacating
import ReaderTrace.Proofs.Parameters
import ReaderTrace.Proofs.Accessor
import ReaderTrace.Proofs.Loading
import ReaderTrace.Proofs.Settings
import ReaderTrace.Proofs.Delivery
import ReaderTrace.Proofs.Posting
import ReaderTrace.Proofs.Inquiry
import ReaderTrace.Proofs.Reading
import ReaderTrace.Proofs.Commands
import ReaderTrace.Proofs.Integral
import ReaderTrace.Proofs.Rendering
import ReaderTrace.Proofs.Readback
