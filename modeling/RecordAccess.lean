import RecordAccess.Access.Decision
import RecordAccess.Access.Operation
import RecordAccess.Filter.Builder
import RecordAccess.Proofs.Authorization
import RecordAccess.Proofs.BuiltFilters
import RecordAccess.Proofs.CanonicalColumns
import RecordAccess.Proofs.Coherence
import RecordAccess.Proofs.CommutingRefreshes
import RecordAccess.Proofs.ComparedValues
import RecordAccess.Proofs.Confidentiality
import RecordAccess.Proofs.Conflicts
import RecordAccess.Proofs.Effects
import RecordAccess.Proofs.Expiry
import RecordAccess.Proofs.FilterBodies
import RecordAccess.Proofs.InjectionSafety
import RecordAccess.Proofs.LateRefresh
import RecordAccess.Proofs.LostUpdate
import RecordAccess.Proofs.MoreRoles
import RecordAccess.Proofs.Noninterference
import RecordAccess.Proofs.NormalForms
import RecordAccess.Proofs.OvertakenRefresh
import RecordAccess.Proofs.Paging
import RecordAccess.Proofs.Patterns
import RecordAccess.Proofs.RebuiltFilters
import RecordAccess.Proofs.Rejections
import RecordAccess.Proofs.Representation
import RecordAccess.Proofs.RoleForms
import RecordAccess.Proofs.SharedKeys
import RecordAccess.Proofs.Snapshots
import RecordAccess.Proofs.Staleness
import RecordAccess.Proofs.Transparency
import RecordAccess.Proofs.UntrustedCache
import RecordAccess.Proofs.WellFormedFilters
import RecordAccess.Proofs.WrittenFilters
import RecordAccess.Service.Config
import RecordAccess.Service.Dispatch
import RecordAccess.Simulation.Description
import RecordAccess.Simulation.World
