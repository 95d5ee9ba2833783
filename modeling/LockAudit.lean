import LockAudit.Journal.Span
import LockAudit.Main
import LockAudit.Proofs.AnonymousClasses
import LockAudit.Proofs.CallViews
import LockAudit.Proofs.CheckedAudits
import LockAudit.Proofs.ContractBreaches
import LockAudit.Proofs.EncodedPrograms
import LockAudit.Proofs.IdleInstructions
import LockAudit.Proofs.InheritedFields
import LockAudit.Proofs.LaminarBlocks
import LockAudit.Proofs.LastingNumbers
import LockAudit.Proofs.NamedFields
import LockAudit.Proofs.NestedRegions
import LockAudit.Proofs.OpaqueCode
import LockAudit.Proofs.RearrangedPrograms
import LockAudit.Proofs.RegisterRuns
import LockAudit.Proofs.RenumberedProcedures
import LockAudit.Proofs.RepairedLocks
import LockAudit.Proofs.SignalFamilies
import LockAudit.Proofs.StepBounds
import LockAudit.Proofs.VisitingOrders
import LockAudit.Proofs.WidenedAudits
