import MachineProvisioning.Engine.Journal
import MachineProvisioning.Maas.Client
import MachineProvisioning.Resource.Definition
import MachineProvisioning.Settings
import MachineProvisioning.Telemetry.Exposition
import MachineProvisioning.Watch
import MachineProvisioning.Proofs.Causes
import MachineProvisioning.Proofs.Engine.Recording
import MachineProvisioning.Proofs.Engine.Resumption
import MachineProvisioning.Proofs.Engine.Signals
import MachineProvisioning.Proofs.Placement.Selection
import MachineProvisioning.Proofs.Store.Conflict
import MachineProvisioning.Proofs.Store.Settling
import MachineProvisioning.Proofs.World.Exclusion
import MachineProvisioning.Proofs.World.Tenure
import MachineProvisioning.Proofs.Engine.Releases
import MachineProvisioning.Proofs.World.Deployment
import MachineProvisioning.Proofs.World.Copies
import MachineProvisioning.Proofs.World.Finishing
import MachineProvisioning.Proofs.World.Identity
import MachineProvisioning.Proofs.World.Deletion
import MachineProvisioning.Proofs.StaticIp.Validation
import MachineProvisioning.Proofs.World.Backoff
import MachineProvisioning.Proofs.Store.Contention
import MachineProvisioning.Proofs.Engine.VettedPasses
import MachineProvisioning.Proofs.Engine.GivingBack
import MachineProvisioning.Proofs.World.Repetition
import MachineProvisioning.Proofs.Models
import MachineProvisioning.Proofs.StaticIp.Notations
import MachineProvisioning.Proofs.Region.Wires
import MachineProvisioning.Proofs.Engine.Adoption
import MachineProvisioning.Proofs.Engine.Transitions
import MachineProvisioning.Proofs.Maas.SystemId
import MachineProvisioning.Proofs.Engine.Counting
import MachineProvisioning.Proofs.Engine.Phases
import MachineProvisioning.Proofs.Maas.Targets
import MachineProvisioning.Proofs.Region.Allocation
import MachineProvisioning.Proofs.Region.Composing
