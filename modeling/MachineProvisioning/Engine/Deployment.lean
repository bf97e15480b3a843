import MachineProvisioning.Engine.Release

/-! # Deploying

The last steps of both modes: an allocated instance is deployed with the declared image, and a
deployed one is powered on.
-/

namespace MachineProvisioning.Engine

open Resource (Key Spec)
open Maas (Machine)

/-- Deploy an allocated instance. A rejected deployment keeps the instance, so that the next pass
    tries it again; a broken machine is recovered. -/
def deploy (options : Options) (key : Key) (spec : Spec) (systemId : String) : Pass Machine := do
  let params : Maas.DeployParams :=
    { distroSeries := some (spec.image.getD options.defaultDistroSeries)
      userData := spec.userData }
  match ← Pass.tryMaas (.deploy systemId params) with
  | .ok machine => pure machine
  | .error error =>
      match error with
      | .brokenMachine _ _ _ => failWith key ("deploy " ++ systemId) (some systemId) error
      | _ =>
          throw (ProvisioningFailure.new .vmDeploymentFailed
              ("deploy of instance " ++ systemId ++ " was rejected")
            |>.atHost systemId
            |>.causedBy (.maas error) : Failure)

def ensurePoweredOn (machine : Machine) : Pass Machine :=
  if Lifecycle.Power.ofText machine.powerState = .on then pure machine
  else Pass.maas ("power on " ++ machine.systemId) (.powerOn machine.systemId)

end MachineProvisioning.Engine
