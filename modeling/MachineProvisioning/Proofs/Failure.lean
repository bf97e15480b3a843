import MachineProvisioning.Failure

/-! # What failures say of the instance

A failure can say that the instance is released. Where it came from, what caused it and its details
do not matter for that, but for the one detail that marks a release.
-/

namespace MachineProvisioning

namespace ProvisioningFailure

variable (failure : ProvisioningFailure)

@[simp] theorem released_new (kind : ProvisioningKind) (action : String) :
    (new kind action).released = false := rfl

@[simp] theorem released_atHost (host : String) :
    (failure.atHost host).released = failure.released := by
  cases failure
  rfl

@[simp] theorem released_causedBy (cause : AnyError) :
    (failure.causedBy cause).released = failure.released := by
  cases failure
  rfl

theorem released_withDetail (name value : String) :
    (failure.withDetail name value).released = (name = releasedDetail || failure.released) := by
  cases failure with
  | mk kind action host cause details =>
      simp only [withDetail, released, ProvisioningFailure.details, Table.contains,
        Table.get?_insert]
      split <;> simp_all

end ProvisioningFailure

namespace Failure

@[simp] theorem released_provisioning (failure : ProvisioningFailure) :
    (provisioning failure).released = failure.released := rfl

/-- The failure says that the instance is released, and does not call another one broken. -/
def GivesUp (failure : Failure) (systemId : String) : Prop :=
  failure.released = true ∧ ∀ x, failure = .brokenInstance x → x = systemId

theorem givesUp_brokenInstance {x systemId : String} :
    (brokenInstance x).GivesUp systemId ↔ x = systemId := by
  simp [GivesUp, released]

theorem givesUp_instanceGone (x systemId : String) : (instanceGone x).GivesUp systemId := by
  simp [GivesUp, released]

theorem givesUp_provisioning {failure : ProvisioningFailure} (released : failure.released = true)
    (systemId : String) : (provisioning failure).GivesUp systemId := by
  simp [GivesUp, released]

theorem not_givesUp_of_not_released {failure : Failure} (kept : failure.released = false)
    (systemId : String) : ¬failure.GivesUp systemId := by
  simp [GivesUp, kept]

end Failure

end MachineProvisioning
