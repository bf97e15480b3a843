import MachineProvisioning.Engine.Virtual
import MachineProvisioning.Proofs.Engine.Passes
import MachineProvisioning.Proofs.Failure

/-! # Tending to an instance

Most steps of a pass look at one instance and change how it is configured, whatever MAAS answers.
`Tends` says which requests that takes. None of them allocates, composes or releases a machine, and
none touches what is recorded; no failure of such a step says that the instance is released.
-/

namespace MachineProvisioning

/-- The instance that a call configures. -/
def Maas.Call.configures? : Maas.Call → Option String
  | .setSwapSize systemId _ | .setHostname systemId _ | .deploy systemId _ | .powerOn systemId
  | .linkSubnet systemId _ _ | .unlinkSubnet systemId _ _ | .bindBootInterface systemId _
  | .createBridge systemId _ | .assignTag _ systemId => some systemId
  | _ => none

namespace Engine

open Resource (Key Spec StaticIpSpec BridgeSpec)
open StaticIp (Declaration Target)
open Maas (Interface Link Machine)

/-- What tending to an instance asks for. Its hostname is set to the given one only. -/
def Tends (systemId hostname : String) : Effect → Prop
  | .maas (.getMachine x) | .maas (.listInterfaces x) | .maas (.getInterface x _) => x = systemId
  | .maas (.setHostname x name) => x = systemId ∧ name = hostname
  | .maas (.setSwapSize x _) | .maas (.deploy x _) | .maas (.powerOn x) | .maas (.linkSubnet x _ _)
  | .maas (.unlinkSubnet x _ _) | .maas (.bindBootInterface x _) | .maas (.createBridge x _)
  | .maas (.assignTag _ x) => x = systemId
  | .maas (.getIpAddress _) | .maas (.releaseIpAddress _ _) | .maas (.createTag _)
  | .store (.listStaticIps _) => True
  | _ => False

/-- What wiring an instance asks for. -/
def Wires (systemId : String) : Effect → Prop
  | .maas (.getMachine x) | .maas (.listInterfaces x) | .maas (.getInterface x _)
  | .maas (.linkSubnet x _ _) | .maas (.unlinkSubnet x _ _) | .maas (.bindBootInterface x _)
  | .maas (.createBridge x _) => x = systemId
  | .maas (.getIpAddress _) | .maas (.releaseIpAddress _ _) | .store (.listStaticIps _) => True
  | _ => False

theorem Wires.tends {systemId hostname : String} {effect : Effect} (wires : Wires systemId effect) :
    Tends systemId hostname effect := by
  unfold Wires at wires
  split at wires
  all_goals first | exact wires | cases wires

theorem spares_checkConflict {kind : Effect → Prop} {key : Key} {address : Net.Address}
    (h : kind (.store (.listStaticIps key.namespace_))) :
    (checkConflict key address).Spares kind := by
  refine Pass.Spares.bind (Pass.spares_tryStore h) fun reply => ?_
  cases reply with
  | error failure => exact Pass.spares_pure ()
  | ok peers =>
      cases found : conflictingPeer key address peers with
      | none => simp only [found]; exact Pass.spares_pure ()
      | some name => simp only [found]; exact Pass.spares_throw rfl

theorem spares_validated {kind : Effect → Prop} {key : Key} {spec : StaticIpSpec}
    (h : kind (.store (.listStaticIps key.namespace_))) : (validated key spec).Spares kind := by
  unfold validated
  cases StaticIp.validate spec with
  | error fault => exact Pass.spares_throw rfl
  | ok ip => exact (spares_checkConflict h).bind fun _ => Pass.spares_pure ip

variable {systemId : String}

theorem spares_changeNetwork {kind : Effect → Prop} {action : String} {call : Maas.Call}
    (h : kind (.maas call)) : (changeNetwork systemId action call).Spares kind := by
  refine Pass.Spares.bind (Pass.spares_tryMaas h) fun reply => ?_
  cases reply with
  | ok value => exact Pass.spares_pure value
  | error error => exact Pass.spares_throw rfl

theorem spares_releaseStaleAddress (ip : Declaration) :
    (releaseStaleAddress ip).Spares (Wires systemId) := by
  refine Pass.Spares.bind (Pass.spares_maas trivial) fun found => ?_
  cases found with
  | none => exact Pass.spares_pure ()
  | some allocation =>
      simp only
      split
      · refine Pass.Spares.bind (Pass.spares_tryMaas trivial) fun reply => ?_
        split
        · exact Pass.spares_pure ()
        · exact Pass.spares_pure ()
        · exact Pass.spares_throw rfl
      · exact Pass.spares_pure ()

theorem spares_unlinkAll (iface : Interface) (action : Link → String) (links : List Link) :
    (unlinkAll systemId iface action links).Spares (Wires systemId) := by
  induction links with
  | nil => exact Pass.spares_pure ()
  | cons link rest ih => exact Pass.Spares.bind (.discard (spares_changeNetwork rfl)) fun _ => ih

theorem spares_bindAddress (interfaces : List Interface) (ip : Declaration) (target : Target) :
    (bindAddress systemId interfaces ip target).Spares (Wires systemId) := by
  refine Pass.Spares.bind (spares_releaseStaleAddress ip) fun _ => ?_
  cases target with
  | interface iface =>
      exact Pass.Spares.bind (spares_unlinkAll iface _ _) fun _ => .discard (spares_changeNetwork rfl)
  | boot => exact .discard (spares_changeNetwork rfl)

theorem released_of_selectTarget {interfaces : List Interface} {bootId : Option UInt64}
    {ip : Declaration} {failure : ProvisioningFailure}
    (refused : StaticIp.selectTarget interfaces bootId ip = .error failure) :
    failure.released = false := by
  unfold StaticIp.selectTarget at refused
  repeat' split at refused
  all_goals cases refused
  rfl

theorem spares_applyStaticIp (key : Key) (spec : StaticIpSpec) :
    (applyStaticIp key systemId spec).Spares (Wires systemId) := by
  unfold applyStaticIp
  refine Pass.Spares.bind (spares_validated trivial) fun ip => ?_
  refine Pass.Spares.bind (Pass.spares_maas rfl) fun machine => ?_
  extract_lets state bind
  have binds : (bind ()).Spares (Wires systemId) := by
    refine Pass.Spares.bind (Pass.spares_maas rfl) fun interfaces => ?_
    split
    · split
      · exact Pass.spares_pure ()
      · exact Pass.spares_throw rfl
    · split
      · next refused =>
          exact Pass.spares_throw (by simp [released_of_selectTarget refused])
      · extract_lets bound
        split
        · exact Pass.spares_pure ()
        · exact spares_bindAddress _ _ _
  split
  · exact Pass.Spares.bind (Pass.spares_throw rfl) fun _ => binds
  · exact binds

theorem spares_withSubnets (name : String) (listed : Interface) :
    (withSubnets systemId name listed).Spares (Wires systemId) := by
  unfold withSubnets
  split
  · exact Pass.spares_maas rfl
  · exact Pass.spares_pure listed

theorem spares_ensureNetwork (interfaces : List Interface) (name network : String) :
    (ensureNetwork systemId interfaces name network).Spares (Wires systemId) := by
  unfold ensureNetwork
  split
  · exact Pass.spares_throw rfl
  · refine Pass.Spares.bind (spares_withSubnets name _) fun iface => ?_
    split
    · exact Pass.spares_pure ()
    · exact Pass.Spares.bind (spares_unlinkAll iface _ _) fun _ => .discard (spares_changeNetwork rfl)

theorem spares_verifyNetwork (networks : List String) :
    (verifyNetwork systemId networks).Spares (Wires systemId) := by
  unfold verifyNetwork
  split
  · refine Pass.Spares.bind (Pass.spares_maas rfl) fun machine => ?_
    extract_lets state verify
    have verifies : (verify ()).Spares (Wires systemId) := by
      refine Pass.Spares.bind (Pass.spares_maas rfl) fun interfaces => ?_
      exact Pass.Spares.bind (spares_ensureNetwork _ _ _) fun _ => spares_ensureNetwork _ _ _
    split
    · exact Pass.Spares.bind (Pass.spares_throw rfl) fun _ => verifies
    · exact verifies
  · exact Pass.spares_pure ()

theorem spares_ensureBridge (bridge : BridgeSpec) :
    (ensureBridge systemId bridge).Spares (Wires systemId) := by
  refine Pass.Spares.bind (Pass.spares_maas rfl) fun interfaces => ?_
  split
  · exact Pass.spares_pure ()
  · exact .discard (spares_changeNetwork rfl)

variable {hostname : String}

theorem spares_ensureNoSwap (machine : Machine) :
    (ensureNoSwap machine).Spares (Tends machine.systemId hostname) := by
  unfold ensureNoSwap
  split
  · exact Pass.spares_pure ()
  · exact .discard (Pass.spares_maas rfl)

/-- Tagging gives the machine back with more tags and nothing else changed. -/
theorem ensureTags_ensures {σ : Type} {P : Discipline σ} {invariant : σ → Prop} {kind : Effect → Prop}
    {s : σ} (machine : Machine) (tags : List String) (tolerates : P.Tolerates invariant kind)
    (creates : ∀ tag, kind (.maas (.createTag tag)))
    (assigns : ∀ tag, kind (.maas (.assignTag tag machine.systemId))) (start : invariant s) :
    (ensureTags machine tags).Ensures P
      (fun tagged s' => invariant s' ∧ tagged = { machine with tagNames := tagged.tagNames })
      (fun failure s' => failure.released = false ∧ invariant s') s := by
  induction tags generalizing machine s with
  | nil => exact Pass.ensures_pure.mpr ⟨start, rfl⟩
  | cons tag rest ih =>
      unfold ensureTags
      split
      · exact ih machine assigns start
      · have create : (discard (Pass.maas ("create tag " ++ tag) (.createTag tag))).Spares kind :=
          .discard (Pass.spares_maas (creates tag))
        have assign : (Pass.maas ("tag " ++ machine.systemId ++ " with " ++ tag)
            (.assignTag tag machine.systemId)).Spares kind := Pass.spares_maas (assigns tag)
        refine Pass.Ensures.bind (create.ensures tolerates start) fun _ s' kept => ?_
        refine Pass.Ensures.bind (assign.ensures tolerates kept) fun _ s' kept => ?_
        exact ih { machine with tagNames := machine.tagNames ++ [tag] } assigns kept

end Engine

end MachineProvisioning
