import MachineProvisioning.Engine.Effect
import MachineProvisioning.StaticIp.Target
import MachineProvisioning.Wiring

/-! # Addresses and networks of an instance

Binding a static address and relinking interfaces to their declared networks. Both look at the
instance first and change only what is missing, and only in states in which MAAS accepts edits.
-/

namespace MachineProvisioning.Engine

open Resource (Key StaticIpSpec)
open StaticIp (Declaration Target)
open Maas (Interface Link)
open Net Text

def networkFailure (systemId action : String) (error : Maas.Error) : Failure :=
  (ProvisioningFailure.new .networkConfiguration action
    |>.atHost systemId
    |>.causedBy (.maas error) : ProvisioningFailure)

/-- Call MAAS, where an error is a failed change of the network. -/
def changeNetwork (systemId action : String) (call : Maas.Call) : Pass call.Value := do
  match ← Pass.tryMaas call with
  | .ok value => pure value
  | .error error => throw (networkFailure systemId action error)

/-- The first other machine that declares the address. -/
def conflictingPeer (key : Key) (address : Address) (peers : List (String × String)) :
    Option String :=
  (peers.find? fun (name, declared) =>
    name ≠ key.name ∧ StaticIp.addressOf? declared = some address).map Prod.fst

/-- Fail when another machine of the namespace declares the address. When the machines cannot be
    listed, there is nothing to check against. -/
def checkConflict (key : Key) (address : Address) : Pass Unit := do
  match ← Pass.tryStore (.listStaticIps key.namespace_) with
  | .error _ => pure ()
  | .ok peers =>
      match conflictingPeer key address peers with
      | none => pure ()
      | some name =>
          throw (.staticIp (.conflict address.toText (key.namespace_ ++ "/" ++ name)))

/-- A lawful declaration that no other machine makes. -/
def validated (key : Key) (spec : StaticIpSpec) : Pass Declaration := do
  match StaticIp.validate spec with
  | .error fault => throw (.staticIp fault)
  | .ok ip => do
      checkConflict key ip.address
      pure ip

/-- Release the entry of the address in the registry when no interface holds it. -/
def releaseStaleAddress (ip : Declaration) : Pass Unit := do
  let address := ip.address.toText
  match ← Pass.maas ("look up IP " ++ address) (.getIpAddress address) with
  | none => pure ()
  | some allocation =>
      if allocation.holders.isEmpty then
        match ← Pass.tryMaas (.releaseIpAddress address true) with
        | .ok () => pure ()
        | .error (.notFound _) => pure ()
        | .error error => throw (.backend ("release IP " ++ address) error)

def unlinkAll (systemId : String) (iface : Interface) (action : Link → String) :
    List Link → Pass Unit
  | [] => pure ()
  | link :: rest => do
      discard (changeNetwork systemId (action link) (.unlinkSubnet systemId iface.id link.id))
      unlinkAll systemId iface action rest

/-- The links that stand in the way of the address: those on subnets that contain it and do not
    carry it. -/
def linksInTheWay (iface : Interface) (ip : Declaration) : List Link :=
  (StaticIp.linksContaining iface ip.address).filter fun link => !StaticIp.carries ip.address link

def bindAddress (systemId : String) (interfaces : List Interface) (ip : Declaration)
    (target : Target) : Pass Unit := do
  releaseStaleAddress ip
  let params : Maas.LinkParams :=
    { mode := .static
      subnet := StaticIp.subnetSpecifier interfaces ip
      ipAddress := some ip.address.toText
      defaultGateway := true }
  let action := "failed to bind static IP " ++ ip.address.toText
  match target with
  | .interface iface => do
      unlinkAll systemId iface
        (fun link => "failed to unlink link " ++ decimal link.id.toNat ++ " on " ++ iface.name)
        (linksInTheWay iface ip)
      discard (changeNetwork systemId action (.linkSubnet systemId iface.id params))
  | .boot => discard (changeNetwork systemId action (.bindBootInterface systemId params))

/-- Bind the declared static address on the instance, unless it is bound already. -/
def applyStaticIp (key : Key) (systemId : String) (spec : StaticIpSpec) : Pass Unit := do
  let ip ← validated key spec
  let address := ip.address.toText
  let machine ← Pass.maas ("get machine " ++ systemId) (.getMachine systemId)
  let state := Lifecycle.State.ofText machine.statusName
  if state.isCommissioning then
    throw (.stillProvisioning systemId
      ("static IP " ++ address ++ " deferred until commissioning finishes"))
  let interfaces ← Pass.maas ("list interfaces of " ++ systemId) (.listInterfaces systemId)
  if !state.allowsNetworkEdits then
    if interfaces.any (StaticIp.isBound · ip) then pure ()
    else
      throw (.stillProvisioning systemId
        ("static IP " ++ address ++ " cannot be bound while machine is " ++ state.toText))
  else
    match StaticIp.selectTarget interfaces (machine.bootInterface.map (·.id)) ip with
    | .error failure => throw (.provisioning (failure.atHost systemId))
    | .ok target =>
        let bound := match target with
          | .interface iface => StaticIp.isBound iface ip
          | .boot => false
        if bound then pure () else bindAddress systemId interfaces ip target

/-- The interface as listed, or read again when no link of it shows a subnet. -/
def withSubnets (systemId name : String) (listed : Interface) : Pass Interface :=
  if listed.links.all (·.subnet.isNone) then
    Pass.maas ("get interface " ++ name ++ " of " ++ systemId) (.getInterface systemId listed.id)
  else pure listed

def isOnNetwork (network : String) (iface : Interface) : Bool :=
  iface.links.any fun link =>
    match link.subnet with
    | some subnet => Wiring.subnetMatches subnet network
    | none => false

/-- Put the named interface on a network, with an automatic address, unless it is there. -/
def ensureNetwork (systemId : String) (interfaces : List Interface) (name network : String) :
    Pass Unit := do
  match interfaces.find? (·.name == name) with
  | none =>
      throw ((ProvisioningFailure.new .networkConfiguration
          ("interface " ++ name ++ " for network " ++ network ++ " not found")).atHost systemId :
        Failure)
  | some listed => do
      let iface ← withSubnets systemId name listed
      if isOnNetwork network iface then pure ()
      else do
        let action := "failed to relink " ++ name ++ " to network " ++ network
        unlinkAll systemId iface (fun _ => action) iface.links
        let params : Maas.LinkParams :=
          { mode := .auto
            subnet := Wiring.specifier network
            ipAddress := none
            defaultGateway := false }
        discard (changeNetwork systemId action (.linkSubnet systemId iface.id params))

/-- Put `eth0` and `eth1` on the two declared networks. Any other number of networks is left to
    MAAS. -/
def verifyNetwork (systemId : String) (networks : List String) : Pass Unit := do
  match networks with
  | [management, workload] => do
      let machine ← Pass.maas ("get machine " ++ systemId) (.getMachine systemId)
      let state := Lifecycle.State.ofText machine.statusName
      if !state.allowsNetworkEdits then
        throw (.stillProvisioning systemId
          ("network verification deferred while VM is " ++ state.toText))
      let interfaces ← Pass.maas ("list interfaces of " ++ systemId) (.listInterfaces systemId)
      ensureNetwork systemId interfaces "eth0" management
      ensureNetwork systemId interfaces "eth1" workload
  | _ => pure ()

end MachineProvisioning.Engine
