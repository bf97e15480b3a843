import MachineProvisioning.Lifecycle.Status
import MachineProvisioning.Proofs.Resource.Restoring
import MachineProvisioning.Proofs.Store.ApiServer

/-! # Publishing a status

A status is published by merging it into the one that is kept. The encoder leaves out what is absent,
and a merge keeps what a patch leaves out: so the identifiers stay, but so does what was kept of every
optional field that the published status lacks, and the zone and the hostname of the checkpoint are
replaced when it has them.
-/

namespace MachineProvisioning.Store.Kubernetes

open Json
open Http (Response)
open Resource (Key Status Condition Phase Object)

/-- What is kept after a status is published over an old one. -/
def publishedOver (old published : Status) : Status :=
  { published with
    instanceId := old.instanceId
    providerId := old.providerId
    failureDomain := published.failureDomain.or old.failureDomain
    hostname := published.hostname.or old.hostname
    machineState := published.machineState.or old.machineState
    powerState := published.powerState.or old.powerState
    conditions := if published.conditions = [] then old.conditions else published.conditions
    lastReconciled := published.lastReconciled.or old.lastReconciled }

variable {name : String} {key : Key} {status status' : Json} {published : Status}
  {old new : Option Status}

/-- The fields that are always published anew. -/
def renewedNames : List String := ["error", "addresses"]

/-- The fields that are not taken from the encoder. -/
def heldNames : List String := ["instanceId", "providerId"] ++ renewedNames

theorem publishedFields_eq (published : Status) :
    publishedFields published =
      (published.toFields.filter fun field => !heldNames.contains field.1) ++
        [("error", Json.ofOption .str published.error),
          ("addresses", Json.texts published.addresses)] := rfl

theorem nodup_publishedFields (published : Status) :
    ((publishedFields published).map Prod.fst).Nodup := by
  have kept : ((published.toFields.filter fun field => !heldNames.contains field.1).map
      Prod.fst).Sublist (Status.fieldNames.filter fun name => !heldNames.contains name) := by
    have filtered := published.keys_toFields.filter fun name => !heldNames.contains name
    rwa [List.filter_map] at filtered
  rw [publishedFields_eq, List.map_append]
  exact (kept.append (.refl renewedNames)).nodup (by decide)

theorem field?_publishedFields (free : name ∉ heldNames) :
    field? name (publishedFields published) = field? name published.toFields := by
  have other : field? name [("error", Json.ofOption .str published.error),
      ("addresses", Json.texts published.addresses)] = none :=
    field?_eq_none fun mem => free (List.mem_append_right _ mem)
  rw [publishedFields_eq, field?_append, other, Option.none_or]
  exact field?_filter (p := fun name => !heldNames.contains name) (by simpa using free)

theorem field?_publishedFields_identifier (held : name ∈ ["instanceId", "providerId"]) :
    field? name (publishedFields published) = none := by
  refine field?_eq_none fun mem => ?_
  rw [publishedFields_eq, List.map_append, List.mem_append] at mem
  obtain mem | mem := mem
  · obtain ⟨field, kept, rfl⟩ := List.mem_map.mp mem
    have free : field.1 ∉ heldNames := by simpa using (List.mem_filter.mp kept).2
    exact free (List.mem_append_left _ held)
  · simp only [List.mem_cons, List.not_mem_nil, or_false] at held
    obtain rfl | rfl := held <;> simp at mem

theorem field?_published :
    field? name (mergePatch status (.obj (publishedFields published))).fields =
      mergeField (field? name status.fields) (field? name (publishedFields published)) := by
  rw [mergePatch]
  exact field?_mergeFields (nodup_publishedFields published)

variable {get getNew : String → Option Json}

/-- What is found in a status and in what is kept after another one is published over it. -/
structure Overlaid (status : Json) (published : Status) (get getNew : String → Option Json) : Prop where
  before : ∀ name, SameField (get name) (field? name status.fields)
  after : ∀ name, SameField (getNew name)
    (field? name (mergePatch status (.obj (publishedFields published))).fields)

namespace Overlaid

variable (overlaid : Overlaid status published get getNew)

include overlaid

theorem same (left : field? name (publishedFields published) = none) :
    SameField (getNew name) (get name) := by
  have after := overlaid.after name
  rw [field?_published, left] at after
  exact after.trans (overlaid.before name).symm

theorem replaced {value : Json} (free : name ∉ heldNames) (given : value ≠ .null)
    (plain : ∀ fields, value ≠ .obj fields)
    (written : field? name published.toFields = some value) : SameField (getNew name) (some value) := by
  have after := overlaid.after name
  rwa [field?_published, field?_publishedFields free, written, mergeField_of_not_obj given plain]
    at after

/-- An optional field is replaced when it is published and stays otherwise. -/
theorem or {α : Type} {encode : α → Json} {value : Option α} (free : name ∉ heldNames)
    (plain : ∀ a, encode a ≠ .null ∧ ∀ fields, encode a ≠ .obj fields)
    (written : field? name published.toFields = value.map encode) :
    SameField (getNew name) ((value.map encode).or (get name)) := by
  cases value with
  | none => exact overlaid.same ((field?_publishedFields free).trans written)
  | some a => exact overlaid.replaced free (plain a).1 (plain a).2 written

theorem text {value x y : Option String} (free : name ∉ heldNames)
    (written : field? name published.toFields = value.map .str)
    (reads : ReadsOptional text? (getNew name) x) (readsOld : ReadsOptional text? (get name) y) :
    x = value.or y :=
  reads.or_text (overlaid.or free (fun text => by simp) written) readsOld

theorem bool {value x : Bool} (free : name ∉ heldNames)
    (written : field? name published.toFields = some (.bool value))
    (reads : ReadsDefault false bool? (getNew name) x) : x = value :=
  reads.eq (means_bool value) (overlaid.replaced free (by simp) (by simp) written)

theorem error : SameField (getNew "error") (published.error.map .str) := by
  have written : field? "error" (publishedFields published) =
      some (Json.ofOption .str published.error) := by
    rw [publishedFields_eq, field?_append]
    rfl
  have after := overlaid.after "error"
  rw [field?_published, written] at after
  -- No error is published as null, which removes the old one.
  cases given : published.error with
  | none => rwa [given] at after
  | some text => rwa [given] at after

theorem addresses : SameField (getNew "addresses") (some (.arr (published.addresses.map .str))) := by
  have written : field? "addresses" (publishedFields published) =
      some (Json.texts published.addresses) := by
    rw [publishedFields_eq, field?_append]
    rfl
  have after := overlaid.after "addresses"
  rwa [field?_published, written] at after

end Overlaid

/-- What the encoder writes of the fields that a patch takes from it. -/
theorem field?_toFields (status : Status) :
    field? "failureDomain" status.toFields = status.failureDomain.map .str ∧
    field? "hostname" status.toFields = status.hostname.map .str ∧
    field? "machineState" status.toFields = status.machineState.map .str ∧
    field? "powerState" status.toFields = status.powerState.map .str ∧
    field? "running" status.toFields = some (.bool status.running) ∧
    field? "operational" status.toFields = some (.bool status.operational) ∧
    field? "knownState" status.toFields = some (.bool status.knownState) ∧
    field? "ready" status.toFields = some (.bool status.ready) ∧
    field? "phase" status.toFields = some status.phase.toJson ∧
    field? "conditions" status.toFields =
      (if status.conditions = [] then none
        else some (.arr (status.conditions.map Condition.toJson))) ∧
    field? "lastReconciled" status.toFields = status.lastReconciled.map Resource.ofInstant := by
  simp [Status.toFields, field?_append, field?_cons]

/-- What a checkpoint is made of, after a publication over an old status. -/
structure PublishedIdentity (new old published : Status) : Prop where
  instanceId : new.instanceId = old.instanceId
  providerId : new.providerId = old.providerId
  failureDomain : new.failureDomain = published.failureDomain.or old.failureDomain
  hostname : new.hostname = published.hostname.or old.hostname

theorem Overlaid.identity {x y : Status} (overlaid : Overlaid status published get getNew)
    (reads : y.ReadFrom get) (reads' : x.ReadFrom getNew) : PublishedIdentity x y published := by
  obtain ⟨zone, hostname, -⟩ := field?_toFields published
  constructor
  · exact reads'.instanceId.same steady_text
      (overlaid.same (field?_publishedFields_identifier (by decide))) reads.instanceId
  · exact reads'.providerId.same steady_text
      (overlaid.same (field?_publishedFields_identifier (by decide))) reads.providerId
  · exact overlaid.text (by decide) zone reads'.failureDomain reads.failureDomain
  · exact overlaid.text (by decide) hostname reads'.hostname reads.hostname

/-- The optional value is the old one when none is given, or that one is. -/
theorem or_eq_right_iff {α : Type} (given kept : Option α) :
    given.or kept = kept ↔ given = none ∨ given = kept := by
  cases given <;> simp

theorem PublishedIdentity.checkpoint_eq_iff {x y : Status} (same : PublishedIdentity x y published) :
    checkpointOf x = checkpointOf y ↔ ∀ checkpoint ∈ checkpointOf y,
      (published.failureDomain = none ∨ published.failureDomain = checkpoint.failureDomain) ∧
        (published.hostname = none ∨ published.hostname = checkpoint.hostname) := by
  obtain ⟨instanceId, providerId, zone, hostname⟩ := same
  cases owner : y.instanceId with
  | none => simp [checkpointOf, instanceId, owner]
  | some systemId =>
      simp only [checkpointOf, instanceId, owner, Option.map_some, Option.some.injEq,
        Option.mem_def, Store.Checkpoint.mk.injEq, true_and, forall_eq', zone, hostname, providerId,
        or_eq_right_iff]
      constructor
      · exact fun kept => kept.2
      · rintro ⟨sameZone, sameHostname⟩
        -- A provider id that is not stored is made from the zone, which has to be the same for it.
        have kept := (or_eq_right_iff published.failureDomain y.failureDomain).mpr sameZone
        exact ⟨by rw [kept], sameZone, sameHostname⟩

theorem identity_published (before : ReadAs status old)
    (after : ReadAs (mergePatch status (.obj (publishedFields published))) new) :
    PublishedIdentity (new.getD {}) (old.getD {}) published := by
  obtain ⟨-, get, found, reads⟩ := before
  obtain ⟨-, getNew, found', reads'⟩ := after
  exact Overlaid.identity ⟨found, found'⟩ reads reads'

theorem instanceId_checkpointOf (status : Status) :
    (checkpointOf status).map (·.instanceId) = status.instanceId := by
  cases same : status.instanceId <;> simp [checkpointOf, same]

theorem bind_checkpointOf (status : Option Status) :
    status.bind checkpointOf = checkpointOf (status.getD {}) := by
  cases status <;> rfl

/-- What a publication does to the checkpoint. It names the same instance afterwards, and is the same
    as before exactly when the published zone and hostname are, where they are published. -/
theorem publication_keeps_checkpoint_iff {saved : Saved} {before after : Json}
    (loads : Yields key before (.load key) (.ok saved) before)
    (publishes : Yields key before (.publishStatus key published) (.ok ()) after) :
    (∃ saved', Yields key after (.load key) (.ok saved') after) ∧
      ∀ saved', Yields key after (.load key) (.ok saved') after →
        saved'.checkpoint.map (·.instanceId) = saved.checkpoint.map (·.instanceId) ∧
          (saved'.checkpoint = saved.checkpoint ↔ ∀ checkpoint ∈ saved.checkpoint,
            (published.failureDomain = none ∨
              published.failureDomain = checkpoint.failureDomain) ∧
              (published.hostname = none ∨ published.hostname = checkpoint.hostname)) := by
  obtain ⟨-, loaded⟩ := loads.loads
  obtain ⟨target, found⟩ := loaded.addressed
  refine ⟨publishes.reload found, fun saved' loads' => ?_⟩
  obtain ⟨-, loaded'⟩ := loads'.loads
  obtain rfl := (publishes.leaves rfl).2 () rfl
  have same := identity_published loaded.status loaded'.status
  rw [loaded'.checkpoint, loaded.checkpoint, bind_checkpointOf, bind_checkpointOf]
  refine ⟨?_, same.checkpoint_eq_iff⟩
  rw [instanceId_checkpointOf, instanceId_checkpointOf, same.instanceId]

/-! A deployed machine is given another hostname. -/

def worker : Key := ⟨"metal", "worker-0"⟩

theorem readable_worker : readTarget worker = .ok
    ⟨"/apis/dcops.microscaler.io/v1alpha1/namespaces/metal/maasmachines/worker-0", ""⟩ := by
  decide +kernel

theorem writable_worker : changeTarget worker (statusPath worker) = .ok
    ⟨"/apis/dcops.microscaler.io/v1alpha1/namespaces/metal/maasmachines/worker-0/status", ""⟩ := by
  decide +kernel

def named : Json :=
  .obj [("instanceId", .str "m1"), ("hostname", .str "node-7"), ("machineState", .str "Deployed")]

def rename : Status := { hostname := some "worker-0" }

def renamed : Json := statusAfter named (.publishStatus worker rename)

def savedNamed : Saved where
  checkpoint := some ⟨"m1", "maas:///default/m1", none, some "node-7"⟩
  status := some
    { instanceId := some "m1", hostname := some "node-7", machineState := some "Deployed" }

def savedRenamed : Saved where
  checkpoint := some ⟨"m1", "maas:///default/m1", none, some "worker-0"⟩
  status := some
    { instanceId := some "m1", hostname := some "worker-0", machineState := some "Deployed" }

theorem gives_renamed : Gives (showing renamed) renamed savedRenamed :=
  gives_showing (by decide +kernel)

theorem loads_named : Yields worker named (.load worker) (.ok savedNamed) named :=
  yields_load readable_worker (gives_showing (by decide +kernel))

theorem publishes_rename : Yields worker named (.publishStatus worker rename) (.ok ()) renamed :=
  yields_publish writable_worker gives_renamed

theorem publication_keeps_checkpoint_iff_renamed :
    ∃ saved, Yields worker renamed (.load worker) (.ok saved) renamed ∧
      saved.checkpoint.map (·.instanceId) = some "m1" ∧
      saved.checkpoint ≠ savedNamed.checkpoint := by
  obtain ⟨⟨saved, loads⟩, kept⟩ := publication_keeps_checkpoint_iff loads_named publishes_rename
  obtain ⟨names, same⟩ := kept saved loads
  refine ⟨saved, loads, names, fun unchanged => ?_⟩
  have hostname := (same.mp unchanged _ rfl).2
  revert hostname
  decide

/-- A publication can change the checkpoint. -/
theorem publication_changes_checkpoint_renamed :
    ¬∀ (key : Key) (published : Status) (before after : Json) (saved saved' : Saved),
      Yields key before (.load key) (.ok saved) before →
      Yields key before (.publishStatus key published) (.ok ()) after →
      Yields key after (.load key) (.ok saved') after → saved'.checkpoint = saved.checkpoint := by
  intro kept
  have loads : Yields worker renamed (.load worker) (.ok savedRenamed) renamed :=
    yields_load readable_worker gives_renamed
  have same := kept worker rename named renamed _ _ loads_named publishes_rename loads
  revert same
  decide

/-- The status that is read after a publication. -/
theorem readAs_published (proper : published.IsProper) (before : ReadAs status old)
    (after : ReadAs (mergePatch status (.obj (publishedFields published))) new) :
    new = some (publishedOver (old.getD {}) published) := by
  obtain ⟨-, get, found, reads⟩ := before
  obtain ⟨there, getNew, found', reads'⟩ := after
  have overlaid : Overlaid status published get getNew := ⟨found, found'⟩
  obtain ⟨-, -, state, power, running, operational, known, ready, phase, conditions, time⟩ :=
    field?_toFields published
  obtain ⟨instanceId', providerId', zone', hostname'⟩ := overlaid.identity reads reads'
  have state' := overlaid.text (by decide) state reads'.machineState reads.machineState
  have power' := overlaid.text (by decide) power reads'.powerState reads.powerState
  have addresses' := reads'.addresses.eq
    (means_list (List.forall₂_map_left_iff.mpr (List.forall₂_same.mpr fun text _ => means_text text)))
    overlaid.addresses
  have running' := overlaid.bool (by decide) running reads'.running
  have operational' := overlaid.bool (by decide) operational reads'.operational
  have known' := overlaid.bool (by decide) known reads'.knownState
  have ready' := overlaid.bool (by decide) ready reads'.ready
  have phase' := reads'.phase.eq published.phase.means_toJson
    (overlaid.replaced (by decide) (by simp [Phase.toJson]) (by simp [Phase.toJson]) phase)
  have conditions' : (new.getD {}).conditions =
      if published.conditions = [] then (old.getD {}).conditions else published.conditions := by
    split
    · next none =>
        rw [if_pos none] at conditions
        exact reads'.conditions.same (steady_list Condition.steady_ofJson?)
          (overlaid.same ((field?_publishedFields (by decide)).trans conditions)) reads.conditions
    · next some =>
        rw [if_neg some] at conditions
        refine reads'.conditions.eq (means_list ?_)
          (overlaid.replaced (by decide) (by simp) (by simp) conditions)
        exact List.forall₂_map_left_iff.mpr (List.forall₂_same.mpr fun condition mem =>
          Condition.means_toJson (proper.conditions condition mem))
  have error' := reads'.error.or_text (by simpa using overlaid.error) (readsOptional_none.mpr rfl)
  have time' := reads'.lastReconciled.or Resource.ofInstant Resource.steady_instant
    (fun t mem => ⟨nofun, Resource.means_instant (proper.lastReconciled t mem)⟩)
    (overlaid.or (by decide) (fun t => by simp [Resource.ofInstant]) time) reads.lastReconciled
  cases new with
  | none => simp [mergePatch] at there
  | some new =>
      obtain ⟨⟩ := new
      simp_all [publishedOver]

/-- The status kept is the published one, but for the identifiers. -/
def Agrees (kept published : Status) : Prop :=
  kept = { published with instanceId := kept.instanceId, providerId := kept.providerId }

/-- The published status leaves nothing out that the old one has. -/
structure Covers (published old : Status) : Prop where
  failureDomain : published.failureDomain = none → old.failureDomain = none
  hostname : published.hostname = none → old.hostname = none
  machineState : published.machineState = none → old.machineState = none
  powerState : published.powerState = none → old.powerState = none
  conditions : published.conditions = [] → old.conditions = []
  lastReconciled : published.lastReconciled = none → old.lastReconciled = none

theorem or_eq_left_iff {α : Type} (given kept : Option α) :
    given.or kept = given ↔ (given = none → kept = none) := by
  cases given <;> simp

theorem agrees_publishedOver_iff {x y : Status} : Agrees (publishedOver x y) y ↔ Covers y x := by
  have conditions : (if y.conditions = [] then x.conditions else y.conditions) = y.conditions ↔
      (y.conditions = [] → x.conditions = []) := by
    split <;> simp_all
  simp only [Agrees, publishedOver, Status.mk.injEq, true_and, or_eq_left_iff, conditions]
  constructor
  · rintro ⟨zone, hostname, state, power, conditions, time⟩
    exact ⟨zone, hostname, state, power, conditions, time⟩
  · rintro ⟨zone, hostname, state, power, conditions, time⟩
    exact ⟨zone, hostname, state, power, conditions, time⟩

/-- What is stored after a publication is the published status over the old one, and agrees with it
    exactly when it covers the old one. -/
theorem publication_agrees_iff {saved : Saved} {before after : Json} (proper : published.IsProper)
    (loads : Yields key before (.load key) (.ok saved) before)
    (publishes : Yields key before (.publishStatus key published) (.ok ()) after) :
    (∃ saved', Yields key after (.load key) (.ok saved') after) ∧
      ∀ saved', Yields key after (.load key) (.ok saved') after → ∃ kept, saved'.status = some kept ∧
        kept = publishedOver (saved.status.getD {}) published ∧
          (Agrees kept published ↔ Covers published (saved.status.getD {})) := by
  obtain ⟨-, loaded⟩ := loads.loads
  obtain ⟨target, found⟩ := loaded.addressed
  refine ⟨publishes.reload found, fun saved' loads' => ?_⟩
  obtain ⟨-, loaded'⟩ := loads'.loads
  obtain rfl := (publishes.leaves rfl).2 () rfl
  exact ⟨_, readAs_published proper loaded.status loaded'.status, rfl, agrees_publishedOver_iff⟩

/-! A deployed machine vanishes from MAAS. Its record has been cleared, and the failure is published. -/

def cleared : Json :=
  .obj [("hostname", .str "node-7"), ("machineState", .str "Deployed"), ("powerState", .str "on")]

def savedCleared : Saved where
  status := some
    { hostname := some "node-7", machineState := some "Deployed", powerState := some "on" }

def vanished : Failure := .instanceGone "m1"

def obituary : Status := Lifecycle.failureStatus savedCleared.status ⟨⟨0, 0⟩, ⟨0, 0⟩⟩ vanished

def forgotten : Json := statusAfter cleared (.publishStatus worker obituary)

def savedForgotten : Saved where
  status := some
    { obituary with machineState := some "Deployed", powerState := some "on" }

theorem gives_forgotten : Gives (showing forgotten) forgotten savedForgotten :=
  gives_showing (by decide +kernel)

theorem loads_cleared : Yields worker cleared (.load worker) (.ok savedCleared) cleared :=
  yields_load readable_worker (gives_showing (by decide +kernel))

theorem publishes_obituary :
    Yields worker cleared (.publishStatus worker obituary) (.ok ()) forgotten :=
  yields_publish writable_worker gives_forgotten

theorem publication_agrees_iff_forgotten :
    obituary.IsProper ∧ ∃ saved kept, Yields worker forgotten (.load worker) (.ok saved) forgotten ∧
      saved.status = some kept ∧ kept.machineState = some "Deployed" ∧ ¬Agrees kept obituary := by
  have proper : obituary.IsProper := ⟨by decide, by decide⟩
  obtain ⟨⟨saved, loads⟩, stored⟩ := publication_agrees_iff proper loads_cleared publishes_obituary
  obtain ⟨kept, shown, same, agrees⟩ := stored saved loads
  refine ⟨proper, saved, kept, loads, shown, ?_, fun agree => ?_⟩
  · rw [same]
    decide
  · have covers := (agrees.mp agree).machineState (by decide)
    revert covers
    decide

/-- The state of an instance can stay published after a pass that reports it released. -/
theorem publication_keeps_state_forgotten :
    vanished.released = true ∧ obituary.machineState = none ∧
      ¬∀ (key : Key) (published : Status) (before after : Json) (saved saved' : Saved),
        Yields key before (.load key) (.ok saved) before →
        Yields key before (.publishStatus key published) (.ok ()) after →
        Yields key after (.load key) (.ok saved') after →
          ∃ kept, saved'.status = some kept ∧ Agrees kept published := by
  refine ⟨rfl, by decide, fun agrees => ?_⟩
  have loads : Yields worker forgotten (.load worker) (.ok savedForgotten) forgotten :=
    yields_load readable_worker gives_forgotten
  obtain ⟨kept, shown, same⟩ :=
    agrees worker obituary cleared forgotten _ _ loads_cleared publishes_obituary loads
  cases shown
  have state := congrArg Status.machineState same
  revert state
  decide

end MachineProvisioning.Store.Kubernetes
