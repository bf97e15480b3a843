import MachineProvisioning.Proofs.Json.Equality
import MachineProvisioning.Proofs.Time.Rfc3339
import MachineProvisioning.Resource.Codec

/-! # What is read of a status

A status is read field by field, in whatever order the fields stand. What the encoder writes of a
condition is read as that condition.
-/

namespace MachineProvisioning.Resource

open Json

theorem means_instant {t : Instant} (proper : t.IsProper) : Means instant? (ofInstant t) t := by
  intro j t' same reads
  cases same.str
  exact Instant.eq_of_ofText?_toText proper reads

theorem steady_instant : Steady instant? := by
  intro written t reads
  cases written with
  | str text =>
      intro j t' same reads'
      cases same.str
      exact Option.some.inj (reads'.symm.trans reads)
  | _ => cases reads

theorem isLegible_of_instant? {j : Json} {t : Instant} (reads : instant? j = some t) : t.IsLegible := by
  cases j with
  | str text => exact Instant.isLegible_of_ofText? reads
  | _ => cases reads

theorem Phase.steady_ofJson? : Steady Phase.ofJson? := steady_oneOf

theorem Phase.means_toJson (phase : Phase) : Means Phase.ofJson? phase.toJson phase := by
  intro j other same reads
  cases same.str
  cases phase <;> exact (Option.some.inj reads).symm

namespace Condition

/-- The condition is what the fields found by `get` are read as. -/
structure ReadFrom (get : String → Option Json) (condition : Condition) : Prop where
  kind : ReadsRequired text? (get "type") condition.kind
  status : ReadsRequired text? (get "status") condition.status
  reason : ReadsOptional text? (get "reason") condition.reason
  message : ReadsOptional text? (get "message") condition.message
  lastTransitionTime :
    ReadsOptional instant? (get "lastTransitionTime") condition.lastTransitionTime

theorem readFrom_of_ofJson? {j : Json} {condition : Condition} (reads : ofJson? j = some condition) :
    ∃ r, Record.open? ["type", "status", "reason", "message", "lastTransitionTime"] j = some r ∧
      ReadFrom r.get? condition := by
  simp only [ofJson?, Option.bind_eq_bind, Option.bind_eq_some_iff, Option.some.injEq] at reads
  obtain ⟨r, opened, kind, kind_eq, status, status_eq, reason, reason_eq, message, message_eq, time,
    time_eq, rfl⟩ := reads
  exact ⟨r, opened, kind_eq, status_eq, reason_eq, message_eq, time_eq⟩

theorem steady_ofJson? : Steady ofJson? := by
  intro written condition reads j condition' same reads'
  obtain ⟨r, opened, fields⟩ := readFrom_of_ofJson? reads
  obtain ⟨r', opened', fields'⟩ := readFrom_of_ofJson? reads'
  have kind := fields'.kind.same steady_text (same.get? opened' opened (by decide)) fields.kind
  have status := fields'.status.same steady_text (same.get? opened' opened (by decide)) fields.status
  have reason := fields'.reason.same steady_text (same.get? opened' opened (by decide)) fields.reason
  have message :=
    fields'.message.same steady_text (same.get? opened' opened (by decide)) fields.message
  have time := fields'.lastTransitionTime.same steady_instant
    (same.get? opened' opened (by decide)) fields.lastTransitionTime
  cases condition
  cases condition'
  simp_all

/-- A timestamp of the condition is one that can be written. -/
def IsProper (condition : Condition) : Prop :=
  ∀ t ∈ condition.lastTransitionTime, t.IsProper

instance (condition : Condition) : Decidable condition.IsProper :=
  inferInstanceAs (Decidable (∀ _ ∈ _, _))

/-- The timestamps that the condition has. -/
def timestamps (condition : Condition) : List Instant := condition.lastTransitionTime.toList

theorem isProper_iff {condition : Condition} :
    condition.IsProper ↔ ∀ t ∈ condition.timestamps, t.IsProper := by
  simp [IsProper, timestamps]

/-- The timestamp of a condition that is read can be written and read again. -/
theorem isLegible_of_ofJson? {j : Json} {condition : Condition}
    (reads : ofJson? j = some condition) : ∀ t ∈ condition.timestamps, t.IsLegible := by
  obtain ⟨r, -, fields⟩ := readFrom_of_ofJson? reads
  intro t mem
  obtain ⟨_, decodes⟩ := fields.lastTransitionTime.decodes (Option.mem_toList.mp mem)
  exact isLegible_of_instant? decodes

/-- The fields of an encoded condition. -/
theorem get?_toJson (condition : Condition) :
    condition.toJson.get? "type" = some (.str condition.kind) ∧
    condition.toJson.get? "status" = some (.str condition.status) ∧
    condition.toJson.get? "reason" = (condition.reason.map .str).or none ∧
    condition.toJson.get? "message" = (condition.message.map .str).or none ∧
    condition.toJson.get? "lastTransitionTime" =
      (condition.lastTransitionTime.map ofInstant).or none := by
  simp [toJson, Json.get?, field?_append, field?_cons]

theorem means_toJson {condition : Condition} (proper : condition.IsProper) :
    Means ofJson? condition.toJson condition := by
  intro j condition' same reads
  obtain ⟨r, opened, fields⟩ := readFrom_of_ofJson? reads
  obtain ⟨given, rfl, alike⟩ := same.obj
  have found : ∀ name ∈ ["type", "status", "reason", "message", "lastTransitionTime"],
      SameField (r.get? name) (condition.toJson.get? name) := by
    intro name known
    rw [get?_of_open opened known]
    exact alike name
  obtain ⟨kind, status, reason, message, time⟩ := condition.get?_toJson
  have kind' := fields.kind.eq (means_text _) (kind ▸ found "type" (by decide))
  have status' := fields.status.eq (means_text _) (status ▸ found "status" (by decide))
  have reason' := ReadsOptional.or_text (reason ▸ found "reason" (by decide)) fields.reason
    (readsOptional_none.mpr rfl)
  have message' := ReadsOptional.or_text (message ▸ found "message" (by decide)) fields.message
    (readsOptional_none.mpr rfl)
  have time' := fields.lastTransitionTime.or ofInstant steady_instant
    (fun t mem => ⟨nofun, means_instant (proper t mem)⟩)
    (time ▸ found "lastTransitionTime" (by decide)) (readsOptional_none.mpr rfl)
  cases condition
  cases condition'
  simp_all

end Condition

namespace Status

/-- The status is what the fields found by `get` are read as. -/
structure ReadFrom (get : String → Option Json) (status : Status) : Prop where
  instanceId : ReadsOptional text? (get "instanceId") status.instanceId
  providerId : ReadsOptional text? (get "providerId") status.providerId
  failureDomain : ReadsOptional text? (get "failureDomain") status.failureDomain
  hostname : ReadsOptional text? (get "hostname") status.hostname
  machineState : ReadsOptional text? (get "machineState") status.machineState
  powerState : ReadsOptional text? (get "powerState") status.powerState
  addresses : ReadsDefault [] (list? text?) (get "addresses") status.addresses
  running : ReadsDefault false bool? (get "running") status.running
  operational : ReadsDefault false bool? (get "operational") status.operational
  knownState : ReadsDefault false bool? (get "knownState") status.knownState
  ready : ReadsDefault false bool? (get "ready") status.ready
  phase : ReadsDefault .pending Phase.ofJson? (get "phase") status.phase
  conditions : ReadsDefault [] (list? Condition.ofJson?) (get "conditions") status.conditions
  error : ReadsOptional text? (get "error") status.error
  lastReconciled : ReadsOptional instant? (get "lastReconciled") status.lastReconciled

theorem ReadFrom.congr {get get' : String → Option Json} {status : Status}
    (reads : ReadFrom get status) (same : ∀ name ∈ fieldNames, get' name = get name) :
    ReadFrom get' status := by
  obtain ⟨⟩ := reads
  constructor <;> rw [same] <;> first | assumption | decide

theorem exists_readFrom_of_ofJson? {j : Json} {status : Status} (reads : ofJson? j = some status) :
    ∃ r, Record.open? fieldNames j = some r ∧ ReadFrom r.get? status := by
  unfold ofJson? at reads
  obtain ⟨r, opened, reads⟩ := Option.bind_eq_some_iff.mp reads
  obtain ⟨_, instanceId, reads⟩ := Option.bind_eq_some_iff.mp reads
  obtain ⟨_, providerId, reads⟩ := Option.bind_eq_some_iff.mp reads
  obtain ⟨_, zone, reads⟩ := Option.bind_eq_some_iff.mp reads
  obtain ⟨_, hostname, reads⟩ := Option.bind_eq_some_iff.mp reads
  obtain ⟨_, state, reads⟩ := Option.bind_eq_some_iff.mp reads
  obtain ⟨_, power, reads⟩ := Option.bind_eq_some_iff.mp reads
  obtain ⟨_, addresses, reads⟩ := Option.bind_eq_some_iff.mp reads
  obtain ⟨_, running, reads⟩ := Option.bind_eq_some_iff.mp reads
  obtain ⟨_, operational, reads⟩ := Option.bind_eq_some_iff.mp reads
  obtain ⟨_, known, reads⟩ := Option.bind_eq_some_iff.mp reads
  obtain ⟨_, ready, reads⟩ := Option.bind_eq_some_iff.mp reads
  obtain ⟨_, phase, reads⟩ := Option.bind_eq_some_iff.mp reads
  obtain ⟨_, conditions, reads⟩ := Option.bind_eq_some_iff.mp reads
  obtain ⟨_, error, reads⟩ := Option.bind_eq_some_iff.mp reads
  obtain ⟨_, time, reads⟩ := Option.bind_eq_some_iff.mp reads
  cases reads
  exact ⟨r, opened, instanceId, providerId, zone, hostname, state, power, addresses, running,
    operational, known, ready, phase, conditions, error, time⟩

theorem readFrom_of_ofJson? {fields : List (String × Json)} {status : Status}
    (reads : ofJson? (.obj fields) = some status) : ReadFrom (field? · fields) status := by
  obtain ⟨r, opened, reads⟩ := exists_readFrom_of_ofJson? reads
  exact reads.congr fun name known => (get?_of_open opened known).symm

/-- The timestamps of the status are ones that can be written. -/
structure IsProper (status : Status) : Prop where
  conditions : ∀ condition ∈ status.conditions, condition.IsProper
  lastReconciled : ∀ t ∈ status.lastReconciled, t.IsProper

/-- The timestamps that the status and its conditions have. -/
def timestamps (status : Status) : List Instant :=
  status.conditions.flatMap Condition.timestamps ++ status.lastReconciled.toList

/-- The timestamps of a status that is read can be written and read again. -/
theorem ReadFrom.isLegible {get : String → Option Json} {status : Status}
    (reads : ReadFrom get status) : ∀ t ∈ status.timestamps, t.IsLegible := by
  intro t mem
  rcases List.mem_append.mp mem with mem | mem
  · obtain ⟨condition, listed, mem⟩ := List.mem_flatMap.mp mem
    obtain ⟨_, decodes⟩ := reads.conditions.decodes listed
    exact Condition.isLegible_of_ofJson? decodes t mem
  · obtain ⟨_, decodes⟩ := reads.lastReconciled.decodes (Option.mem_toList.mp mem)
    exact isLegible_of_instant? decodes

theorem ReadFrom.isProper {get : String → Option Json} {status : Status}
    (reads : ReadFrom get status) : status.IsProper where
  conditions condition listed := Condition.isProper_iff.mpr fun t mem =>
    (reads.isLegible t (List.mem_append_left _ (List.mem_flatMap.mpr ⟨condition, listed, mem⟩))).proper
  lastReconciled t mem :=
    (reads.isLegible t (List.mem_append_right _ (Option.mem_toList.mpr mem))).proper

/-- Fields that are the same are read as one status. -/
theorem ReadFrom.unique {get get' : String → Option Json} {status status' : Status}
    (reads : ReadFrom get status) (reads' : ReadFrom get' status')
    (same : ∀ name, SameField (get name) (get' name)) : status = status' := by
  have instanceId := reads.instanceId.same steady_text (same _) reads'.instanceId
  have providerId := reads.providerId.same steady_text (same _) reads'.providerId
  have zone := reads.failureDomain.same steady_text (same _) reads'.failureDomain
  have hostname := reads.hostname.same steady_text (same _) reads'.hostname
  have state := reads.machineState.same steady_text (same _) reads'.machineState
  have power := reads.powerState.same steady_text (same _) reads'.powerState
  have addresses := reads.addresses.same (steady_list steady_text) (same _) reads'.addresses
  have running := reads.running.same steady_bool (same _) reads'.running
  have operational := reads.operational.same steady_bool (same _) reads'.operational
  have known := reads.knownState.same steady_bool (same _) reads'.knownState
  have ready := reads.ready.same steady_bool (same _) reads'.ready
  have phase := reads.phase.same Phase.steady_ofJson? (same _) reads'.phase
  have conditions :=
    reads.conditions.same (steady_list Condition.steady_ofJson?) (same _) reads'.conditions
  have error := reads.error.same steady_text (same _) reads'.error
  have time := reads.lastReconciled.same steady_instant (same _) reads'.lastReconciled
  cases status
  cases status'
  simp_all

/-- Nothing is read of a status without fields. -/
theorem readFrom_nothing : ReadFrom (fun _ => none) {} := by
  constructor <;> rfl

end Status

theorem Object.status_of_ofJson? {fields : List (String × Json)} {object : Object}
    (reads : ofJson? (.obj fields) = some object) :
    ReadsOptional Status.ofJson? (field? "status" fields) object.status := by
  simp only [ofJson?, ofJsonWithin?, Option.bind_eq_bind, Option.bind_eq_some_iff] at reads
  obtain ⟨r, opened, metadata, -, spec, -, status, status_eq, fits⟩ := reads
  split at fits
  · cases fits
    have optional : r.optional "status" Status.ofJson? = some status := by
      simpa [Record.nullable, isListed_of_open opened] using status_eq
    rw [← get?_of_open opened (by decide)]
    exact optional
  · cases fits

theorem Metadata.resourceVersion_of_ofJson? {j : Json} {metadata : Metadata}
    (reads : ofJson? j = some metadata) :
    ReadsOptional text? (j.get? "resourceVersion") metadata.resourceVersion := by
  obtain ⟨r, opened, fields⟩ := Option.bind_eq_some_iff.mp reads
  -- The version is the thirteenth field that is read, and two more follow.
  iterate 12 obtain ⟨_, -, fields⟩ := Option.bind_eq_some_iff.mp fields
  obtain ⟨version, found, fields⟩ := Option.bind_eq_some_iff.mp fields
  iterate 2 obtain ⟨_, -, fields⟩ := Option.bind_eq_some_iff.mp fields
  cases fields
  cases j with
  | obj given =>
      cases opened
      exact LooseRecord.reads_of_last found
  | _ => cases opened

theorem Object.metadata_of_ofJson? {fields : List (String × Json)} {object : Object}
    (reads : ofJson? (.obj fields) = some object) :
    ReadsRequired Metadata.ofJson? (field? "metadata" fields) object.metadata := by
  simp only [ofJson?, ofJsonWithin?, Option.bind_eq_bind, Option.bind_eq_some_iff] at reads
  obtain ⟨r, opened, metadata, found, spec, -, status, -, fits⟩ := reads
  split at fits
  · cases fits
    rw [← get?_of_open opened (by decide)]
    exact found
  · cases fits

end MachineProvisioning.Resource
