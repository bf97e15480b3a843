import MachineProvisioning.Proofs.Json.MergePatch
import MachineProvisioning.Proofs.Program.Stopping
import MachineProvisioning.Proofs.Resource.Codec
import MachineProvisioning.Proofs.Store.Attempts

/-! # The API server

The API server keeps the status of an object, or null when there is none, and merges patches into it.
An answer that can be decoded shows the status that is kept then. A write that is answered with a
conflict is not made, and one that fails otherwise may have been made or not. From this follows what
each call of the store does to the status.
-/

namespace MachineProvisioning.Store.Kubernetes

open Json
open Http (Response)
open Resource (Key Status Object)

/-- The request reads the object. -/
def IsRead (key : Key) (request : Request) : Prop :=
  request.method = "GET" ∧ readTarget key = .ok request.target

/-- The request merges a patch at the status of the object. -/
def Patches (key : Key) (request : Request) (patch : Json) : Prop :=
  request.method = "PATCH" ∧ changeTarget key (statusPath key) = .ok request.target ∧
    request.body = .json "application/merge-patch+json" patch

/-- The status after a patch of the object, of which only the status is looked at. -/
def merged (status patch : Json) : Json :=
  match patch.get? "status" with
  | some change => mergePatch status change
  | none => status

/-- The answer is the object with this status, which is an object if there is one. -/
def Shows (response : Response) (status : Json) : Prop :=
  ∃ document ∈ Json.read? response.body, document = .obj document.fields ∧
    Same ((document.get? "status").getD .null) status ∧
    (status = .null ∨ status = .obj status.fields)

/-- How the API server answers a request about an object that is there. -/
structure Serves (key : Key) (status : Json) (request : Request) (response : Response)
    (status' : Json) : Prop where
  changes : status' = status ∨ ∃ patch, Patches key request patch ∧ status' = merged status patch
  accepts : ∀ patch object, Patches key request patch →
    decode Object.ofJson? response = .ok object →
      status' = merged status patch ∧ Shows response status'
  rejects : ∀ error, decode Object.ofJson? response = .error error → error.isConflict = true →
    status' = status
  reads : ∀ object, IsRead key request → decode Object.ofJson? response = .ok object →
    Shows response status'
  finds : ∀ error, IsRead key request → decode Object.ofJson? response = .error error →
    error.isNotFound = false

/-- Requests are made in states that are `good`, and answered by the API server. -/
def serving (key : Key) (good : Json → Prop) : Protocol Request (fun _ => Response) Json where
  allows status _ := good status
  leads := Serves key

/-- The status is read as this one. -/
def ReadAs (status : Json) (seen : Option Status) : Prop :=
  (seen = none ↔ status = .null) ∧
    ∃ get : String → Option Json, (∀ name, SameField (get name) (field? name status.fields)) ∧
      (seen.getD {}).ReadFrom get

theorem readAs_of_shows {response : Response} {status : Json} {object : Object}
    (shows' : Shows response status) (decoded : decode Object.ofJson? response = .ok object) :
    ReadAs status object.status := by
  obtain ⟨document, read, shape, same, form⟩ := shows'
  generalize document.fields = fields at shape
  subst shape
  replace same : Same ((field? "status" fields).getD .null) status := same
  have reads : ReadsOptional Status.ofJson? (field? "status" fields) object.status := by
    refine Object.status_of_ofJson? ?_
    unfold decode at decoded
    rw [Option.mem_def.mp read] at decoded
    split at decoded
    · cases decoded
    · split at decoded
      · next found =>
          cases decoded
          exact found
      · cases decoded
  have nothing : status = .null →
      (field? "status" fields = none ∨ field? "status" fields = some .null) := by
    rintro rfl
    cases found : field? "status" fields with
    | none => exact .inl rfl
    | some j =>
        rw [found] at same
        exact .inr (congrArg some same.null)
  -- A status that is kept is an object, whose fields are read; null stands for none.
  generalize given_eq : status.fields = given at form
  clear given_eq
  obtain rfl | rfl := form
  · have none := reads.eq_none (nothing rfl)
    rw [none]
    exact ⟨by simp, _, fun name => rfl, Status.readFrom_nothing⟩
  · obtain ⟨given', found, alike⟩ := same.obj
    cases there : field? "status" fields with
    | none =>
        rw [there] at found
        cases found
    | some j =>
        rw [there] at found reads
        obtain rfl : j = .obj given' := found
        have given : Json.obj given' ≠ .null := by simp
        obtain ⟨status, decodes, same⟩ := (readsOptional_some given).mp reads
        rw [same]
        exact ⟨by simp, _, alike, Status.readFrom_of_ofJson? decodes⟩

/-- A status is read in one way. -/
theorem ReadAs.unique {status : Json} {seen seen' : Option Status} (reads : ReadAs status seen)
    (reads' : ReadAs status seen') : seen = seen' := by
  obtain ⟨absent, get, found, fields⟩ := reads
  obtain ⟨absent', get', found', fields'⟩ := reads'
  have same : seen.getD {} = seen'.getD {} :=
    fields.unique fields' fun name => (found name).trans (found' name).symm
  cases seen with
  | none => rw [absent'.mpr (absent.mp rfl)]
  | some x =>
      cases seen' with
      | none => cases absent.mpr (absent'.mp rfl)
      | some y => exact congrArg some same

theorem ReadAs.isProper {status : Json} {seen : Status} (reads : ReadAs status (some seen)) :
    seen.IsProper := by
  obtain ⟨-, get, -, fields⟩ := reads
  exact fields.isProper

variable {key : Key} {good : Json → Prop} {status : Json} {α : Type}

/-- The request changes no status. -/
def Harmless (key : Key) (request : Request) : Prop :=
  ∀ patch, Patches key request patch → patch.get? "status" = none

theorem serving_tolerates_harmless (start : good status) :
    (serving key good).Tolerates (· = status) (Harmless key) := by
  rintro _ request rfl harmless
  refine ⟨start, fun response status' serves => ?_⟩
  obtain same | ⟨patch, patches, same⟩ := serves.changes
  · exact same
  · rw [same, merged, harmless patch patches]

theorem asks_get {ofJson? : Json → Option α} {target : Except KubeError Net.RequestTarget} :
    (exchange ofJson? "GET" target .empty).Asks (Harmless key) := by
  cases target with
  | error error => exact Program.asks_done _
  | ok target =>
      refine (Program.asks_request ?_).map _
      rintro patch ⟨method, -, -⟩
      simp at method

theorem asks_merge {path : String} {patch : Json} (apart : patch.get? "status" = none) :
    (merge key path patch).Asks (Harmless key) := by
  unfold merge exchange
  split
  · exact Program.asks_done _
  · refine (Program.asks_request ?_).map _
    rintro other ⟨-, -, body⟩
    cases body
    exact apart

theorem asks_attemptAgain {Op : Type} {Answer : Op → Type} {kind : Op → Prop}
    {attempt : Program Op Answer (Except KubeError α)} (asks : attempt.Asks kind) (more : Nat) :
    (attemptAgain attempt more).Asks kind := by
  induction more with
  | zero => exact asks
  | succ more ih =>
      refine Program.Asks.bind asks fun result => ?_
      split
      · exact ih
      · exact Program.asks_done _

theorem asks_annotation {path name value : String} :
    (guardedPatch key path (annotationPatch name value)).Asks (Harmless key) := by
  refine asks_attemptAgain (Program.Asks.bind asks_get fun live => ?_) _
  cases live with
  | error error => exact Program.asks_done _
  | ok live => exact asks_merge rfl

theorem isNotFound_of_readTarget {error : KubeError} (missing : readTarget key = .error error) :
    error.isNotFound = false := by
  unfold readTarget targetOf at missing
  split at missing
  · cases missing
    rfl
  · cases parsed : Net.RequestTarget.ofText (objectPath key) with
    | ok target => rw [parsed] at missing; cases missing
    | error fault => rw [parsed] at missing; cases missing; rfl

/-- What is fetched is an object with the status that is kept, and it is there. -/
theorem fetch_keeps (start : good status) :
    (fetch key).Keeps (serving key good)
      (fun result status' => status' = status ∧
        (∀ object, result = .ok object →
          (∃ target, readTarget key = .ok target) ∧ ReadAs status object.status) ∧
        ∀ error, result = .error error → error.isNotFound = false) status := by
  unfold fetch exchange
  cases target : readTarget key with
  | error error =>
      refine Program.keeps_done.mpr ⟨rfl, ?_, ?_⟩
      · rintro object ⟨⟩
      · rintro _ ⟨⟩
        exact isNotFound_of_readTarget target
  | ok target' =>
      refine Program.keeps_map.mpr (Program.keeps_request.mpr ⟨start, fun response status' serves => ?_⟩)
      have isRead : IsRead key { method := "GET", target := target' } := ⟨rfl, target⟩
      obtain rfl : status' = status := by
        obtain same | ⟨patch, patches, -⟩ := serves.changes
        · exact same
        · simp [Patches] at patches
      refine ⟨rfl, fun object decoded => ⟨⟨target', rfl⟩, ?_⟩, fun error refused => ?_⟩
      · exact readAs_of_shows (serves.reads object isRead decoded) decoded
      · exact serves.finds error isRead refused

/-- The write of `next` was made when it succeeded, and was not when it met a conflict. -/
structure Wrote (status next : Json) (result : Except KubeError Object) (status' : Json) : Prop where
  either : status' = status ∨ status' = next
  made : ∀ object, result = .ok object → status' = next
  shown : ∀ object, result = .ok object →
    ∃ response, decode Object.ofJson? response = .ok object ∧ Shows response status'
  unmade : isConflict result = true → status' = status

theorem wrote_nothing {next : Json} (error : KubeError) : Wrote status next (.error error) status where
  either := .inl rfl
  made _ succeeds := by cases succeeds
  shown _ succeeds := by cases succeeds
  unmade _ := rfl

theorem merge_keeps {patch : Json} (start : good status) :
    (merge key (statusPath key) patch).Keeps (serving key good)
      (Wrote status (merged status patch)) status := by
  unfold merge exchange
  cases target : changeTarget key (statusPath key) with
  | error error => exact wrote_nothing error
  | ok target' =>
      refine Program.keeps_map.mpr (Program.keeps_request.mpr ⟨start, fun response status' serves => ?_⟩)
      have patches : Patches key
          { method := "PATCH", target := target',
            body := .json "application/merge-patch+json" patch } patch := ⟨rfl, target, rfl⟩
      refine ⟨?_, fun object decoded => (serves.accepts patch object patches decoded).1,
        fun object decoded => ⟨response, decoded, (serves.accepts patch object patches decoded).2⟩, ?_⟩
      · obtain same | ⟨other, ⟨-, -, body⟩, same⟩ := serves.changes
        · exact .inl same
        · cases body
          exact .inr same
      · intro conflict
        cases decoded : decode Object.ofJson? response with
        | ok object => rw [decoded] at conflict; cases conflict
        | error error => rw [decoded] at conflict; exact serves.rejects error decoded conflict

/-- Attempts that meet a conflict leave the status as the next attempt needs it. -/
theorem attemptAgain_keeps {next : Json} {attempt : Exchange (Except KubeError Object)}
    (once : attempt.Keeps (serving key good) (Wrote status next) status) (more : Nat) :
    (attemptAgain attempt more).Keeps (serving key good) (Wrote status next) status := by
  induction more with
  | zero => exact once
  | succ more ih =>
      refine Program.keeps_bind.mpr (once.mono fun result status' wrote => ?_)
      split
      · next conflict =>
          rw [wrote.unmade conflict]
          exact ih
      · exact wrote

theorem guardedPatch_keeps {fields : List (String × Json)} (start : good status) :
    (guardedPatch key (statusPath key) (statusPatch fields)).Keeps (serving key good)
      (Wrote status (mergePatch status (.obj fields))) status := by
  refine attemptAgain_keeps (Program.keeps_bind.mpr ?_) _
  refine (fetch_keeps start).mono fun live status' fetched => ?_
  obtain ⟨rfl, -, -⟩ := fetched
  cases live with
  | error error => exact wrote_nothing error
  | ok live => exact merge_keeps start

/-! ## Calls -/

/-- The call is about this object, or about none. -/
def Concerns (key : Key) : Call → Prop
  | .load k | .recordInstance k _ | .clearInstance k | .annotate k _ _ | .publishStatus k _ => k = key
  | .listStaticIps _ => True

/-- The status after a call that succeeds. -/
def statusAfter (status : Json) : Call → Json
  | .recordInstance _ checkpoint => mergePatch status (.obj (checkpointFields checkpoint))
  | .clearInstance _ => mergePatch status (.obj clearedFields)
  | .publishStatus _ published => mergePatch status (.obj (publishedFields published))
  | _ => status

instance (key : Key) : (call : Call) → Decidable (Concerns key call)
  | .load k | .recordInstance k _ | .clearInstance k | .annotate k _ _ | .publishStatus k _ =>
      inferInstanceAs (Decidable (k = key))
  | .listStaticIps _ => inferInstanceAs (Decidable True)

/-- What a call leaves: it has changed the status or not, and has when it succeeds. -/
def Leaves (status : Json) (call : Call) (reply : call.Reply) (status' : Json) : Prop :=
  (status' = status ∨ status' = statusAfter status call) ∧
    ∀ value, reply = .ok value → status' = statusAfter status call

theorem Wrote.leaves {next status' : Json} {result : Except KubeError Object}
    (wrote : Wrote status next result status') (context : String) :
    (status' = status ∨ status' = next) ∧
      ∀ value, inContext context (result.map fun _ => ()) = .ok value → status' = next := by
  refine ⟨wrote.either, fun value succeeds => ?_⟩
  cases result with
  | ok object => exact wrote.made object rfl
  | error error => cases succeeds

theorem perform_keeps {call : Call} (concerns : Concerns key call) (start : good status) :
    (perform call).Keeps (serving key good) (Leaves status call) status := by
  have harmless : ∀ {β : Type} {p : Exchange β} {f : β → call.Reply}, p.Asks (Harmless key) →
      statusAfter status call = status →
      (f <$> p).Keeps (serving key good) (Leaves status call) status := by
    intro β p f asks same
    refine ((asks.map f).keeps (serving_tolerates_harmless start) rfl).mono fun reply status' kept => ?_
    exact ⟨.inl kept, fun _ _ => kept.trans same.symm⟩
  cases call with
  | load k => exact harmless asks_get rfl
  | annotate k name value =>
      cases concerns
      exact harmless asks_annotation rfl
  | listStaticIps namespace_ => exact harmless asks_get rfl
  | recordInstance k checkpoint =>
      cases concerns
      refine Program.keeps_map.mpr ((guardedPatch_keeps start).mono fun result status' wrote => ?_)
      exact wrote.leaves _
  | clearInstance k =>
      cases concerns
      refine Program.keeps_map.mpr ((guardedPatch_keeps start).mono fun result status' wrote => ?_)
      exact wrote.leaves _
  | publishStatus k published =>
      cases concerns
      refine Program.keeps_map.mpr ((merge_keeps start).mono fun result status' wrote => ?_)
      exact wrote.leaves _

/-- What is loaded of an object with this status. -/
structure Loaded (key : Key) (status : Json) (saved : Saved) : Prop where
  addressed : ∃ target, readTarget key = .ok target
  status : ReadAs status saved.status
  checkpoint : saved.checkpoint = saved.status.bind checkpointOf

theorem load_keeps (start : good status) :
    (perform (.load key)).Keeps (serving key good)
      (fun reply status' => status' = status ∧ ∀ saved, reply = .ok saved → Loaded key status saved)
      status := by
  refine Program.keeps_map.mpr ((fetch_keeps start).mono fun result status' fetched => ?_)
  obtain ⟨same, shown, found⟩ := fetched
  refine ⟨same, fun saved loads => ?_⟩
  cases result with
  | ok object =>
      cases loads
      obtain ⟨addressed, reads⟩ := shown object rfl
      exact ⟨addressed, reads, rfl⟩
  | error error =>
      -- Only an object that is missing loads as nothing, and this one is there.
      change loaded key (.error error) = .ok saved at loads
      simp only [loaded, found error rfl] at loads
      cases loads

/-- The call is answered, and the status goes from one to the other. -/
def Yields (key : Key) (status : Json) (call : Call) (reply : call.Reply) (status' : Json) : Prop :=
  ∃ exchanges, Program.Trace (perform call) exchanges reply ∧
    (serving key fun _ => True).Follows status exchanges status'

/-- The call is broken off between two of its requests, or before or after all of them. -/
def Breaks (key : Key) (status : Json) (call : Call) (status' : Json) : Prop :=
  ∃ exchanges, Program.Part (perform call) exchanges ∧
    (serving key fun _ => True).Follows status exchanges status'

variable {status' : Json} {call : Call}

theorem Yields.leaves {reply : call.Reply} (yields : Yields key status call reply status')
    (concerns : Concerns key call) : Leaves status call reply status' := by
  obtain ⟨exchanges, trace, follows⟩ := yields
  exact (perform_keeps concerns trivial).follow trace follows

theorem Breaks.either (breaks : Breaks key status call status') (concerns : Concerns key call) :
    status' = status ∨ status' = statusAfter status call := by
  obtain ⟨exchanges, part, follows⟩ := breaks
  -- A call makes its requests in one of the two statuses, so it leaves one of them where it stops.
  have kept : (perform call).Keeps (serving key fun s => s = status ∨ s = statusAfter status call)
      (Leaves status call) status := perform_keeps concerns (.inl rfl)
  obtain ⟨request, allowed⟩ | ⟨reply, leaves⟩ := kept.stop part (follows.view id fun _ _ _ _ => id)
  · exact allowed
  · exact leaves.1

/-- What is loaded is read from the status, which stays. -/
theorem Yields.loads {saved : Saved} (yields : Yields key status (.load key) (.ok saved) status') :
    status' = status ∧ Loaded key status saved := by
  obtain ⟨exchanges, trace, follows⟩ := yields
  obtain ⟨same, loads⟩ := (load_keeps trivial).follow trace follows
  exact ⟨same, loads saved rfl⟩

/-! ## Calls that succeed -/

variable {target target' : Net.RequestTarget} {saved : Saved} {response response' : Response}
  {object object' : Object} {patch : Json}

theorem serves_read (decoded : decode Object.ofJson? response = .ok object)
    (shown : Shows response status) :
    Serves key status { method := "GET", target } response status where
  changes := .inl rfl
  accepts := by
    rintro patch _ ⟨method, -, -⟩ _
    simp at method
  rejects _ _ _ := rfl
  reads _ _ _ := shown
  finds error _ refused := by
    rw [decoded] at refused
    cases refused

theorem serves_patch (found : changeTarget key (statusPath key) = .ok target)
    (decoded : decode Object.ofJson? response = .ok object)
    (shown : Shows response (merged status patch)) :
    Serves key status
      { method := "PATCH", target, body := .json "application/merge-patch+json" patch } response
      (merged status patch) where
  changes := .inr ⟨patch, ⟨rfl, found, rfl⟩, rfl⟩
  accepts := by
    rintro other _ ⟨-, -, body⟩ _
    cases body
    exact ⟨rfl, shown⟩
  rejects error refused := by
    rw [decoded] at refused
    cases refused
  reads _ read := by simp [IsRead] at read
  finds _ read := by simp [IsRead] at read

/-- An answer with this status, of which this is loaded. -/
def Gives (response : Response) (status : Json) (saved : Saved) : Prop :=
  Shows response status ∧ (decode Object.ofJson? response).map savedIn = .ok saved

theorem Gives.decodes (gives : Gives response status saved) :
    ∃ object, decode Object.ofJson? response = .ok object ∧ savedIn object = saved := by
  obtain ⟨-, decoded⟩ := gives
  cases answer : decode Object.ofJson? response with
  | error error => rw [answer] at decoded; cases decoded
  | ok object =>
      rw [answer] at decoded
      cases decoded
      exact ⟨object, rfl, rfl⟩

theorem yields_load (found : readTarget key = .ok target) (gives : Gives response status saved) :
    Yields key status (.load key) (.ok saved) status := by
  obtain ⟨object, decoded, rfl⟩ := gives.decodes
  refine ⟨[⟨{ method := "GET", target }, response⟩], ?_,
    status, serves_read decoded gives.1, rfl⟩
  have answered := (trace_exchange Object.ofJson? "GET" .empty found response).map (loaded key)
  rwa [decoded] at answered

theorem yields_publish {published : Status}
    (found : changeTarget key (statusPath key) = .ok target)
    (gives : Gives response (statusAfter status (.publishStatus key published)) saved) :
    Yields key status (.publishStatus key published) (.ok ())
      (statusAfter status (.publishStatus key published)) := by
  obtain ⟨object, decoded, -⟩ := gives.decodes
  let patch := Json.obj [("status", .obj (publishedFields published))]
  let body := Http.Body.json "application/merge-patch+json" patch
  have served : Serves key status { method := "PATCH", target, body } response
      (statusAfter status (.publishStatus key published)) := by
    exact @serves_patch key status target response object patch found decoded gives.1
  refine ⟨[⟨{ method := "PATCH", target, body }, response⟩], ?_, _, served, rfl⟩
  have answered := (trace_exchange Object.ofJson? "PATCH" body found response).map
    fun r => inContext ("publish status of " ++ key.toText) (r.map fun _ => ())
  rwa [decoded] at answered

section

variable {saved' : Saved} (readable : readTarget key = .ok target)
  (writable : changeTarget key (statusPath key) = .ok target')
  (live : Gives response status saved)

include readable writable live

theorem guardedPatch_served {fields : List (String × Json)}
    (gives : Gives response' (mergePatch status (.obj fields)) saved') :
    ∃ exchanges object, Program.Trace
        (guardedPatch key (statusPath key) (statusPatch fields)) exchanges (.ok object) ∧
      (serving key fun _ => True).Follows status exchanges (mergePatch status (.obj fields)) := by
  obtain ⟨object, decoded, -⟩ := live.decodes
  obtain ⟨object', decoded', -⟩ := gives.decodes
  let patch := statusPatch fields (Json.ofOption .str object.metadata.resourceVersion)
  have served : Serves key status
      { method := "PATCH", target := target', body := .json "application/merge-patch+json" patch }
      response' (mergePatch status (.obj fields)) :=
    @serves_patch key status target' response' object' patch writable decoded' gives.1
  have once : Program.Trace (patchOnce key (statusPath key) (statusPatch fields)) _ (.ok object') :=
    decoded' ▸ trace_patchOnce readable writable decoded response'
  refine ⟨_, object', trace_attemptAgain_last once (.inl rfl), status, serves_read decoded live.1, _,
    served, rfl⟩

theorem yields_record {checkpoint : Checkpoint}
    (gives : Gives response' (statusAfter status (.recordInstance key checkpoint)) saved') :
    Yields key status (.recordInstance key checkpoint) (.ok ())
      (statusAfter status (.recordInstance key checkpoint)) := by
  obtain ⟨exchanges, object, trace, follows⟩ := guardedPatch_served readable writable live gives
  exact ⟨exchanges, trace.map _, follows⟩

theorem yields_clear
    (gives : Gives response' (statusAfter status (.clearInstance key)) saved') :
    Yields key status (.clearInstance key) (.ok ()) (statusAfter status (.clearInstance key)) := by
  obtain ⟨exchanges, object, trace, follows⟩ := guardedPatch_served readable writable live gives
  exact ⟨exchanges, trace.map _, follows⟩

end

/-- What was published can be loaded: the answer to the one shows the other. -/
theorem Yields.reload {published : Status}
    (yields : Yields key status (.publishStatus key published) (.ok ()) status')
    (found : readTarget key = .ok target) :
    ∃ saved, Yields key status' (.load key) (.ok saved) status' := by
  have shows' : (perform (.publishStatus key published)).Keeps (serving key fun _ => True)
      (fun reply status' => reply = .ok () →
        ∃ response object, decode Object.ofJson? response = .ok object ∧ Shows response status')
      status := by
    refine Program.keeps_map.mpr ((merge_keeps trivial).mono fun result status' wrote succeeds => ?_)
    cases result with
    | error error => cases succeeds
    | ok object =>
        obtain ⟨response, decoded, shown⟩ := wrote.shown object rfl
        exact ⟨response, object, decoded, shown⟩
  obtain ⟨exchanges, trace, follows⟩ := yields
  obtain ⟨response, object, decoded, shown⟩ := shows'.follow trace follows rfl
  exact ⟨savedIn object, yields_load found ⟨shown, by rw [decoded]; rfl⟩⟩

/-- An object of which only the status matters. -/
def document (status : Json) : Json :=
  .obj [("metadata", .obj []), ("spec", .obj [("minCpu", .int 1), ("minMemoryMib", .int 1)]),
    ("status", status)]

def showing (status : Json) : Response := ⟨200, (document status).compact⟩

/-- The document of an object with this status can be read, and this is loaded of it. -/
def Legible (status : Json) (saved : Saved) : Prop :=
  let shown := (document status).canonical
  readChars? (write shown) = some shown ∧ Same ((shown.get? "status").getD .null) status ∧
    shown = .obj shown.fields ∧ (status = .null ∨ status = .obj status.fields) ∧
    (Object.ofJson? shown).map savedIn = some saved

instance (status : Json) (saved : Saved) : Decidable (Legible status saved) :=
  inferInstanceAs (Decidable (_ ∧ _))

theorem gives_showing (legible : Legible status saved) : Gives (showing status) status saved := by
  obtain ⟨read, same, shape, form, decoded⟩ := legible
  have reads : Json.read? (showing status).body = some (document status).canonical := by
    rw [showing, Json.read?, Json.compact, String.toList_ofList]
    exact read
  refine ⟨⟨_, Option.mem_def.mpr reads, shape, same, form⟩, ?_⟩
  obtain ⟨object, found, rfl⟩ := Option.map_eq_some_iff.mp decoded
  have fine : Http.isErrorStatus (showing status).status = false := rfl
  simp [decode, fine, reads, found, Except.map]

end MachineProvisioning.Store.Kubernetes
