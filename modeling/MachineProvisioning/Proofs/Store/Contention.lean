import MachineProvisioning.Proofs.Store.Attempts
import MachineProvisioning.Proofs.Store.Publication

/-! # Writes against other writers

The API server keeps a document with a version. It refuses a patch for another version than the one
that it keeps with a conflict, applies any other patch and changes the version. Between any two
requests of a call other clients may write. A guarded call that succeeds has applied its patch once, to
the version that it read, and one that meets conflicts only has applied nothing.
-/

namespace MachineProvisioning.Store.Kubernetes.Contention

open Json
open Http (Response)
open Net (RequestTarget)
open Resource (Key Object)

def versionPath : List String := ["metadata", "resourceVersion"]

/-- The document has this version. -/
def At (document : Json) (version : String) : Prop := at? versionPath document = some (.str version)

def stamp (version : String) : Json := .obj [("metadata", .obj [("resourceVersion", .str version)])]

/-- A patch has been applied to a document, which has another version then. -/
def Applied (document patch document' : Json) : Prop :=
  ∃ version, ¬ At document version ∧
    document' = mergePatch (mergePatch document patch) (stamp version)

theorem at_stamp (document : Json) (version : String) :
    At (mergePatch document (stamp version)) version := by
  have outer : ([("metadata", Json.obj [("resourceVersion", .str version)])].map Prod.fst).Nodup := by
    simp
  have inner : ([("resourceVersion", Json.str version)].map Prod.fst).Nodup := by simp
  simp only [At, versionPath, at?, stamp, get?_mergePatch outer, field?_cons, field?_nil,
    Option.none_or, if_true, mergeField, Option.bind_some, get?_mergePatch inner]
  rfl

theorem Applied.versioned {document patch document' : Json} (applied : Applied document patch document') :
    ∃ version, At document' version := by
  obtain ⟨version, -, rfl⟩ := applied
  exact ⟨version, at_stamp _ version⟩

/-- The request merges a patch at the object or at its status. -/
def Merges (key : Key) (request : Request) (patch : Json) : Prop :=
  request.method = "PATCH" ∧
    (changeTarget key (objectPath key) = .ok request.target ∨
      changeTarget key (statusPath key) = .ok request.target) ∧
    request.body = .json "application/merge-patch+json" patch

/-- The body is what the API server writes for this document, and can be read as it. -/
def Shows (text : Json → String) (document : Json) (response : Response) : Prop :=
  response.body = text document ∧ ∃ shown ∈ Json.read? response.body, Same shown document

/-- How the API server answers a request about an object that is there. -/
structure Answers (text : Json → String) (key : Key) (document : Json) (request : Request)
    (response : Response) (document' : Json) : Prop where
  changes : document' = document ∨
    ∃ patch, Merges key request patch ∧ Applied document patch document'
  refuses : ∀ patch, Merges key request patch → at? versionPath patch ≠ at? versionPath document →
    isConflict (decode Object.ofJson? response) = true
  accepts : ∀ patch, Merges key request patch → Http.isErrorStatus response.status = false →
    Applied document patch document' ∧ Shows text document' response
  rejects : isConflict (decode Object.ofJson? response) = true → document' = document
  reads : IsRead key request → Http.isErrorStatus response.status = false →
    Shows text document response

/-- A request of the call that is looked at, or a write of another client. -/
structure Step where
  before : Json
  exchange : Option Answered
  after : Json

/-- Another client leaves any document, at another version. -/
def Step.Valid (text : Json → String) (key : Key) (step : Step) : Prop :=
  match step.exchange with
  | some ⟨request, response⟩ => Answers text key step.before request response step.after
  | none => (∃ version, At step.after version) ∧
      at? versionPath step.after ≠ at? versionPath step.before

/-- The steps lead from one document to the other. -/
def Evolves (text : Json → String) (key : Key) : Json → List Step → Json → Prop
  | document, [], document' => document' = document
  | document, step :: rest, document' =>
      step.before = document ∧ step.Valid text key ∧ Evolves text key step.after rest document'

/-- The requests of the call, with their answers. -/
def own (steps : List Step) : List Answered := steps.filterMap Step.exchange

variable {text : Json → String} {key : Key} {document document' : Json} {steps first rest : List Step}
  {step : Step}

theorem evolves_append : Evolves text key document (first ++ rest) document' ↔
    ∃ between, Evolves text key document first between ∧ Evolves text key between rest document' := by
  induction first generalizing document with
  | nil => simp [Evolves]
  | cons step first ih =>
      simp only [List.cons_append, Evolves, ih]
      constructor
      · rintro ⟨start, valid, between, here, there⟩
        exact ⟨between, ⟨start, valid, here⟩, there⟩
      · rintro ⟨between, ⟨start, valid, here⟩, there⟩
        exact ⟨start, valid, between, here, there⟩

/-- What leads to two of the steps, from one to the other, and away from them. -/
theorem Evolves.around {read write : Step} {between : List Step}
    (evolves : Evolves text key document (first ++ read :: (between ++ write :: rest)) document') :
    Evolves text key document first read.before ∧ Evolves text key read.after between write.before ∧
      Evolves text key write.after rest document' := by
  obtain ⟨_, before, rfl, -, evolves⟩ := evolves_append.mp evolves
  obtain ⟨_, between, rfl, -, after⟩ := evolves_append.mp evolves
  exact ⟨before, between, after⟩

theorem Evolves.valid (evolves : Evolves text key document steps document') (mem : step ∈ steps) :
    step.Valid text key := by
  induction steps generalizing document with
  | nil => cases mem
  | cons head rest ih =>
      obtain ⟨-, valid, evolves⟩ := evolves
      cases mem with
      | head => exact valid
      | tail _ mem => exact ih evolves mem

/-- Steps that lead elsewhere lead there with the last of them. -/
theorem Evolves.last (evolves : Evolves text key document steps document') :
    (steps = [] ∧ document' = document) ∨ ∃ step ∈ steps, step.after = document' := by
  induction steps generalizing document with
  | nil => exact .inl ⟨rfl, evolves⟩
  | cons head rest ih =>
      obtain ⟨-, -, evolves⟩ := evolves
      rcases ih evolves with ⟨rfl, same⟩ | ⟨step, mem, ends⟩
      · exact .inr ⟨head, .head _, same.symm⟩
      · exact .inr ⟨step, .tail _ mem, ends⟩

theorem Step.Valid.versioned (valid : step.Valid text key) (start : ∃ version, At step.before version) :
    ∃ version, At step.after version := by
  unfold Step.Valid at valid
  split at valid
  · next request response same =>
      rcases valid.changes with unchanged | ⟨patch, -, applied⟩
      · exact unchanged ▸ start
      · exact applied.versioned
  · exact valid.1

theorem Evolves.versioned (evolves : Evolves text key document steps document')
    (start : ∃ version, At document version) : ∃ version, At document' version := by
  induction steps generalizing document with
  | nil => exact evolves ▸ start
  | cons step rest ih =>
      obtain ⟨rfl, valid, evolves⟩ := evolves
      exact ih evolves (valid.versioned start)

theorem Step.Valid.answers {exchange : Answered} (valid : step.Valid text key)
    (here : step.exchange = some exchange) :
    Answers text key step.before exchange.1 exchange.2 step.after := by
  unfold Step.Valid at valid
  rw [here] at valid
  exact valid

/-- A request that reads, or that meets a conflict, changes nothing. -/
theorem Step.Valid.quiet {exchange : Answered} (valid : step.Valid text key)
    (here : step.exchange = some exchange)
    (harmless : exchange.1.method = "GET" ∨ isConflict (decode Object.ofJson? exchange.2) = true) :
    step.after = step.before := by
  have answers := valid.answers here
  rcases harmless with reads | conflict
  · rcases answers.changes with same | ⟨patch, ⟨method, -⟩, -⟩
    · exact same
    · rw [reads] at method
      simp at method
  · exact answers.rejects conflict

theorem mem_own {exchange : Answered} (mem : step ∈ steps) (here : step.exchange = some exchange) :
    exchange ∈ own steps :=
  List.mem_filterMap.mpr ⟨step, mem, here⟩

theorem foreign_of_own_nil (silent : own steps = []) : ∀ step ∈ steps, step.exchange = none :=
  List.filterMap_eq_nil_iff.mp silent

/-- The steps are cut at the last two requests of the call. -/
theorem cut_of_own {failed : List Answered} {asks writes : Answered}
    (exchanges : own steps = failed ++ [asks, writes]) :
    ∃ first read between write rest, steps = first ++ read :: (between ++ write :: rest) ∧
      (∀ step ∈ first, ∀ exchange, step.exchange = some exchange → exchange ∈ failed) ∧
      read.exchange = some asks ∧ write.exchange = some writes ∧
      ∀ step ∈ between ++ rest, step.exchange = none := by
  obtain ⟨early, tail, rfl, before, after⟩ := List.filterMap_eq_append_iff.mp exchanges
  obtain ⟨idle, read, tail, rfl, silent, here, after⟩ := List.filterMap_eq_cons_iff.mp after
  obtain ⟨between, write, rest, rfl, foreign, there, after⟩ := List.filterMap_eq_cons_iff.mp after
  refine ⟨early ++ idle, read, between, write, rest, by simp, ?_, here, there,
    List.forall_mem_append.mpr ⟨foreign, foreign_of_own_nil after⟩⟩
  intro step mem exchange asked
  rcases List.mem_append.mp mem with mem | mem
  · exact before ▸ mem_own mem asked
  · rw [silent step mem] at asked
    cases asked

theorem shown_of_decoded {response : Response} {object : Object}
    (shows' : Shows text document response) (decoded : decode Object.ofJson? response = .ok object) :
    ∃ shown, Json.read? response.body = some shown ∧ Same shown document ∧
      Object.ofJson? shown = some object := by
  obtain ⟨-, shown, read, same⟩ := shows'
  refine ⟨shown, read, same, ?_⟩
  unfold decode at decoded
  rw [Option.mem_def.mp read] at decoded
  split at decoded
  · cases decoded
  · split at decoded
    · next found =>
        cases decoded
        exact found
    · cases decoded

/-- The object that is read of a document has the version of the document. -/
theorem version_of_shows {response : Response} {object : Object} {version : String}
    (shows' : Shows text document response) (decoded : decode Object.ofJson? response = .ok object)
    (here : At document version) : object.metadata.resourceVersion = some version := by
  obtain ⟨shown, -, same, reads⟩ := shown_of_decoded shows' decoded
  have found := same.at? versionPath
  rw [here] at found
  cases shown with
  | obj fields =>
      have metadata := Object.metadata_of_ofJson? reads
      obtain ⟨given, there, decodes⟩ := Option.bind_eq_some_iff.mp metadata
      simp only [versionPath, at?, Json.get?, there, Option.bind_some, Option.bind_fun_some] at found
      exact (text_of_readsOptional found (Resource.Metadata.resourceVersion_of_ofJson? decodes)).symm
  | _ => cases found

/-! ## Guarded calls -/

/-- The call writes about this object, against the version that it reads. -/
def Guarded (key : Key) : Call → Prop
  | .recordInstance k _ | .clearInstance k | .annotate k _ _ => k = key
  | _ => False

/-- What the call patches. -/
def pathOf (key : Key) : Call → String
  | .annotate _ _ _ => objectPath key
  | _ => statusPath key

/-- The patch of the call against a version. -/
def patchOf (call : Call) (version : Json) : Json :=
  match call with
  | .recordInstance _ checkpoint => statusPatch (checkpointFields checkpoint) version
  | .clearInstance _ => statusPatch clearedFields version
  | .annotate _ name value => annotationPatch name value version
  | _ => .null

/-- The fields that the call writes. -/
def namedFields : Call → List (List String)
  | .recordInstance _ _ =>
      [["status", "instanceId"], ["status", "providerId"], ["status", "failureDomain"],
        ["status", "hostname"]]
  | .clearInstance _ => [["status", "instanceId"], ["status", "providerId"]]
  | .annotate _ name _ => [["metadata", "annotations", name]]
  | _ => []

/-- Neither path leads to the other. -/
def Unrelated (path other : List String) : Prop := ¬ path <+: other ∧ ¬ other <+: path

variable {call : Call} {exchanges : List Answered}

/-- A guarded patch fails with a persistence error, and only where the patch itself fails. -/
theorem guardedPatch_of_inContext {path context : String} {patch : Json → Json}
    {reply : Except Failure Unit}
    (trace : Program.Trace ((fun r => inContext context (r.map fun _ => ())) <$>
      guardedPatch key path patch) exchanges reply) :
    ∃ result, Program.Trace (guardedPatch key path patch) exchanges result ∧
      (∀ value, reply = .ok value → ∃ object, result = .ok object) ∧
      (∀ error, result = .error error → ∃ message, reply = .error (.persistence message)) := by
  obtain ⟨result, once, rfl⟩ := Program.Trace.of_map trace
  refine ⟨result, once, fun value succeeds => ?_, fun error failed => ?_⟩
  · cases result with
    | ok object => exact ⟨object, rfl⟩
    | error error => cases succeeds
  · subst failed
    exact ⟨_, rfl⟩

theorem guardedPatch_of_perform {reply : call.Reply} (guarded : Guarded key call)
    (trace : Program.Trace (perform call) exchanges reply) :
    ∃ result, Program.Trace (guardedPatch key (pathOf key call) (patchOf call)) exchanges result ∧
      (∀ value, reply = .ok value → ∃ object, result = .ok object) ∧
      (∀ error, result = .error error → ∃ message, reply = .error (.persistence message)) := by
  cases call with
  | recordInstance k checkpoint =>
      cases guarded
      exact guardedPatch_of_inContext trace
  | clearInstance k =>
      cases guarded
      exact guardedPatch_of_inContext trace
  | annotate k name value =>
      cases guarded
      exact guardedPatch_of_inContext trace
  | _ => exact guarded.elim

theorem unrelated_cons {name : String} {path other : List String} :
    Unrelated (name :: path) (name :: other) ↔ Unrelated path other := by
  simp [Unrelated, List.cons_prefix_cons]

/-- Fields apart from all those of a patch are missed by it. -/
theorem misses_flat {fields : List (String × Json)} {path : List String}
    (unique : (fields.map Prod.fst).Nodup) (nonempty : fields ≠ [])
    (apart : ∀ name ∈ fields.map Prod.fst, Unrelated path [name]) : Misses path (.obj fields) := by
  cases path with
  | nil =>
      obtain ⟨field, mem⟩ := List.exists_mem_of_ne_nil _ nonempty
      exact absurd List.nil_prefix (apart _ (List.mem_map_of_mem mem)).1
  | cons name rest =>
      refine ⟨unique, fun value found => ?_⟩
      have absent : name ∉ fields.map Prod.fst := fun mem => (apart name mem).2 (by simp)
      rw [field?_eq_none absent] at found
      cases found

theorem misses_stamp {path : List String} (version : String) (apart : Unrelated path versionPath) :
    Misses path (stamp version) := by
  cases path with
  | nil => exact absurd List.nil_prefix apart.1
  | cons name rest =>
      refine ⟨by simp, fun value found => ?_⟩
      simp only [field?_cons, field?_nil, Option.none_or, Option.mem_def] at found
      split at found
      · next same =>
          subst same
          cases found
          exact misses_flat (by simp) (by simp) (by simpa using unrelated_cons.mp apart)
      · cases found

theorem misses_statusPatch {fields : List (String × Json)} {path : List String} (version : Json)
    (unique : (fields.map Prod.fst).Nodup) (nonempty : fields ≠ [])
    (apart : Unrelated path versionPath)
    (others : ∀ name ∈ fields.map Prod.fst, Unrelated path ["status", name]) :
    Misses path (statusPatch fields version) := by
  cases path with
  | nil => exact absurd List.nil_prefix apart.1
  | cons name rest =>
      refine ⟨by simp, fun value found => ?_⟩
      simp only [field?_cons, field?_nil, Option.none_or, Option.mem_def] at found
      by_cases status : "status" = name
      · subst status
        cases found
        exact misses_flat unique nonempty fun name mem => unrelated_cons.mp (others name mem)
      · by_cases metadata : "metadata" = name
        · subst metadata
          cases found
          exact misses_flat (by simp) (by simp) (by simpa using unrelated_cons.mp apart)
        · simp [status, metadata] at found

theorem misses_annotationPatch {path : List String} (name value : String) (version : Json)
    (apart : Unrelated path versionPath)
    (other : Unrelated path ["metadata", "annotations", name]) :
    Misses path (annotationPatch name value version) := by
  cases path with
  | nil => exact absurd List.nil_prefix apart.1
  | cons outer rest =>
      refine ⟨by simp, fun inner found => ?_⟩
      simp only [field?_cons, field?_nil, Option.none_or, Option.mem_def] at found
      split at found
      · next same =>
          subst same
          cases found
          have version := unrelated_cons.mp apart
          have annotation := unrelated_cons.mp other
          cases rest with
          | nil => exact absurd List.nil_prefix version.1
          | cons middle rest =>
              refine ⟨by simp, fun written found => ?_⟩
              simp only [field?_cons, field?_nil, Option.none_or, Option.mem_def] at found
              by_cases annotations : "annotations" = middle
              · subst annotations
                cases found
                exact misses_flat (by simp) (by simp) (by simpa using unrelated_cons.mp annotation)
              · by_cases versions : "resourceVersion" = middle
                · subst versions
                  exact absurd (by simp) version.2
                · simp [annotations, versions] at found
      · cases found

/-- A patch that is applied leaves every field that it does not name. -/
theorem untouched {path : List String} {version : Json} (guarded : Guarded key call)
    (apart : ∀ other ∈ versionPath :: namedFields call, Unrelated path other)
    (applied : Applied document (patchOf call version) document') :
    at? path document' = at? path document := by
  obtain ⟨next, -, rfl⟩ := applied
  rw [at?_mergePatch (misses_stamp next (apart _ (.head _)))]
  refine at?_mergePatch ?_
  cases call with
  | recordInstance k checkpoint =>
      refine misses_statusPatch version (by simp [checkpointFields]) (by simp [checkpointFields])
        (apart _ (.head _)) fun name mem => apart _ ?_
      simp only [checkpointFields, List.map_cons, List.map_nil, List.mem_cons, List.not_mem_nil, or_false] at mem
      rcases mem with rfl | rfl | rfl | rfl <;> simp [namedFields]
  | clearInstance k =>
      refine misses_statusPatch version (by decide) (by decide)
        (apart _ (.head _)) fun name mem => apart _ ?_
      simp only [clearedFields, List.map_cons, List.map_nil, List.mem_cons, List.not_mem_nil, or_false] at mem
      rcases mem with rfl | rfl <;> simp [namedFields]
  | annotate k name value =>
      exact misses_annotationPatch name value version (apart _ (.head _)) (apart _ (.tail _ (.head _)))
  | _ => exact guarded.elim

/-! ## A call that succeeds -/

/-- The steps around the write of a call: it wrote once, to the version that it read just before. -/
structure Lands (key : Key) (call : Call) (first : List Step) (read : Step) (between : List Step)
    (write : Step) (rest : List Step) : Prop where
  /-- What the call had asked before changed nothing. -/
  quiet : ∀ step ∈ first, step.exchange ≠ none → step.after = step.before
  foreign : ∀ step ∈ between ++ rest, step.exchange = none
  reads : ∃ response, (∃ target, readTarget key = .ok target ∧
    read.exchange = some ⟨readRequest target, response⟩) ∧ read.after = read.before
  writes : ∃ version response target, At read.before version ∧ At write.before version ∧
    write.exchange = some ⟨mergeRequest target (patchOf call (.str version)), response⟩ ∧
    Applied write.before (patchOf call (.str version)) write.after
  untouched : ∀ path, (∀ other ∈ versionPath :: namedFields call, Unrelated path other) →
    at? path write.after = at? path write.before
  /-- Nobody else wrote in between, unless the version came back. -/
  undisturbed : between = [] ∨ ∃ step ∈ between, at? versionPath step.after = at? versionPath read.before

theorem at_patchOf (guarded : Guarded key call) (version : Json) :
    at? versionPath (patchOf call version) = some version := by
  cases call with
  | recordInstance k checkpoint => rfl
  | clearInstance k => rfl
  | annotate k name value => rfl
  | _ => exact guarded.elim

theorem conflicts_quiet {path : String} {patch : Json → Json} {n : Nat} {failed : List Answered}
    (conflicts : Conflicts (patchOnce key path patch) n failed) :
    ∀ exchange ∈ failed, exchange.1.method = "GET" ∨
      isConflict (decode Object.ofJson? exchange.2) = true := by
  induction conflicts with
  | none => simp
  | more trace conflict _ ih =>
      exact List.forall_mem_append.mpr ⟨(attempted_of_trace trace).refused conflict, ih⟩

theorem merges_of_change {target : RequestTarget} (patch : Json)
    (writable : changeTarget key (pathOf key call) = .ok target) :
    Merges key (mergeRequest target patch) patch := by
  refine ⟨rfl, ?_, rfl⟩
  cases call with
  | annotate k name value => exact .inl writable
  | _ => exact .inr writable

theorem isErrorStatus_of_decoded {response : Response} {object : Object}
    (decoded : decode Object.ofJson? response = .ok object) :
    Http.isErrorStatus response.status = false := by
  unfold decode at decoded
  split at decoded
  · cases decoded
  · next fine => simpa using fine

theorem lands_of_trace {object : Object} (guarded : Guarded key call)
    (start : ∃ version, At document version) (evolves : Evolves text key document steps document')
    (trace : Program.Trace (guardedPatch key (pathOf key call) (patchOf call)) (own steps)
      (.ok object)) :
    ∃ first read between write rest, steps = first ++ read :: (between ++ write :: rest) ∧
      Lands key call first read between write rest ∧
      ∃ response, Shows text write.after response ∧ decode Object.ofJson? response = .ok object := by
  obtain ⟨n, failed, last, exchanges, conflicts, attempt, -, -⟩ := conflicts_of_attemptAgain trace
  have attempted := attempted_of_trace attempt
  generalize succeeded : (.ok object : Except KubeError Object) = result at attempted
  cases attempted with
  | unsent => cases succeeded
  | unread => cases succeeded
  | unpatched => cases succeeded
  | @patched target target' response response' live readable read writable =>
  obtain ⟨first, reading, between, writing, rest, rfl, early, reads, writes, foreign⟩ :=
    cut_of_own exchanges
  have valid : ∀ step ∈ first ++ reading :: (between ++ writing :: rest), step.Valid text key :=
    fun step mem => evolves.valid mem
  obtain ⟨before, meanwhile, -⟩ := evolves.around
  obtain ⟨version, here⟩ := before.versioned start
  have writeAnswers := (valid writing (by simp)).answers writes
  have kept : reading.after = reading.before := (valid reading (by simp)).quiet reads (.inl rfl)
  have shown := ((valid reading (by simp)).answers reads).reads ⟨rfl, readable⟩
    (isErrorStatus_of_decoded read)
  rw [version_of_shows shown read here] at writes writeAnswers
  have merges := merges_of_change (patchOf call (.str version)) writable
  have current : At writing.before version := by
    by_contra stale
    have refused := writeAnswers.refuses _ merges fun same =>
      stale (same.symm.trans (at_patchOf guarded _))
    rw [← succeeded] at refused
    cases refused
  obtain ⟨applied, shown'⟩ := writeAnswers.accepts _ merges (isErrorStatus_of_decoded succeeded.symm)
  refine ⟨first, reading, between, writing, rest, rfl, ?_, response', shown', rfl⟩
  constructor
  · intro step mem asked
    obtain ⟨exchange, here⟩ := Option.ne_none_iff_exists'.mp asked
    exact (valid step (by simp [mem])).quiet here
      (conflicts_quiet conflicts exchange (early step mem exchange here))
  · exact foreign
  · exact ⟨response, ⟨target, readable, reads⟩, kept⟩
  · exact ⟨version, response', target', here, current, writes, applied⟩
  · exact fun path apart => untouched guarded apart applied
  · refine meanwhile.last.imp And.left ?_
    rintro ⟨step, mem, ends⟩
    exact ⟨step, mem, by rw [ends, current, here]⟩

/-! ## A call that meets conflicts only -/

/-- The number of requests made with a method. -/
def asked (method : String) (exchanges : List Answered) : Nat :=
  exchanges.countP fun exchange => exchange.1.method = method

variable {path : String} {patch : Json → Json} {result : Except KubeError Object}

/-- Only an object and a status with targets are patched. -/
theorem targets_of_attempted (attempted : Attempted key path patch exchanges result)
    (patched : ∃ exchange ∈ exchanges, exchange.1.method = "PATCH") :
    (∃ target, readTarget key = .ok target) ∧ ∃ target, changeTarget key path = .ok target := by
  obtain ⟨exchange, mem, method⟩ := patched
  cases attempted with
  | unsent => cases mem
  | unread =>
      cases List.mem_singleton.mp mem
      simp [readRequest] at method
  | unpatched =>
      cases List.mem_singleton.mp mem
      simp [readRequest] at method
  | patched readable _ writable => exact ⟨⟨_, readable⟩, _, writable⟩

theorem targets_of_conflicts {n : Nat} (conflicts : Conflicts (patchOnce key path patch) n exchanges)
    (patched : ∃ exchange ∈ exchanges, exchange.1.method = "PATCH") :
    (∃ target, readTarget key = .ok target) ∧ ∃ target, changeTarget key path = .ok target := by
  induction conflicts with
  | none =>
      obtain ⟨exchange, mem, -⟩ := patched
      cases mem
  | more trace _ _ ih =>
      obtain ⟨exchange, mem, method⟩ := patched
      rcases List.mem_append.mp mem with here | later
      · exact targets_of_attempted (attempted_of_trace trace) ⟨exchange, here, method⟩
      · exact ih ⟨exchange, later, method⟩

/-- Reads are answered with the object, and patches meet conflicts. -/
structure Refuses (exchanges : List Answered) : Prop where
  reads : ∀ exchange ∈ exchanges, exchange.1.method = "GET" →
    ∃ object, decode Object.ofJson? exchange.2 = .ok object
  patches : ∀ exchange ∈ exchanges, exchange.1.method = "PATCH" →
    isConflict (decode Object.ofJson? exchange.2) = true

theorem refuses_append {first rest : List Answered} :
    Refuses (first ++ rest) ↔ Refuses first ∧ Refuses rest := by
  constructor
  · rintro ⟨reads, patches⟩
    rw [List.forall_mem_append] at reads patches
    exact ⟨⟨reads.1, patches.1⟩, reads.2, patches.2⟩
  · rintro ⟨⟨reads, patches⟩, reads', patches'⟩
    exact ⟨List.forall_mem_append.mpr ⟨reads, reads'⟩,
      List.forall_mem_append.mpr ⟨patches, patches'⟩⟩

section

variable (readable : ∃ target, readTarget key = .ok target)
  (writable : ∃ target, changeTarget key path = .ok target) (refuses : Refuses exchanges)

include readable writable refuses

/-- An attempt whose patch meets a conflict reads once, patches once and ends in the conflict. -/
theorem asked_of_attempted (attempted : Attempted key path patch exchanges result) :
    isConflict result = true ∧ asked "GET" exchanges = 1 ∧ asked "PATCH" exchanges = 1 := by
  obtain ⟨target, readable⟩ := readable
  obtain ⟨target', writable⟩ := writable
  cases attempted with
  | unsent unnamed =>
      rw [readable] at unnamed
      cases unnamed
  | unread _ refused =>
      obtain ⟨object, read⟩ := refuses.reads _ (.head _) rfl
      rw [refused] at read
      cases read
  | unpatched _ _ unnamed =>
      rw [writable] at unnamed
      cases unnamed
  | patched => exact ⟨refuses.patches _ (.tail _ (.head _)) rfl, rfl, rfl⟩

theorem asked_of_conflicts {n : Nat} (conflicts : Conflicts (patchOnce key path patch) n exchanges) :
    asked "GET" exchanges = n ∧ asked "PATCH" exchanges = n := by
  induction conflicts with
  | none => exact ⟨rfl, rfl⟩
  | more trace _ _ ih =>
      obtain ⟨here, others⟩ := refuses_append.mp refuses
      obtain ⟨-, reads, patches⟩ :=
        asked_of_attempted readable writable here (attempted_of_trace trace)
      obtain ⟨reads', patches'⟩ := ih others
      simp only [asked, List.countP_append] at *
      omega

end

/-- A call that meets conflicts only makes all its attempts. -/
theorem asked_of_trace (refuses : Refuses exchanges)
    (patched : ∃ exchange ∈ exchanges, exchange.1.method = "PATCH")
    (trace : Program.Trace (guardedPatch key path patch) exchanges result) :
    isConflict result = true ∧ asked "GET" exchanges = attempts ∧
      asked "PATCH" exchanges = attempts := by
  obtain ⟨n, failed, last, rfl, conflicts, attempt, -, all⟩ := conflicts_of_attemptAgain trace
  have attempted := attempted_of_trace attempt
  have targets : (∃ target, readTarget key = .ok target) ∧
      ∃ target, changeTarget key path = .ok target := by
    obtain ⟨exchange, mem, method⟩ := patched
    rcases List.mem_append.mp mem with early | late
    · exact targets_of_conflicts conflicts ⟨exchange, early, method⟩
    · exact targets_of_attempted attempted ⟨exchange, late, method⟩
  obtain ⟨early, late⟩ := refuses_append.mp refuses
  obtain ⟨reads, patches⟩ := asked_of_conflicts targets.1 targets.2 early conflicts
  obtain ⟨conflict, reads', patches'⟩ := asked_of_attempted targets.1 targets.2 late attempted
  have count : n + 1 = attempts := by rw [all conflict]; rfl
  simp only [asked, List.countP_append] at *
  exact ⟨conflict, by omega, by omega⟩

theorem quiet_of_trace (conflict : isConflict result = true)
    (trace : Program.Trace (guardedPatch key path patch) exchanges result) :
    ∀ exchange ∈ exchanges, exchange.1.method = "GET" ∨
      isConflict (decode Object.ofJson? exchange.2) = true := by
  obtain ⟨n, failed, last, rfl, conflicts, attempt, -, -⟩ := conflicts_of_attemptAgain trace
  exact List.forall_mem_append.mpr
    ⟨conflicts_quiet conflicts, (attempted_of_trace attempt).refused conflict⟩

/-! ## What is loaded afterwards -/

/-- What is loaded after the call, where no other write follows. -/
def Recorded : Call → Saved → Prop
  | .recordInstance _ checkpoint, saved => saved.checkpoint = some checkpoint
  | .clearInstance _, saved => saved.checkpoint = none
  | _, _ => True

/-- A text that is kept in the status of a document is read of it. -/
theorem status_of_shows {response : Response} {object : Object} {fields : List (String × Json)}
    (shows' : Shows text document response) (decoded : decode Object.ofJson? response = .ok object)
    (kept : document.get? "status" = some (.obj fields)) :
    ∃ status, object.status = some status ∧
      status.instanceId = (field? "instanceId" fields).bind text? ∧
      status.providerId = (field? "providerId" fields).bind text? ∧
      status.failureDomain = (field? "failureDomain" fields).bind text? ∧
      status.hostname = (field? "hostname" fields).bind text? := by
  obtain ⟨shown, read, same, -⟩ := shown_of_decoded shows' decoded
  have found := same.found "status"
  rw [kept] at found
  obtain ⟨value, there, alike⟩ := found.eq_some
  have form : shown = .obj shown.fields := by
    cases shown with
    | obj given => rfl
    | _ => cases there
  have reads : ReadAs (.obj fields) object.status := by
    refine readAs_of_shows ⟨shown, Option.mem_def.mpr read, form, ?_, .inr rfl⟩ decoded
    rw [there]
    exact alike
  obtain ⟨absent, get, given, reads⟩ := reads
  cases status : object.status with
  | none => exact absurd (absent.mp status) (by simp)
  | some seen =>
      rw [status] at reads
      exact ⟨seen, rfl, (text_of_readsOptional (given _) reads.instanceId).symm,
        (text_of_readsOptional (given _) reads.providerId).symm,
        (text_of_readsOptional (given _) reads.failureDomain).symm,
        (text_of_readsOptional (given _) reads.hostname).symm⟩

/-- What a patch of the status leaves in it. -/
theorem status_of_applied {fields : List (String × Json)} {version : Json}
    (applied : Applied document (statusPatch fields version) document') :
    document'.get? "status" =
      some (.obj (mergeFields ((document.get? "status").getD .null).fields fields)) := by
  obtain ⟨next, -, rfl⟩ := applied
  have outer : ([("metadata", Json.obj [("resourceVersion", version)]),
      ("status", Json.obj fields)].map Prod.fst).Nodup := by simp
  have stamped : ([("metadata", Json.obj [("resourceVersion", .str next)])].map Prod.fst).Nodup := by
    simp
  rw [stamp, get?_mergePatch stamped, statusPatch, get?_mergePatch outer]
  simp [field?_cons, field?_nil, mergeField, mergePatch]

/-- An optional text that is merged is what is read then: null removes the field. -/
theorem text_of_mergeField (old : Option Json) (new : Option String) :
    (mergeField old (some (Json.ofOption .str new))).bind text? = new := by
  cases new <;> rfl

theorem recorded_of_shows {response : Response} {object : Object} {version : Json}
    (applied : Applied document (patchOf call version) document')
    (shows' : Shows text document' response)
    (decoded : decode Object.ofJson? response = .ok object) : Recorded call (savedIn object) := by
  cases call with
  | recordInstance k checkpoint =>
      obtain ⟨status, given, instanceId, providerId, zone, hostname⟩ :=
        status_of_shows shows' decoded (status_of_applied applied)
      have unique : ((checkpointFields checkpoint).map Prod.fst).Nodup := by simp [checkpointFields]
      rw [field?_mergeFields unique] at instanceId providerId zone hostname
      replace instanceId : status.instanceId = some checkpoint.instanceId :=
        instanceId.trans (text_of_mergeField _ (some checkpoint.instanceId))
      replace providerId : status.providerId = some checkpoint.providerId :=
        providerId.trans (text_of_mergeField _ (some checkpoint.providerId))
      replace zone : status.failureDomain = checkpoint.failureDomain :=
        zone.trans (text_of_mergeField _ checkpoint.failureDomain)
      replace hostname : status.hostname = checkpoint.hostname :=
        hostname.trans (text_of_mergeField _ checkpoint.hostname)
      simp only [Recorded, savedIn, given, Option.bind_some, checkpointOf, instanceId, providerId,
        zone, hostname, Option.map_some, Option.getD_some]
  | clearInstance k =>
      obtain ⟨status, given, instanceId, -⟩ :=
        status_of_shows shows' decoded (status_of_applied applied)
      have unique : (clearedFields.map Prod.fst).Nodup := by decide
      rw [field?_mergeFields unique] at instanceId
      replace instanceId : status.instanceId = none :=
        instanceId.trans (text_of_mergeField _ none)
      simp only [Recorded, savedIn, given, Option.bind_some, checkpointOf, instanceId, Option.map_none]
  | _ => trivial

/-- The same body is read as the same object. -/
theorem decode_of_body {response response' : Response} {object : Object}
    (decoded : decode Object.ofJson? response = .ok object) (same : response'.body = response.body)
    (fine : Http.isErrorStatus response'.status = false) :
    decode Object.ofJson? response' = .ok object := by
  have fine' := isErrorStatus_of_decoded decoded
  unfold decode at decoded ⊢
  rw [fine', if_neg Bool.false_ne_true] at decoded
  rw [fine, if_neg Bool.false_ne_true, same]
  exact decoded

/-- A load that nobody writes around reads the document that is kept. -/
theorem load_of_shows {later : List Step} {reply : Except Failure Saved} {document'' : Json}
    {response : Response} {object : Object}
    (shown : Shows text document response) (decoded : decode Object.ofJson? response = .ok object)
    (readable : ∃ target, readTarget key = .ok target)
    (evolves : Evolves text key document later document'')
    (alone : ∀ step ∈ later, step.exchange ≠ none)
    (trace : Program.Trace (perform (.load key)) (own later) reply)
    (answered : ∀ exchange ∈ own later, Http.isErrorStatus exchange.2.status = false) :
    reply = .ok (savedIn object) := by
  obtain ⟨result, once, rfl⟩ := Program.Trace.of_map trace
  rcases trace_exchange_cases once with ⟨error, unnamed, -, -⟩ | ⟨target, response', found, exchanges, rfl⟩
  · obtain ⟨target, readable⟩ := readable
    rw [readable] at unnamed
    cases unnamed
  obtain ⟨idle, step, rest, rfl, silent, reads, -⟩ := List.filterMap_eq_cons_iff.mp exchanges
  obtain rfl : idle = [] := by
    cases idle with
    | nil => rfl
    | cons first others => exact absurd (silent first (.head _)) (alone first (.head _))
  obtain ⟨rfl, valid, -⟩ := evolves
  have fine := answered _ (mem_own (.head _) reads)
  have shown' := (valid.answers reads).reads ⟨rfl, found⟩ fine
  rw [decode_of_body decoded (shown'.1.trans shown.1.symm) fine]
  rfl

/-- Whatever other clients write before, between and after its requests: a guarded call that succeeds
    has applied its patch once, to the version that it read just before, and changed nothing else; one
    whose patches all meet conflicts has read and patched five times, changed nothing and fails; and
    what a call has recorded or cleared is what is loaded if no other write follows. -/
theorem guarded_writes_lose_nothing {reply : call.Reply} (guarded : Guarded key call)
    (start : ∃ version, At document version) (evolves : Evolves text key document steps document')
    (trace : Program.Trace (perform call) (own steps) reply) :
    ((∃ value, reply = .ok value) →
      ∃ first read between write rest, steps = first ++ read :: (between ++ write :: rest) ∧
        Lands key call first read between write rest ∧
        (rest = [] → ∀ (later : List Step) (document'' : Json) (loaded : Except Failure Saved),
          Evolves text key document' later document'' → (∀ step ∈ later, step.exchange ≠ none) →
          Program.Trace (perform (.load key)) (own later) loaded →
          (∀ exchange ∈ own later, Http.isErrorStatus exchange.2.status = false) →
          ∃ saved, loaded = .ok saved ∧ Recorded call saved)) ∧
      (Refuses (own steps) → (∃ exchange ∈ own steps, exchange.1.method = "PATCH") →
        (∃ message, reply = .error (.persistence message)) ∧
          asked "GET" (own steps) = 5 ∧ asked "PATCH" (own steps) = 5 ∧
          ∀ step ∈ steps, step.exchange ≠ none → step.after = step.before) := by
  obtain ⟨result, once, succeeds, fails⟩ := guardedPatch_of_perform guarded trace
  constructor
  · rintro ⟨value, ok⟩
    obtain ⟨object, rfl⟩ := succeeds value ok
    obtain ⟨first, read, between, write, rest, rfl, lands, response, shown, decoded⟩ :=
      lands_of_trace guarded start evolves once
    refine ⟨first, read, between, write, rest, rfl, lands, ?_⟩
    rintro rfl later document'' loaded evolves' alone loads answered
    obtain ⟨-, ⟨target, readable, -⟩, -⟩ := lands.reads
    obtain ⟨version, -, -, -, -, -, applied⟩ := lands.writes
    obtain ⟨-, -, rfl⟩ := evolves.around
    have recorded := recorded_of_shows applied shown decoded
    exact ⟨_, load_of_shows shown decoded ⟨target, readable⟩ evolves' alone loads answered, recorded⟩
  · intro refuses patched
    obtain ⟨conflict, reads, patches⟩ := asked_of_trace refuses patched once
    refine ⟨?_, reads, patches, ?_⟩
    · cases result with
      | ok object => cases conflict
      | error error => exact fails error rfl
    · intro step mem asked
      cases here : step.exchange with
      | none => exact absurd here asked
      | some exchange =>
          exact (evolves.valid mem).quiet here
            (quiet_of_trace conflict once exchange (mem_own mem here))

/-! ## A server with an eager writer

The document gets a next version again and again. -/

/-- The document can be read, also as an object. -/
def Legible (document : Json) : Prop :=
  readChars? (write document.canonical) = some document.canonical ∧
    Same document.canonical document ∧ (Object.ofJson? document.canonical).isSome = true

instance (document : Json) : Decidable (Legible document) := inferInstanceAs (Decidable (_ ∧ _))

theorem Legible.reads (legible : Legible document) :
    Json.read? document.compact = some document.canonical := by
  rw [Json.read?, Json.compact, String.toList_ofList]
  exact legible.1

theorem Legible.shown (legible : Legible document) :
    Shows Json.compact document ⟨200, document.compact⟩ :=
  ⟨rfl, document.canonical, Option.mem_def.mpr legible.reads, legible.2.1⟩

theorem Legible.decodes (legible : Legible document) :
    ∃ object, decode Object.ofJson? ⟨200, document.compact⟩ = .ok object := by
  obtain ⟨object, found⟩ := Option.isSome_iff_exists.mp legible.2.2
  have fine : Http.isErrorStatus 200 = false := rfl
  exact ⟨object, by simp [decode, fine, legible.reads, found]⟩

variable {target : RequestTarget} {response : Response}

theorem answers_read (shown : Shows text document response) :
    Answers text key document (readRequest target) response document where
  changes := .inl rfl
  refuses := by
    rintro patch ⟨method, -⟩
    simp [readRequest] at method
  accepts := by
    rintro patch ⟨method, -⟩
    simp [readRequest] at method
  rejects _ := rfl
  reads _ _ := shown

theorem answers_refused {patch : Json} (fails : Http.isErrorStatus response.status = true)
    (conflict : isConflict (decode Object.ofJson? response) = true) :
    Answers text key document (mergeRequest target patch) response document where
  changes := .inl rfl
  refuses _ _ _ := conflict
  accepts _ _ fine := by
    rw [fails] at fine
    cases fine
  rejects _ := rfl
  reads := by
    rintro ⟨method, -⟩
    simp [mergeRequest] at method

theorem answers_applied {patch : Json} {object : Object}
    (writable : changeTarget key (statusPath key) = .ok target)
    (current : at? versionPath patch = at? versionPath document)
    (applied : Applied document patch document') (shown : Shows text document' response)
    (decoded : decode Object.ofJson? response = .ok object) :
    Answers text key document (mergeRequest target patch) response document' where
  changes := .inr ⟨patch, ⟨rfl, .inr writable, rfl⟩, applied⟩
  refuses := by
    rintro other ⟨-, -, body⟩ stale
    cases body
    exact absurd current stale
  accepts := by
    rintro other ⟨-, -, body⟩ _
    cases body
    exact ⟨applied, shown⟩
  rejects conflict := by
    rw [decoded] at conflict
    cases conflict
  reads := by
    rintro ⟨method, -⟩
    simp [mergeRequest] at method

/-- The document at its `n`th version. -/
def live (n : Nat) : Json :=
  .obj [("metadata", .obj [("resourceVersion", .str (Text.decimal n))]),
    ("spec", .obj [("minCpu", .int 1), ("minMemoryMib", .int 1)])]

theorem at_live (n : Nat) : At (live n) (Text.decimal n) := rfl

theorem live_differs (n : Nat) : ¬ At (live n) (Text.decimal (n + 1)) := by
  intro same
  have equal := (at_live n).symm.trans same
  simp only [Option.some.injEq, Json.str.injEq] at equal
  exact absurd (Text.decimal_injective equal) (by omega)

theorem legible_live : ∀ n < 5, Legible (live n) := by decide +kernel

def readableTarget : RequestTarget :=
  ⟨"/apis/dcops.microscaler.io/v1alpha1/namespaces/metal/maasmachines/worker-0", ""⟩

def writableTarget : RequestTarget :=
  ⟨"/apis/dcops.microscaler.io/v1alpha1/namespaces/metal/maasmachines/worker-0/status", ""⟩

def checkpoint : Checkpoint := ⟨"m1", "maas:///default/m1", none, some "node-7"⟩

/-- The patch that is made for the `n`th version. -/
def patchAt (n : Nat) : Json := statusPatch (checkpointFields checkpoint) (.str (Text.decimal n))

def readLive (n : Nat) : Answered := ⟨readRequest readableTarget, 200, (live n).compact⟩

def patched (n : Nat) (response : Response) : Answered :=
  ⟨mergeRequest writableTarget (patchAt n), response⟩

/-- An attempt that the eager writer spoils. -/
def spoiled (n : Nat) : List Step :=
  [⟨live n, some (readLive n), live n⟩, ⟨live n, none, live (n + 1)⟩,
    ⟨live (n + 1), some (patched n ⟨409, ""⟩), live (n + 1)⟩]

/-- An attempt that the eager writer leaves alone. -/
def unspoiled (n : Nat) : List Step :=
  let recorded := mergePatch (mergePatch (live n) (patchAt n)) (stamp (Text.decimal (n + 1)))
  [⟨live n, some (readLive n), live n⟩,
    ⟨live n, some (patched n ⟨200, recorded.compact⟩), recorded⟩]

theorem evolves_spoiled {n : Nat} (legible : Legible (live n)) :
    Evolves Json.compact worker (live n) (spoiled n) (live (n + 1)) := by
  have moved : at? versionPath (live (n + 1)) ≠ at? versionPath (live n) := fun same =>
    live_differs n (same.symm.trans (at_live (n + 1)))
  exact ⟨rfl, answers_read legible.shown, rfl, ⟨⟨_, at_live (n + 1)⟩, moved⟩, rfl,
    answers_refused rfl rfl, rfl⟩

theorem trace_attempt {n : Nat} (legible : Legible (live n)) (response : Response) :
    Program.Trace (patchOnce worker (statusPath worker) (statusPatch (checkpointFields checkpoint)))
      [readLive n, patched n response] (decode Object.ofJson? response) := by
  obtain ⟨object, read⟩ := legible.decodes
  have version := version_of_shows legible.shown read (at_live n)
  have once : Program.Trace
      (patchOnce worker (statusPath worker) (statusPatch (checkpointFields checkpoint))) _ _ :=
    trace_patchOnce readable_worker writable_worker read response
  rwa [version] at once

/-- The document after the second attempt has been left alone. -/
def recorded : Json := mergePatch (mergePatch (live 1) (patchAt 1)) (stamp (Text.decimal 2))

def reload : List Step := [⟨recorded, some ⟨readRequest readableTarget, 200, recorded.compact⟩, recorded⟩]

theorem legible_recorded : Legible recorded := by decide +kernel

theorem evolves_recorded :
    Evolves Json.compact worker (live 0) (spoiled 0 ++ unspoiled 1) recorded := by
  obtain ⟨object, decoded⟩ := legible_recorded.decodes
  refine evolves_append.mpr ⟨live 1, evolves_spoiled (legible_live 0 (by decide)), rfl,
    answers_read (legible_live 1 (by decide)).shown, rfl, ?_, rfl⟩
  exact answers_applied writable_worker (at_live 1).symm ⟨_, live_differs 1, rfl⟩
    legible_recorded.shown decoded

theorem trace_recorded :
    Program.Trace (perform (.recordInstance worker checkpoint)) (own (spoiled 0 ++ unspoiled 1))
      (.ok ()) := by
  obtain ⟨object, decoded⟩ := legible_recorded.decodes
  have second := trace_attempt (legible_live 1 (by decide)) ⟨200, recorded.compact⟩
  rw [decoded] at second
  have both : Program.Trace (attemptAgain
      (patchOnce worker (statusPath worker) (statusPatch (checkpointFields checkpoint))) 4) _ _ :=
    trace_attemptAgain_conflict (trace_attempt (legible_live 0 (by decide)) ⟨409, ""⟩) rfl
      (trace_attemptAgain_last second (.inl rfl))
  exact both.map fun r => inContext ("status of " ++ worker.toText) (r.map fun _ => ())

theorem evolves_lost :
    Evolves Json.compact worker (live 0) ((List.range 5).flatMap spoiled) (live 5) := by
  have each := fun n small => evolves_spoiled (legible_live n small)
  exact evolves_append.mpr ⟨_, each 0 (by decide), evolves_append.mpr ⟨_, each 1 (by decide),
    evolves_append.mpr ⟨_, each 2 (by decide), evolves_append.mpr ⟨_, each 3 (by decide),
      evolves_append.mpr ⟨_, each 4 (by decide), rfl⟩⟩⟩⟩⟩

theorem trace_lost : ∃ reply, Program.Trace (perform (.recordInstance worker checkpoint))
    (own ((List.range 5).flatMap spoiled)) reply := by
  have each := fun n small => trace_attempt (legible_live n small) ⟨409, ""⟩
  have all : Program.Trace (attemptAgain
      (patchOnce worker (statusPath worker) (statusPatch (checkpointFields checkpoint))) 4) _ _ :=
    trace_attemptAgain_conflict (each 0 (by decide)) rfl <|
      trace_attemptAgain_conflict (each 1 (by decide)) rfl <|
        trace_attemptAgain_conflict (each 2 (by decide)) rfl <|
          trace_attemptAgain_conflict (each 3 (by decide)) rfl <|
            trace_attemptAgain_last (each 4 (by decide)) (.inr rfl)
  exact ⟨_, all.map fun r => inContext ("status of " ++ worker.toText) (r.map fun _ => ())⟩

theorem refuses_spoiled {n : Nat} (legible : Legible (live n)) : Refuses (own (spoiled n)) where
  reads := by
    refine List.forall_mem_cons.mpr ⟨fun _ => legible.decodes, List.forall_mem_singleton.mpr ?_⟩
    simp [patched, mergeRequest]
  patches := by
    refine List.forall_mem_cons.mpr ⟨?_, List.forall_mem_singleton.mpr fun _ => rfl⟩
    simp [readLive, readRequest]

theorem refuses_lost : Refuses (own ((List.range 5).flatMap spoiled)) := by
  have each := fun n small => refuses_spoiled (legible_live n small)
  exact refuses_append.mpr ⟨each 0 (by decide), refuses_append.mpr ⟨each 1 (by decide),
    refuses_append.mpr ⟨each 2 (by decide), refuses_append.mpr ⟨each 3 (by decide),
      each 4 (by decide)⟩⟩⟩⟩

theorem trace_reload : ∃ loaded, Program.Trace (perform (.load worker)) (own reload) loaded :=
  ⟨_, (trace_exchange Object.ofJson? "GET" .empty readable_worker ⟨200, recorded.compact⟩).map
    (loaded worker)⟩

/-- Only a step of the call comes last, so that nobody else wrote after it. -/
theorem rest_of_unspoiled {read write : Step} {between rest : List Step} {n : Nat}
    (steps : spoiled n ++ unspoiled (n + 1) = first ++ read :: (between ++ write :: rest))
    (foreign : ∀ step ∈ rest, step.exchange = none) : rest = [] := by
  rcases List.eq_nil_or_concat rest with none | ⟨init, last, rfl⟩
  · exact none
  · have ends := congrArg (fun steps => steps.getLast?.bind Step.exchange) steps
    have silent := foreign last (by simp)
    simp [spoiled, unspoiled, List.getLast?_append, List.getLast?_cons, silent] at ends

/-- With an eager writer, a second attempt lands and is loaded, and five spoiled ones change nothing. -/
theorem guarded_writes_with_eager_writer :
    (∃ first read between write, spoiled 0 ++ unspoiled 1 = first ++ read :: (between ++ [write]) ∧
      Lands worker (.recordInstance worker checkpoint) first read between write []) ∧
    (∃ saved, Program.Trace (perform (.load worker)) (own reload) (.ok saved) ∧
      saved.checkpoint = some checkpoint) ∧
    ∃ message, Program.Trace (perform (.recordInstance worker checkpoint))
        (own ((List.range 5).flatMap spoiled)) (.error (.persistence message)) ∧
      asked "GET" (own ((List.range 5).flatMap spoiled)) = 5 ∧
      asked "PATCH" (own ((List.range 5).flatMap spoiled)) = 5 := by
  have guarded : Guarded worker (.recordInstance worker checkpoint) := rfl
  obtain ⟨succeeds, -⟩ :=
    guarded_writes_lose_nothing guarded ⟨_, at_live 0⟩ evolves_recorded trace_recorded
  obtain ⟨first, read, between, write, rest, steps, lands, loads⟩ := succeeds ⟨(), rfl⟩
  obtain rfl : rest = [] := rest_of_unspoiled steps (List.forall_mem_append.mp lands.foreign).2
  obtain ⟨loaded, reloads⟩ := trace_reload
  have evolves : Evolves Json.compact worker recorded reload recorded :=
    ⟨rfl, answers_read legible_recorded.shown, rfl⟩
  obtain ⟨saved, rfl, kept⟩ := loads rfl reload recorded loaded evolves (by simp [reload]) reloads
    (by simp [reload, own, Http.isErrorStatus])
  obtain ⟨reply, lost⟩ := trace_lost
  obtain ⟨-, fails⟩ := guarded_writes_lose_nothing guarded ⟨_, at_live 0⟩ evolves_lost lost
  obtain ⟨⟨message, rfl⟩, reads, patches, -⟩ :=
    fails refuses_lost ⟨patched 0 ⟨409, ""⟩, .tail _ (.head _), rfl⟩
  exact ⟨⟨first, read, between, write, steps, lands⟩, ⟨saved, reloads, kept⟩, message, lost, reads,
    patches⟩

end MachineProvisioning.Store.Kubernetes.Contention
