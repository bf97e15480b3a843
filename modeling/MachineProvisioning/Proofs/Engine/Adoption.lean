import MachineProvisioning.Proofs.Engine.Conclusion
import MachineProvisioning.Proofs.Engine.Silence
import MachineProvisioning.Proofs.Engine.VettedPasses

/-! # Adopting a machine

When MAAS refuses to compose because the hostname is in use, the machine is looked for by its hostname,
among all machines and then among those of the host. The first one found is recorded as the instance.
When there is none, or when it cannot be looked for, the pass fails with what MAAS said.
-/

namespace MachineProvisioning.Engine

open Program (Exchange)
open Resource (Key Spec)
open Lifecycle (Instance)
open Maas (Machine VmHost)
open Store (Checkpoint Saved)

def Effect.IsComposition : Effect → Prop
  | .maas (.compose _ _) => True
  | _ => False

def Effect.IsRecord : Effect → Prop
  | .store (.recordInstance _ _) => True
  | _ => False

/-- A new instance is counted. -/
def Effect.CountsAllocation : Effect → Prop
  | .count (.allocated _) => True
  | _ => False

/-- The request neither takes an instance nor says that one was taken. -/
structure Effect.IsIdle (effect : Effect) : Prop where
  composition : ¬effect.IsComposition
  record : ¬effect.IsRecord
  allocation : ¬effect.CountsAllocation

variable {effect : Effect}

theorem isIdle_of_kind {kind : Effect → Prop}
    (composes : ∀ hostId params, ¬kind (.maas (.compose hostId params)))
    (records : ∀ key checkpoint, ¬kind (.store (.recordInstance key checkpoint)))
    (counts : ∀ mode, ¬kind (.count (.allocated mode))) (h : kind effect) : effect.IsIdle := by
  constructor
  · intro composition
    unfold Effect.IsComposition at composition
    split at composition
    · exact composes _ _ h
    · exact composition
  · intro record
    unfold Effect.IsRecord at record
    split at record
    · exact records _ _ h
    · exact record
  · intro allocation
    unfold Effect.CountsAllocation at allocation
    split at allocation
    · exact counts _ h
    · exact allocation

theorem Labours.isIdle : Labours effect → effect.IsIdle :=
  isIdle_of_kind (fun _ _ => id) (fun _ _ => id) fun _ => id

theorem Surveys.isIdle : Surveys effect → effect.IsIdle :=
  isIdle_of_kind (fun _ _ => id) (fun _ _ => id) fun _ => id

theorem Reports.isIdle : Reports effect → effect.IsIdle :=
  isIdle_of_kind (fun _ _ => id) (fun _ _ => id) fun _ => id

/-- What a look for a hostname comes to: the first machine that has it among all machines, or else
    the first one among those of the host. -/
inductive LooksUp (hostname : String) (hostId : UInt64) :
    Except Maas.Error (Option Machine) → Transcript → Prop where
  | everywhere {machines : List Machine} {machine : Machine}
      (first : machines.find? (Wiring.hostnameMatches · hostname) = some machine) :
      LooksUp hostname hostId (.ok (some machine))
        [⟨.maas (.listMachines [("hostname", hostname)]), .ok machines⟩]
  | onHost {machines : List Machine} (others : List Machine)
      (nowhere : machines.find? (Wiring.hostnameMatches · hostname) = none) :
      LooksUp hostname hostId (.ok (others.find? (Wiring.hostnameMatches · hostname)))
        [⟨.maas (.listMachines [("hostname", hostname)]), .ok machines⟩,
          ⟨.maas (.listHostVms hostId), .ok others⟩]
  | unlisted (error : Maas.Error) :
      LooksUp hostname hostId (.error error)
        [⟨.maas (.listMachines [("hostname", hostname)]), .error error⟩]
  | unlistedHost {machines : List Machine} (error : Maas.Error)
      (nowhere : machines.find? (Wiring.hostnameMatches · hostname) = none) :
      LooksUp hostname hostId (.error error)
        [⟨.maas (.listMachines [("hostname", hostname)]), .ok machines⟩,
          ⟨.maas (.listHostVms hostId), .error error⟩]

variable {key : Key} {spec : Spec} {options : Options} {hostname text : String} {hostId : UInt64}
  {params : Maas.ComposeParams} {transcript : Transcript}

theorem LooksUp.labours {looked : Except Maas.Error (Option Machine)}
    (looks : LooksUp hostname hostId looked transcript) :
    ∀ exchange ∈ transcript, Labours exchange.1 := by
  cases looks with
  | _ => simp [Labours]

/-- A pass that looks for a hostname ends with what the look came to. -/
inductive EndsWith : Except Maas.Error (Option Machine) → Except Failure (Option Machine) → Prop where
  | ok (found : Option Machine) : EndsWith (.ok found) (.ok found)
  | error (context : String) (error : Maas.Error) :
      EndsWith (.error error) (.error (.backend context error))

theorem looksUp_of_trace {hostName : String} {found : Except Failure (Option Machine)}
    (trace : Program.Trace (findByHostname hostname hostId hostName).run transcript found) :
    ∃ looked, LooksUp hostname hostId looked transcript ∧ EndsWith looked found := by
  obtain ⟨_, rfl, listed⟩ | ⟨machines, _, _, rfl, listed, goesOn⟩ := Pass.trace_of_bind trace
  · obtain ⟨_, -, ⟨⟩⟩ | ⟨error, rfl, ⟨⟩⟩ := Pass.trace_of_maas listed
    exact ⟨_, .unlisted error, .error _ error⟩
  obtain ⟨_, rfl, ⟨⟩⟩ | ⟨_, -, ⟨⟩⟩ := Pass.trace_of_maas listed
  split at goesOn
  · next machine first =>
      cases goesOn
      exact ⟨_, .everywhere first, .ok _⟩
  · next nowhere =>
      obtain ⟨_, rfl, onHost⟩ | ⟨others, _, _, rfl, onHost, ends⟩ := Pass.trace_of_bind goesOn
      · obtain ⟨_, -, ⟨⟩⟩ | ⟨error, rfl, ⟨⟩⟩ := Pass.trace_of_maas onHost
        exact ⟨_, .unlistedHost error nowhere, .error _ error⟩
      · obtain ⟨_, rfl, ⟨⟩⟩ | ⟨_, -, ⟨⟩⟩ := Pass.trace_of_maas onHost
        cases ends
        exact ⟨_, .onHost others nowhere, .ok _⟩

/-- How a composition goes, and which machine it leads to, with whether it is new. -/
inductive Obtains (hostId : UInt64) (params : Maas.ComposeParams) :
    Except Failure (String × Bool) → Transcript → Prop where
  | composed (vm : Maas.ComposedVm) :
      Obtains hostId params (.ok (vm.systemId, true)) [⟨.maas (.compose hostId params), .ok vm⟩]
  | adopted {machine : Machine} {looks : Transcript} (text : String)
      (found : LooksUp params.hostname hostId (.ok (some machine)) looks) :
      Obtains hostId params (.ok (machine.systemId, false))
        (⟨.maas (.compose hostId params), .error (.hostnameInUse text)⟩ :: looks)
  | unfound {looks : Transcript} (text context : String)
      (nowhere : LooksUp params.hostname hostId (.ok none) looks) :
      Obtains hostId params (.error (.backend context (.hostnameInUse text)))
        (⟨.maas (.compose hostId params), .error (.hostnameInUse text)⟩ :: looks)
  | unlisted {error : Maas.Error} {looks : Transcript} (text context : String)
      (fails : LooksUp params.hostname hostId (.error error) looks) :
      Obtains hostId params (.error (.backend context error))
        (⟨.maas (.compose hostId params), .error (.hostnameInUse text)⟩ :: looks)
  | refused {error : Maas.Error} {rest : Transcript} (obtained : Except Failure (String × Bool))
      (other : ∀ text, error ≠ .hostnameInUse text)
      (labours : ∀ exchange ∈ rest, Labours exchange.1) :
      Obtains hostId params obtained (⟨.maas (.compose hostId params), .error error⟩ :: rest)

theorem obtains_of_trace {host : VmHost} {pool : Maas.NamedRef} {networks : List String}
    {obtained : Except Failure (String × Bool)}
    (trace : Program.Trace (composeOrAdopt key host pool networks params).run transcript obtained) :
    Obtains host.id params obtained transcript := by
  obtain ⟨reply, _, rfl, goesOn⟩ := Pass.trace_of_request_bind trace
  cases reply with
  | ok vm =>
      cases goesOn
      exact .composed vm
  | error error =>
      simp only at goesOn
      split at goesOn
      · next text =>
          obtain ⟨_, rfl, finds⟩ | ⟨found, looks, _, rfl, finds, ends⟩ := Pass.trace_of_bind goesOn
          · obtain ⟨_, looks, ⟨⟩⟩ := looksUp_of_trace finds
            exact .unlisted text _ looks
          · obtain ⟨_, looks, ⟨⟩⟩ := looksUp_of_trace finds
            cases found with
            | some machine =>
                cases ends
                rw [List.append_nil]
                exact .adopted text looks
            | none =>
                cases ends
                rw [List.append_nil]
                exact .unfound text _ looks
      · cases goesOn
        exact .refused _ nofun (by simp)
      · exact .refused _ nofun (labours_failWith.trace goesOn)
      · next inUse _ _ =>
          cases goesOn
          exact .refused _ inUse (by simp)

/-! ## Virtual machines -/

/-- The exchanges of a pass that composes, and how it ends: it surveys, composes or adopts a machine,
    records it and goes on with it. -/
inductive Composing (key : Key) (hostname : String) :
    Except Failure Instance → Transcript → Prop where
  | uncomposed {surveyed : Transcript} (failure : Failure)
      (surveys : ∀ exchange ∈ surveyed, Surveys exchange.1) :
      Composing key hostname (.error failure) surveyed
  | unobtained {surveyed obtained : Transcript} {hostId : UInt64} {params : Maas.ComposeParams}
      {failure : Failure} (surveys : ∀ exchange ∈ surveyed, Surveys exchange.1)
      (named : params.hostname = hostname) (fails : Obtains hostId params (.error failure) obtained) :
      Composing key hostname (.error failure) (surveyed ++ obtained)
  | obtained {surveyed obtained labour : Transcript} {hostId : UInt64} {params : Maas.ComposeParams}
      {systemId : String} {isNew : Bool} (surveys : ∀ exchange ∈ surveyed, Surveys exchange.1)
      (named : params.hostname = hostname)
      (obtains : Obtains hostId params (.ok (systemId, isNew)) obtained) (zone : Option String)
      (reply : Except Failure Unit) (result : Except Failure Instance)
      (labours : ∀ exchange ∈ labour,
        Labours exchange.1 ∨ isNew = true ∧ exchange.1 = .count (.allocated .virtualized)) :
      Composing key hostname result (surveyed ++ (obtained ++
        ⟨.store (.recordInstance key (.new systemId zone (some hostname))), reply⟩ :: labour))

variable {result : Except Failure Instance} {rest : Transcript}

theorem Composing.append (surveys : ∀ exchange ∈ transcript, Surveys exchange.1)
    (composing : Composing key hostname result rest) :
    Composing key hostname result (transcript ++ rest) := by
  cases composing with
  | uncomposed failure others =>
      exact .uncomposed failure (List.forall_mem_append.mpr ⟨surveys, others⟩)
  | unobtained others named fails =>
      rw [← List.append_assoc]
      exact .unobtained (List.forall_mem_append.mpr ⟨surveys, others⟩) named fails
  | obtained others named obtains zone reply result labours =>
      rw [← List.append_assoc]
      exact .obtained (List.forall_mem_append.mpr ⟨surveys, others⟩) named obtains zone reply result
        labours

/-- A step that only surveys, and what follows it. -/
theorem composing_of_bind {α : Type} {p : Pass α} {f : α → Pass Instance}
    (surveys : p.Asks Surveys)
    (goesOn : ∀ a rest, Program.Trace (f a).run rest result → Composing key hostname result rest)
    (trace : Program.Trace (p >>= f).run transcript result) :
    Composing key hostname result transcript := by
  obtain ⟨failure, rfl, fails⟩ | ⟨a, first, rest, rfl, once, after⟩ := Pass.trace_of_bind trace
  · exact .uncomposed failure (surveys.trace fails)
  · exact (goesOn a rest after).append (surveys.trace once)

theorem composing_of_trace
    (trace : Program.Trace (composeVirtual options key spec).run transcript result) :
    Composing key (spec.hostname.getD key.name) result transcript := by
  unfold composeVirtual at trace
  extract_lets shape hostname places at trace
  have placed : ∀ staticIp rest, Program.Trace (places staticIp).run rest result →
      Composing key hostname result rest := by
    intro staticIp rest trace
    refine composing_of_bind (Pass.spares_maas trivial).asks (fun hosts rest trace => ?_) trace
    refine composing_of_bind (spares_place shape hosts).asks (fun host rest trace => ?_) trace
    extract_lets composes at trace
    have composed : ∀ pool rest, Program.Trace (composes pool).run rest result →
        Composing key hostname result rest := by
      intro pool rest trace
      have annotates : (Pass.store (.annotate key vmHostAnnotationName
          (Text.decimal host.id.toNat))).Asks Surveys := Pass.asks_store trivial
      refine composing_of_bind annotates (fun _ rest trace => ?_) trace
      obtain ⟨failure, rfl, fails⟩ | ⟨⟨systemId, isNew⟩, obtained, _, rfl, obtains, goesOn⟩ :=
        Pass.trace_of_bind trace
      · change Composing key hostname _ ([] ++ rest)
        exact .unobtained (by simp) rfl (obtains_of_trace fails)
      · change Composing key hostname _ ([] ++ _)
        have obtains := obtains_of_trace obtains
        obtain ⟨fault, rfl, records⟩ | ⟨⟨⟩, first, labour, rfl, records, counts⟩ :=
          Pass.trace_of_bind goesOn
        · rw [Pass.trace_of_store records]
          exact .obtained (by simp) rfl obtains _ _ _ (by simp)
        · rw [Pass.trace_of_store records]
          refine .obtained (by simp) rfl obtains _ _ _ ?_
          extract_lets looks at counts
          have looked : ∀ rest, Program.Trace (looks ()).run rest result →
              ∀ exchange ∈ rest, Labours exchange.1 := fun rest => labours_looks.trace
          cases isNew with
          | false => exact fun exchange mem => .inl (looked labour counts exchange mem)
          | true =>
              obtain ⟨⟨⟩, rest, rfl, looks⟩ := Pass.trace_of_request_bind counts
              refine List.forall_mem_cons.mpr ⟨.inr ⟨rfl, rfl⟩, fun exchange mem => ?_⟩
              exact .inl (looked rest looks exchange mem)
    cases chosen : host.pool with
    | some pool =>
        rw [chosen] at trace
        exact composed pool rest trace
    | none =>
        rw [chosen] at trace
        exact composing_of_bind (Pass.asks_throw _) composed trace
  cases declares : spec.staticIp with
  | none =>
      rw [declares] at trace
      exact placed none transcript trace
  | some declared =>
      rw [declares] at trace
      have validates : (validated key declared).Asks Surveys := (spares_validated trivial).asks
      exact composing_of_bind (validates.map some) placed trace

/-! ## Adopting -/

/-- A list is cut in one way only at the one place where something holds. -/
theorem eq_of_append_cons {β : Type} {holds : β → Prop} {before after before' after' : List β}
    {x y : β} (same : before ++ x :: after = before' ++ y :: after') (here : holds x)
    (earlier : ∀ z ∈ before', ¬holds z) (later : ∀ z ∈ after', ¬holds z) :
    before = before' ∧ x = y ∧ after = after' := by
  induction before' generalizing before with
  | nil =>
      cases before with
      | nil =>
          obtain ⟨rfl, rfl⟩ := List.cons.inj same
          exact ⟨rfl, rfl, rfl⟩
      | cons z before =>
          obtain ⟨-, rfl⟩ := List.cons.inj same
          exact absurd here (later x (List.mem_append_right before (.head _)))
  | cons z before' ih =>
      obtain ⟨free, others⟩ := List.forall_mem_cons.mp earlier
      cases before with
      | nil =>
          obtain ⟨rfl, -⟩ := List.cons.inj same
          exact absurd here free
      | cons w before =>
          obtain ⟨rfl, rest⟩ := List.cons.inj same
          obtain ⟨rfl, rfl, rfl⟩ := ih rest others
          exact ⟨rfl, rfl, rfl⟩

/-- MAAS refuses a composition because the hostname is in use. -/
def refusal (hostId : UInt64) (params : Maas.ComposeParams) (text : String) :
    Exchange Effect Effect.Answer :=
  ⟨.maas (.compose hostId params), .error (.hostnameInUse text)⟩

/-- The exchanges after such a refusal, and how the pass ends. -/
inductive Adopting (key : Key) (hostname : String) (hostId : UInt64) (text : String) :
    Except Failure Instance → Transcript → Prop where
  | adopted {machine : Machine} {looks labour : Transcript}
      (found : LooksUp hostname hostId (.ok (some machine)) looks) (zone : Option String)
      (reply : Except Failure Unit) (result : Except Failure Instance)
      (labours : ∀ exchange ∈ labour, Labours exchange.1) :
      Adopting key hostname hostId text result (looks ++
        ⟨.store (.recordInstance key (.new machine.systemId zone (some hostname))), reply⟩ :: labour)
  | unfound {looks : Transcript} (context : String)
      (nowhere : LooksUp hostname hostId (.ok none) looks) :
      Adopting key hostname hostId text (.error (.backend context (.hostnameInUse text))) looks
  | unlisted {error : Maas.Error} {looks : Transcript} (context : String)
      (fails : LooksUp hostname hostId (.error error) looks) :
      Adopting key hostname hostId text (.error (.backend context error)) looks

variable {before after : Transcript}

/-- A composition comes first, and only labour follows it. -/
theorem Obtains.starts {obtained : Except Failure (String × Bool)}
    (obtains : Obtains hostId params obtained transcript) :
    ∃ reply rest, transcript = ⟨.maas (.compose hostId params), reply⟩ :: rest ∧
      ∀ exchange ∈ rest, Labours exchange.1 := by
  cases obtains with
  | composed vm => exact ⟨_, [], rfl, by simp⟩
  | adopted text looks | unfound text context looks | unlisted text context looks =>
      exact ⟨_, _, rfl, looks.labours⟩
  | refused obtained other labours => exact ⟨_, _, rfl, labours⟩

/-- Nothing is composed by labour, so the only composition of a pass is the one that it starts to
    obtain a machine with. -/
theorem eq_refusal {surveyed obtained rest : Transcript} {hostId' : UInt64}
    {params' : Maas.ComposeParams} {outcome : Except Failure (String × Bool)}
    (surveys : ∀ exchange ∈ surveyed, Surveys exchange.1)
    (obtains : Obtains hostId' params' outcome obtained)
    (idle : ∀ exchange ∈ rest, ¬exchange.1.IsComposition)
    (same : before ++ refusal hostId params text :: after = surveyed ++ (obtained ++ rest)) :
    before = surveyed ∧ hostId = hostId' ∧ params = params' ∧
      ∃ looks, obtained = refusal hostId params text :: looks ∧ after = looks ++ rest := by
  obtain ⟨reply, looks, rfl, labours⟩ := obtains.starts
  have later : ∀ exchange ∈ looks ++ rest, ¬exchange.1.IsComposition :=
    List.forall_mem_append.mpr ⟨fun exchange mem => (labours exchange mem).isIdle.composition, idle⟩
  obtain ⟨rfl, ⟨⟩, rfl⟩ := @eq_of_append_cons _ (fun exchange => exchange.1.IsComposition) _ _ _ _ _ _
    same trivial (fun exchange mem => (surveys exchange mem).isIdle.composition) later
  exact ⟨rfl, rfl, rfl, looks, rfl, rfl⟩

theorem adopting_of_composing
    (composing : Composing key hostname result (before ++ refusal hostId params text :: after)) :
    params.hostname = hostname ∧ (∀ exchange ∈ before, Surveys exchange.1) ∧
      Adopting key hostname hostId text result after := by
  generalize whole : before ++ refusal hostId params text :: after = transcript at composing
  cases composing with
  | uncomposed failure surveys =>
      have survey := surveys (refusal hostId params text) (whole ▸ List.mem_append_right _ (.head _))
      cases survey
  | @unobtained surveyed obtained _ _ failure surveys named fails =>
      rw [← List.append_nil obtained] at whole
      obtain ⟨rfl, rfl, rfl, looks, rfl, rfl⟩ := eq_refusal surveys fails (by simp) whole
      refine ⟨named, surveys, ?_⟩
      rw [List.append_nil, ← named]
      cases fails with
      | unfound text context nowhere => exact .unfound context nowhere
      | unlisted text context fails => exact .unlisted context fails
      | refused _ other => exact absurd rfl (other text)
  | @obtained surveyed obtained labour _ _ x _ surveys named obtains zone reply result labours =>
      have idle : ∀ exchange ∈ (⟨.store (.recordInstance key (.new x zone (some hostname))), reply⟩ ::
          labour : Transcript), ¬exchange.1.IsComposition := by
        refine List.forall_mem_cons.mpr ⟨id, fun exchange mem => ?_⟩
        rcases labours exchange mem with labour | ⟨-, counts⟩
        · exact labour.isIdle.composition
        · rw [counts]
          exact id
      obtain ⟨rfl, rfl, rfl, looks, rfl, rfl⟩ := eq_refusal surveys obtains idle whole
      refine ⟨named, surveys, ?_⟩
      cases obtains with
      | adopted text found =>
          rw [named] at found
          refine .adopted found zone reply result fun exchange mem => ?_
          exact (labours exchange mem).resolve_right fun fresh => Bool.false_ne_true fresh.1
      | refused _ other => exact absurd rfl (other text)

/-- Only a pass that starts without a record of a virtual machine composes. -/
theorem adopting_of_provisionFrom {saved : Saved}
    (trace : Program.Trace (provisionFrom options key spec saved).run
      (before ++ refusal hostId params text :: after) result) :
    params.hostname = spec.hostname.getD key.name ∧ (∀ exchange ∈ before, Surveys exchange.1) ∧
      Adopting key (spec.hostname.getD key.name) hostId text result after := by
  have asked : refusal hostId params text ∈ before ++ refusal hostId params text :: after :=
    List.mem_append_right before (.head _)
  unfold provisionFrom at trace
  -- To go on with a record is labour, and physical machines are allocated.
  split at trace
  · next checkpoint _ =>
      have labours := (labours_resume checkpoint).trace trace _ asked
      cases labours
  · split at trace
    · exact absurd rfl ((asks_allocateBareMetal.trace trace _ asked).2 hostId params)
    · exact adopting_of_composing (composing_of_trace trace)

/-! ## Passes -/

/-- Around what it asks for to provision, a pass reports. -/
theorem Provisions.reports {α : Type} {pass : Pass α} {ended : Except Failure α}
    (provisions : Provisions options key spec α pass)
    (trace : Program.Trace pass.run transcript ended) :
    (∀ exchange ∈ transcript, Reports exchange.1) ∨
      ∃ saved worked outcome reported,
        transcript = ⟨.store (.load key), .ok saved⟩ :: (worked ++ reported) ∧
        Program.Trace (provisionFrom options key spec saved).run worked outcome ∧
        (∀ exchange ∈ reported, Reports exchange.1) ∧
        ∀ failure, outcome = .error failure → ended = .error failure := by
  cases provisions with
  | alone =>
      obtain ⟨_, -, loads⟩ | ⟨saved, _, worked, rfl, loads, provisions⟩ := Pass.trace_of_bind trace
      · rw [Pass.trace_of_store loads]
        exact .inl (by simp [Reports])
      · rw [Pass.trace_of_store loads]
        exact .inr ⟨saved, worked, ended, [], by simp, provisions, by simp, fun _ => id⟩
  | reconciling =>
      cases reconciling_of_trace trace with
      | unloaded fault => exact .inl (by simp [Reports])
      | concluded provisions concludes =>
          exact .inr ⟨_, _, _, _, rfl, provisions, concludes.reports, concludes.fails⟩

/-- A refusal is not in what follows the work, so it is in the work. -/
theorem cut_refusal {worked reported : Transcript}
    (idle : ∀ exchange ∈ reported, exchange.1.IsIdle)
    (whole : before ++ refusal hostId params text :: after = worked ++ reported) :
    ∃ rest, worked = before ++ refusal hostId params text :: rest ∧ after = rest ++ reported := by
  obtain ⟨rest, rfl, split⟩ | ⟨rest, rfl, rfl⟩ := List.append_eq_append_iff.mp whole
  · cases rest with
    | nil =>
        have asked : refusal hostId params text ∈ [] ++ reported := split ▸ List.mem_cons_self
        exact absurd trivial (idle _ asked).composition
    | cons first rest =>
        obtain ⟨rfl, rfl⟩ := List.cons.inj split
        exact ⟨rest, rfl, rfl⟩
  · exact absurd trivial (idle (refusal hostId params text) (by simp)).composition

/-- MAAS refuses the key or the request, so another try cannot help. -/
def IsFinal : Maas.Error → Prop
  | .authentication _ | .invalidRequest _ => True
  | _ => False

/-- The pass fails with this error of MAAS, and is worth another try when the error is. -/
def FailsWith {α : Type} (error : Maas.Error) (result : Except Failure α) : Prop :=
  ∃ context, result = .error (.backend context error) ∧
    ((Failure.backend context error).isRetryable = true ↔ ¬IsFinal error)

/-- What a pass does about what it has found of a hostname that is in use. -/
inductive Settles {α : Type} (key : Key) (hostname : String) (refused : Maas.Error)
    (result : Except Failure α) : Except Maas.Error (Option Machine) → Transcript → Prop where
  /-- The machine is recorded, and no other one. -/
  | adopts {machine : Machine} {rest : Transcript} (zone : Option String)
      (reply : Except Failure Unit) (once : ∀ exchange ∈ rest, ¬exchange.1.IsRecord) :
      Settles key hostname refused result (.ok (some machine))
        (⟨.store (.recordInstance key (.new machine.systemId zone (some hostname))), reply⟩ :: rest)
  | unfound {rest : Transcript} (unrecorded : ∀ exchange ∈ rest, ¬exchange.1.IsRecord)
      (fails : FailsWith refused result) :
      Settles key hostname refused result (.ok none) rest
  | unlisted {error : Maas.Error} {rest : Transcript}
      (unrecorded : ∀ exchange ∈ rest, ¬exchange.1.IsRecord) (fails : FailsWith error result) :
      Settles key hostname refused result (.error error) rest

theorem failsWith_of_backend {α β : Type} {error : Maas.Error} {context : String}
    {outcome : Except Failure α} {ended : Except Failure β}
    (fails : ∀ failure, outcome = .error failure → ended = .error failure)
    (failed : outcome = .error (.backend context error)) : FailsWith error ended :=
  ⟨context, fails _ failed, by cases error <;> simp [Failure.isRetryable, IsFinal]⟩

/-- A pass that provisions and then reports settles a hostname that is in use. -/
theorem Adopting.settles {α : Type} {ended : Except Failure α} {reported : Transcript}
    (adopting : Adopting key hostname hostId text result after)
    (fails : ∀ failure, result = .error failure → ended = .error failure)
    (reporting : ∀ exchange ∈ reported, exchange.1.IsIdle) :
    (∀ exchange ∈ after, ¬exchange.1.IsComposition ∧ ¬exchange.1.CountsAllocation) ∧
      ∃ looked looks rest, after ++ reported = looks ++ rest ∧
        LooksUp hostname hostId looked looks ∧
        Settles key hostname (.hostnameInUse text) ended looked rest := by
  have idle {looks : Transcript} (labours : ∀ exchange ∈ looks, Labours exchange.1) :
      ∀ exchange ∈ looks, ¬exchange.1.IsComposition ∧ ¬exchange.1.CountsAllocation :=
    fun exchange mem => ⟨(labours exchange mem).isIdle.composition,
      (labours exchange mem).isIdle.allocation⟩
  have unrecorded : ∀ exchange ∈ reported, ¬exchange.1.IsRecord :=
    fun exchange mem => (reporting exchange mem).record
  cases adopting with
  | adopted found zone reply result labours =>
      refine ⟨List.forall_mem_append.mpr ⟨idle found.labours,
        List.forall_mem_cons.mpr ⟨⟨id, id⟩, idle labours⟩⟩, _, _, _, List.append_assoc .., found, ?_⟩
      exact .adopts zone reply (List.forall_mem_append.mpr
        ⟨fun exchange mem => (labours exchange mem).isIdle.record, unrecorded⟩)
  | unfound context nowhere =>
      exact ⟨idle nowhere.labours, _, _, _, rfl, nowhere,
        .unfound unrecorded (failsWith_of_backend fails rfl)⟩
  | unlisted context unlisted =>
      exact ⟨idle unlisted.labours, _, _, _, rfl, unlisted,
        .unlisted unrecorded (failsWith_of_backend fails rfl)⟩

/-- When MAAS refuses to compose because the hostname is in use, the pass composes nothing else and
    counts no allocation. It records the first machine of the hostname among all machines, or the
    first one among those of the host when there is none, and nothing before that. When neither list
    has one, or a list cannot be had, it records nothing and fails with what MAAS said. -/
theorem adopts_first_match {α : Type} {pass : Pass α} {ended : Except Failure α}
    (provisions : Provisions options key spec α pass)
    (trace : Program.Trace pass.run (before ++ refusal hostId params text :: after) ended) :
    params.hostname = spec.hostname.getD key.name ∧
      (∀ exchange ∈ before ++ after,
        ¬exchange.1.IsComposition ∧ ¬exchange.1.CountsAllocation) ∧
      (∀ exchange ∈ before, ¬exchange.1.IsRecord) ∧
      ∃ looked looks rest, after = looks ++ rest ∧
        LooksUp params.hostname hostId looked looks ∧
        Settles key params.hostname (.hostnameInUse text) ended looked rest := by
  obtain reports | ⟨saved, worked, outcome, reported, whole, provisioned, reports, fails⟩ :=
    provisions.reports trace
  · have report := reports _ (List.mem_append_right before (.head after))
    cases report
  have reporting : ∀ exchange ∈ reported, exchange.1.IsIdle :=
    fun exchange mem => (reports exchange mem).isIdle
  cases before with
  | nil =>
      obtain ⟨⟨⟩, -⟩ := List.cons.inj whole
  | cons loads surveyed =>
      obtain ⟨rfl, others⟩ := List.cons.inj whole
      obtain ⟨adopts, rfl, rfl⟩ := cut_refusal reporting others
      obtain ⟨named, surveys, adopting⟩ := adopting_of_provisionFrom provisioned
      obtain ⟨once, settles⟩ := adopting.settles fails reporting
      have idle : ∀ exchange ∈ surveyed, exchange.1.IsIdle :=
        fun exchange mem => (surveys exchange mem).isIdle
      refine ⟨named, ?_, ?_, named ▸ settles⟩
      · refine List.forall_mem_cons.mpr ⟨⟨id, id⟩, List.forall_mem_append.mpr ⟨?_,
          List.forall_mem_append.mpr ⟨once, ?_⟩⟩⟩
        · exact fun exchange mem => ⟨(idle exchange mem).composition, (idle exchange mem).allocation⟩
        · exact fun exchange mem =>
            ⟨(reporting exchange mem).composition, (reporting exchange mem).allocation⟩
      · exact List.forall_mem_cons.mpr ⟨id, fun exchange mem => (idle exchange mem).record⟩

/-- A deployed machine. -/
def lodger : Machine :=
  { systemId := "m1", hostname := "worker-0", cpuCount := 8, memory := 65536,
    statusName := "Deployed", powerState := "on" }

/-- A VM host, and a machine that has the hostname of a declared one. -/
def taken : World where
  region := (Region.empty.after (.addHost
      { id := 1, name := "host-1", kind := "lxd", zone := some ⟨1, "z1"⟩, pool := some ⟨1, "p1"⟩,
        machine := none, available := ⟨16, 65536, 1000000000000⟩, tags := [] })).after
    (.addMachine lodger)
  clock := ⟨0, 0⟩

/-- The machine is adopted for its hostname, and is not counted. -/
theorem adopts_first_match_taken :
    let key : Key := ⟨"metal", "worker-0"⟩
    let exchanges := taken.exchanges
      (reconcile {} key { minCpu := 1, minMemoryMib := 1024, mode := .virtualized })
    (∃ zone reply rest, exchanges.drop 5 =
      ⟨.store (.recordInstance key (.new "m1" zone (some "worker-0"))), reply⟩ :: rest) ∧
      ∀ exchange ∈ exchanges.take 3 ++ exchanges.drop 4, ¬exchange.1.CountsAllocation := by
  intro key exchanges
  let pass := reconcile {} key { minCpu := 1, minMemoryMib := 1024, mode := .virtualized }
  let params : Maas.ComposeParams :=
    { cores := 1, memory := 1024, storage := none, hostname := "worker-0", zone := some 1,
      pool := some 1, interfaces := none }
  let text := "Node with this Hostname already exists: worker-0"
  have split : exchanges = exchanges.take 3 ++ refusal 1 params text :: exchanges.drop 4 := by rfl
  have listed : exchanges.drop 4 =
      ⟨.maas (.listMachines [("hostname", "worker-0")]), .ok [lodger]⟩ :: exchanges.drop 5 := by rfl
  have trace : Program.Trace pass.run exchanges (taken.pass pass).1 :=
    Program.trace_exchanges World.answer pass.run taken
  rw [split] at trace
  obtain ⟨-, once, -, looked, looks, rest, after, found, settles⟩ :=
    adopts_first_match .reconciling trace
  refine ⟨?_, fun exchange mem => (once exchange mem).2⟩
  rw [listed] at after
  cases found with
  | everywhere first =>
      obtain ⟨⟨⟩, same⟩ := List.cons.inj after
      obtain rfl : lodger = _ := Option.some.inj first
      rw [same]
      cases settles with
      | adopts zone reply => exact ⟨zone, reply, _, rfl⟩
  | onHost others nowhere =>
      obtain ⟨⟨⟩, -⟩ := List.cons.inj after
      cases nowhere
  | unlisted error => obtain ⟨⟨⟩, -⟩ := List.cons.inj after
  | unlistedHost error nowhere =>
      obtain ⟨⟨⟩, -⟩ := List.cons.inj after
      cases nowhere

end MachineProvisioning.Engine
