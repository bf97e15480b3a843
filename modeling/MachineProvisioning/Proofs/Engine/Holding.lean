import MachineProvisioning.Proofs.Engine.Intake
import MachineProvisioning.Proofs.Engine.Runs

/-! # The machines that passes hold

A machine that a pass has allocated is held until it is released, and is lost when it is held and not
recorded. An account says what is recorded and what is held. A pass over a physical machine loses one
in two ways only: both the record and the release that makes up for it fail, or MAAS denies a machine
that is held.
-/

namespace MachineProvisioning.Engine

open Program (Exchange)
open Resource (Key Spec)
open Lifecycle (Instance)
open Store (Checkpoint)
open Maas (Machine)

/-- What is recorded of a machine, and the machines that its passes hold. -/
structure Account where
  recorded : Option Checkpoint := none
  held : List String := []

namespace Account

/-- What is held after an exchange. -/
def hold (held : List String) : (effect : Effect) → effect.Answer → List String
  | .maas (.allocate _), .ok machine => held.insert machine.systemId
  | .maas (.release x _), .ok _ => held.filter (· ≠ x)
  | _, _ => held

/-- The account after an exchange. -/
def after (key : Key) (account : Account) (exchange : Exchange Effect Effect.Answer) : Account where
  recorded := recordAfter key account.recorded exchange.1 exchange.2
  held := hold account.held exchange.1 exchange.2

/-- The account after a pass. -/
def afterAll (key : Key) (account : Account) (transcript : Transcript) : Account :=
  transcript.foldl (after key) account

@[simp] theorem afterAll_append (key : Key) (account : Account) (past : Transcript)
    (exchange : Exchange Effect Effect.Answer) :
    account.afterAll key (past ++ [exchange]) = (account.afterAll key past).after key exchange := by
  simp [afterAll]

/-- Every machine that is held is recorded. -/
def Tracked (account : Account) : Prop :=
  ∀ x ∈ account.held, ∃ checkpoint, account.recorded = some checkpoint ∧ checkpoint.instanceId = x

end Account

/-- MAAS answers that it does not know this machine. -/
def Denies (systemId : String) : (effect : Effect) → effect.Answer → Prop
  | .maas (.getMachine x), .error (.notFound _) => x = systemId
  | .maas (.release x _), .error (.notFound _) => x = systemId
  | _, _ => False

/-- The pass gives the machine up without having released it: neither the record nor the release
    that makes up for it succeeds, or the record is cleared because MAAS denies the machine. -/
def Abandons (key : Key) (systemId : String) (transcript : Transcript) : Prop :=
  (∃ checkpoint fault error, checkpoint.instanceId = systemId ∧
    ⟨.store (.recordInstance key checkpoint), .error fault⟩ ∈ transcript ∧
    ⟨.maas (.release systemId false), .error error⟩ ∈ transcript) ∨
  ⟨.store (.clearInstance key), .ok ()⟩ ∈ transcript ∧
    ∃ exchange ∈ transcript, Denies systemId exchange.1 exchange.2

/-- The pass abandons a machine that is still held after it. -/
def Loses (key : Key) (account : Account) (transcript : Transcript) : Prop :=
  ∃ x ∈ (account.afterAll key transcript).held, Abandons key x transcript

/-- The exchange ends the way a record or its absence was: a record fails or is cleared. -/
def Cuts (key : Key) : (effect : Effect) → effect.Answer → Prop
  | .store (.recordInstance k _), .error _ => k = key
  | .store (.clearInstance k), .ok _ => k = key
  | _, _ => False

/-- A machine is answered about under its id, and a read gives what is recorded. -/
def Truthful (key : Key) (account : Account) (exchange : Exchange Effect Effect.Answer) : Prop :=
  (∀ x, Carries x exchange.1 exchange.2) ∧
    Reads key account.recorded exchange.1 exchange.2

/-- Passes from an account, with truthful answers and any failures. -/
def holding (key : Key) (account : Account) : Discipline Transcript :=
  .history (fun _ _ => True) fun past exchange =>
    Truthful key (account.afterAll key past) exchange

variable {key : Key} {account : Account} {past : Transcript} {x hostname : String} {spec : Spec}

/-- No record has failed or been cleared. -/
def Uncut (key : Key) (past : Transcript) : Prop :=
  ∀ exchange ∈ past, ¬Cuts key exchange.1 exchange.2

theorem Uncut.append (uncut : Uncut key past) (effect : Effect) (answer : effect.Answer)
    (goesOn : ¬Cuts key effect answer) : Uncut key (past ++ [⟨effect, answer⟩]) :=
  List.forall_mem_append.mpr ⟨uncut, List.forall_mem_singleton.mpr goesOn⟩

theorem Abandons.not_uncut (abandons : Abandons key x past) (uncut : Uncut key past) : False := by
  rcases abandons with ⟨checkpoint, fault, error, -, mem, -⟩ | ⟨mem, -⟩
  · exact uncut _ mem rfl
  · exact uncut _ mem rfl

/-- The pass has kept every machine recorded that it holds, exactly when it has lost none. -/
def Settled (key : Key) (account : Account) (past : Transcript) : Prop :=
  (account.afterAll key past).Tracked ↔ ¬Loses key account past

/-- No failure of a pass unsettles it. -/
def settling (key : Key) (account : Account) (_ : Failure) (past : Transcript) : Prop :=
  Settled key account past

/-- This machine is recorded, or none is, and no other one is held. -/
structure Backs (key : Key) (account : Account) (owner : Option String) (past : Transcript) :
    Prop where
  recorded : (account.afterAll key past).recorded.map (·.instanceId) = owner
  held : ∀ x ∈ (account.afterAll key past).held, owner = some x
  uncut : Uncut key past

theorem Backs.settled {owner : Option String} (backs : Backs key account owner past) :
    Settled key account past := by
  constructor
  · intro _ loses
    obtain ⟨x, -, abandons⟩ := loses
    exact abandons.not_uncut backs.uncut
  · intro _ x held
    exact Option.map_eq_some_iff.mp (backs.recorded.trans (backs.held x held))

/-- The exchange changes no account and ends nothing. -/
def Passive (key : Key) (effect : Effect) : Prop :=
  ∀ answer, (∀ account : Account, account.after key ⟨effect, answer⟩ = account) ∧
    ¬Cuts key effect answer

theorem passive_of_harmless {effect : Effect} (harmless : Surveys effect ∨ Inspects effect ∨
    (∃ event, effect = .count event) ∨ effect = .store (.load key) ∨
      ∃ x name, Tends x name effect) : Passive key effect := by
  intro answer
  cases effect with
  | maas call =>
      cases call <;>
        first
        | exact ⟨fun _ => rfl, id⟩
        | (obtain h | h | ⟨_, h⟩ | h | ⟨_, _, h⟩ := harmless) <;> cases h
  | store call =>
      cases call <;>
        first
        | exact ⟨fun _ => rfl, id⟩
        | (obtain h | h | ⟨_, h⟩ | h | ⟨_, _, h⟩ := harmless) <;> cases h
  | _ => exact ⟨fun _ => rfl, id⟩

variable {owner : Option String}

theorem Backs.append (backs : Backs key account owner past) (effect : Effect)
    (answer : effect.Answer)
    (recorded : ∀ before : Account, (before.after key ⟨effect, answer⟩).recorded = before.recorded)
    (held : ∀ y ∈ ((account.afterAll key past).after key ⟨effect, answer⟩).held, owner = some y)
    (goesOn : ¬Cuts key effect answer) :
    Backs key account owner (past ++ [⟨effect, answer⟩]) where
  recorded := by
    rw [Account.afterAll_append, recorded]
    exact backs.recorded
  held := by
    rw [Account.afterAll_append]
    exact held
  uncut := backs.uncut.append effect answer goesOn

theorem Backs.passive (backs : Backs key account owner past) {effect : Effect}
    (passive : Passive key effect) (answer : effect.Answer) :
    Backs key account owner (past ++ [⟨effect, answer⟩]) := by
  obtain ⟨same, goesOn⟩ := passive answer
  refine backs.append effect answer (fun before => by rw [same before]) ?_ goesOn
  rw [same]
  exact backs.held

/-- A refused call changes no account. -/
theorem Backs.refused (backs : Backs key account owner past) (call : Maas.Call)
    (error : Maas.Error) : Backs key account owner (past ++ [⟨.maas call, .error error⟩]) := by
  have same : ∀ before : Account, before.after key ⟨.maas call, .error error⟩ = before := by
    intro before
    cases call <;> rfl
  have goesOn : ¬Cuts key (.maas call) (.error error) := by
    cases call <;> exact id
  refine backs.append _ _ (fun before => by rw [same before]) ?_ goesOn
  rw [same]
  exact backs.held

theorem holding_tolerates_passive :
    (holding key account).Tolerates (Backs key account owner) (Passive key) := by
  intro past effect backs passive
  refine ⟨trivial, ?_⟩
  intro answer s' leads
  obtain ⟨-, rfl⟩ := leads
  exact backs.passive passive answer

/-! ## Giving a machine back -/

/-- The machine is not held any more, or MAAS denies it. -/
def Gone (key : Key) (account : Account) (x : String) (past : Transcript) : Prop :=
  (∀ y ∈ (account.afterAll key past).held, y ≠ x) ∨
    ∃ exchange ∈ past, Denies x exchange.1 exchange.2

/-- The machine has been given back, while the record has not changed. -/
def Freed (key : Key) (account : Account) (owner : Option String) (x : String)
    (past : Transcript) : Prop :=
  Backs key account owner past ∧ Gone key account x past

theorem Gone.append {x : String} (gone : Gone key account x past) (effect : Effect)
    (answer : effect.Answer)
    (same : ∀ before : Account, (before.after key ⟨effect, answer⟩).held = before.held) :
    Gone key account x (past ++ [⟨effect, answer⟩]) := by
  rcases gone with absent | ⟨exchange, mem, denies⟩
  · refine .inl ?_
    rw [Account.afterAll_append, same]
    exact absent
  · exact .inr ⟨exchange, List.mem_append_left _ mem, denies⟩

theorem holding_tolerates_freed :
    (holding key account).Tolerates (Freed key account owner x) (Passive key) := by
  intro past effect found passive
  obtain ⟨backs, gone⟩ := found
  refine ⟨trivial, ?_⟩
  intro answer s' leads
  obtain ⟨-, rfl⟩ := leads
  exact ⟨backs.passive passive answer,
    gone.append effect answer fun before => by rw [(passive answer).1 before]⟩

/-- The record is cleared, after the machine was given back. -/
structure Cleared (key : Key) (account : Account) (x : String) (past : Transcript) : Prop where
  recorded : (account.afterAll key past).recorded = none
  held : ∀ y ∈ (account.afterAll key past).held, y = x
  clears : ⟨.store (.clearInstance key), .ok ()⟩ ∈ past
  gone : Gone key account x past

theorem Cleared.settled (cleared : Cleared key account x past) : Settled key account past := by
  constructor
  · intro tracked loses
    obtain ⟨y, held, -⟩ := loses
    obtain ⟨checkpoint, recorded, -⟩ := tracked y held
    rw [cleared.recorded] at recorded
    cases recorded
  · intro keeps y held
    obtain rfl := cleared.held y held
    rcases cleared.gone with absent | denied
    · exact absurd rfl (absent y held)
    · exact absurd ⟨y, held, .inr ⟨cleared.clears, denied⟩⟩ keeps

theorem holding_tolerates_cleared :
    (holding key account).Tolerates (Cleared key account x) (Passive key) := by
  intro past effect cleared passive
  refine ⟨trivial, ?_⟩
  intro answer s' leads
  obtain ⟨-, rfl⟩ := leads
  have same := (passive answer).1
  exact
    { recorded := by rw [Account.afterAll_append, same]; exact cleared.recorded
      held := by rw [Account.afterAll_append, same]; exact cleared.held
      clears := List.mem_append_left _ cleared.clears
      gone := cleared.gone.append effect answer fun before => by rw [same before] }

theorem holding_frees {force : Bool} (backs : Backs key account owner past) :
    Frees (holding key account) x force (Freed key account owner x) (Backs key account owner)
      past where
  allowed := trivial
  released := by
    intro s' leads
    obtain ⟨-, rfl⟩ := leads
    have remains : ∀ y ∈ ((account.afterAll key past).after key
        ⟨.maas (.release x force), .ok ()⟩).held, y ∈ (account.afterAll key past).held ∧ y ≠ x :=
      fun y mem => by simpa [Account.after, Account.hold] using mem
    refine ⟨backs.append _ _ (fun _ => rfl) (fun y mem => backs.held y (remains y mem).1) id, .inl ?_⟩
    rw [Account.afterAll_append]
    exact fun y mem => (remains y mem).2
  gone := by
    intro text s' leads
    obtain ⟨-, rfl⟩ := leads
    refine ⟨backs.refused _ _, .inr ?_⟩
    exact ⟨_, List.mem_append_right past (.head []), rfl⟩
  failed := by
    intro error s' leads
    obtain ⟨-, rfl⟩ := leads
    exact backs.refused _ _

theorem holding_clear {ok : Unit → Transcript → Prop} (freed : Freed key account (some x) x past)
    (ends : ∀ past, Cleared key account x past → ok () past) :
    (Pass.store (.clearInstance key)).Ensures (holding key account) ok (settling key account)
      past := by
  obtain ⟨backs, gone⟩ := freed
  refine Pass.ensures_store.mpr ⟨trivial, ?_, ?_⟩
  · intro value s' leads
    obtain ⟨-, rfl⟩ := leads
    refine ends _ ?_
    exact
      { recorded := by
          rw [Account.afterAll_append]
          exact if_pos rfl
        held := by
          rw [Account.afterAll_append]
          exact fun y mem => (Option.some.inj (backs.held y mem)).symm
        clears := List.mem_append_right past (.head [])
        gone := gone.append _ _ fun _ => rfl }
  · intro fault s' leads
    obtain ⟨-, rfl⟩ := leads
    exact (backs.append (.store (.clearInstance key)) (.error fault) (fun _ => rfl) backs.held
      id).settled

theorem holding_counts_freed : Counts (holding key account) (Freed key account owner x) :=
  holding_tolerates_freed.mono fun _ h => passive_of_harmless (.inr (.inr (.inl h)))

theorem passive_getMachine (x : String) : Passive key (.maas (.getMachine x)) :=
  passive_of_harmless (.inl trivial)

theorem passive_load : Passive key (.store (.load key)) :=
  passive_of_harmless (.inr (.inr (.inr (.inl rfl))))

/-- The record of a machine given back is read and, if it is the one of the machine, cleared. -/
theorem holding_recoverBroken {α : Type} {ok : α → Transcript → Prop} (hostId : Option String)
    (backs : Backs key account owner past) :
    (recoverBroken key x hostId : Pass α).Ensures (holding key account) ok (settling key account)
      past := by
  have inspects : (holding key account).Tolerates
      (fun past => Backs key account owner past ∨ Cleared key account x past) Inspects :=
    (holding_tolerates_passive.or holding_tolerates_cleared).mono
      fun _ h => passive_of_harmless (.inr (.inl h))
  refine recoverBroken_ensures hostId (holding_frees backs) holding_counts_freed
    (fun _ _ _ backs => backs.settled) ?_ inspects ?_
  · intro past freed
    obtain ⟨allowed, keeps⟩ := holding_tolerates_freed past _ freed passive_load
    refine Pass.ensures_store.mpr ⟨allowed, ?_, ?_⟩
    · intro saved s' leads
      have kept := keeps _ s' leads
      have names : saved.checkpoint.map (·.instanceId) = owner := by
        rw [leads.1.2 saved rfl]
        exact freed.1.recorded
      rw [names]
      split
      · next own =>
          subst own
          exact holding_clear kept fun _ cleared => .inr cleared
      · exact .inl kept.1
    · exact fun fault s' leads => (keeps _ s' leads).1.settled
  · intro past either
    obtain backs | cleared := either
    · exact backs.settled
    · exact cleared.settled

theorem holding_release (backs : Backs key account (some x) past) :
    (release key x).Ensures (holding key account)
      (fun _ => Closes (settling key account)) (settling key account) past :=
  release_ensures (holding_frees backs) (fun _ backs => holding_frees backs) holding_counts_freed
    (fun _ _ _ backs => backs.settled)
    fun _ freed => holding_clear freed fun _ cleared _ _ => cleared.settled

theorem holding_failWith {α : Type} {ok : α → Transcript → Prop} {context : String}
    {target : Option String} {error : Maas.Error} (backs : Backs key account owner past) :
    (failWith key context target error : Pass α).Ensures (holding key account) ok
      (settling key account) past := by
  refine failWith_ensures (Backs key account owner) ?_ (fun _ _ _ backs => backs.settled) ?_ ?_ backs
  · exact holding_tolerates_passive.mono fun _ h => passive_of_harmless (.inl h.surveys)
  · exact fun x _ hostId past backs => holding_recoverBroken hostId backs
  · exact fun x hostId _ _ past backs => holding_recoverBroken hostId backs

/-! ## Going on with a machine and taking one -/

theorem holding_sustains :
    Sustains (holding key account) (Backs key account (some x)) key (· = x) hostname
      (settling key account) where
  tends y _ := holding_tolerates_passive.mono fun _ h =>
    passive_of_harmless (.inr (.inr (.inr (.inr ⟨y, hostname, h⟩))))
  fails _ _ _ backs := backs.settled
  reallocates _ _ _ _ := trivial
  reallocated := by
    intro y past machine s' same backs leads
    obtain rfl := same
    obtain ⟨⟨carries, -⟩, rfl⟩ := leads
    have own : machine.systemId = y := carries y rfl
    refine ⟨own, backs.append _ _ (fun _ => rfl) ?_ id⟩
    intro z mem
    rcases List.mem_insert_iff.mp mem with rfl | mem
    · exact congrArg some own.symm
    · exact backs.held z mem
  deployed := by
    intro y params past machine s' same _ leads
    obtain rfl := same
    obtain ⟨⟨carries, -⟩, -⟩ := leads
    exact carries y rfl
  poweredOn := by
    intro y past machine s' same _ leads
    obtain rfl := same
    obtain ⟨⟨carries, -⟩, -⟩ := leads
    exact carries y rfl
  recovers := by
    intro y call error past s' same backs _ leads context α ok
    obtain rfl := same
    obtain ⟨-, rfl⟩ := leads
    exact holding_failWith (backs.refused call error)

/-- A machine has just been allocated. -/
structure Takes (key : Key) (account : Account) (systemId : String) (past : Transcript) : Prop where
  recorded : (account.afterAll key past).recorded = none
  held : (account.afterAll key past).held = [systemId]
  uncut : Uncut key past

theorem holding_acquires :
    Acquires (holding key account) (Backs key account none) (Takes key account)
      (fun x => Backs key account (some x)) key (settling key account) where
  surveys := holding_tolerates_passive.mono fun _ h => passive_of_harmless (.inl h)
  fails _ _ _ backs := backs.settled
  unannotated := by
    intro name value past fault past' backs leads
    have surveys : Surveys (.store (.annotate key name value)) := trivial
    exact ((holding_tolerates_passive past _ backs (passive_of_harmless (.inl surveys))).2 _ past'
      leads).settled
  records _ _ _ _ _ := trivial
  recorded := by
    intro x past checkpoint s' takes names leads
    obtain ⟨-, rfl⟩ := leads
    exact
      { recorded := by
          rw [Account.afterAll_append]
          simp [Account.after, recordAfter, names]
        held := by
          rw [Account.afterAll_append]
          simp [Account.after, Account.hold, takes.held]
        uncut := takes.uncut.append _ _ id }
  counts _ := holding_tolerates_passive.mono fun _ h => passive_of_harmless (.inr (.inr (.inl h)))

theorem Backs.held_nil (backs : Backs key account none past) :
    (account.afterAll key past).held = [] :=
  List.eq_nil_iff_forall_not_mem.mpr fun x mem => nomatch backs.held x mem

/-- A record that fails leaves a machine that nothing records, unless its release succeeds. -/
theorem Takes.unrecorded (takes : Takes key account x past) {checkpoint : Checkpoint}
    (names : checkpoint.instanceId = x) (fault : Failure)
    (reply : Except Maas.Error Unit) :
    Settled key account (past ++ [⟨.store (.recordInstance key checkpoint), .error fault⟩] ++
      [⟨.maas (.release x false), reply⟩]) := by
  unfold Settled Loses Account.Tracked
  rw [Account.afterAll_append, Account.afterAll_append]
  cases reply with
  | ok value =>
      have none_held : (((account.afterAll key past).after key
          ⟨.store (.recordInstance key checkpoint), .error fault⟩).after key
            ⟨.maas (.release x false), .ok value⟩).held = [] := by
        simp [Account.after, Account.hold, takes.held]
      simp [none_held]
  | error error =>
      have held : x ∈ (((account.afterAll key past).after key
          ⟨.store (.recordInstance key checkpoint), .error fault⟩).after key
            ⟨.maas (.release x false), .error error⟩).held := by
        simp [Account.after, Account.hold, takes.held]
      constructor
      · intro tracked
        obtain ⟨other, recorded, -⟩ := tracked x held
        cases takes.recorded.symm.trans recorded
      · intro keeps
        refine absurd ⟨x, held, .inl ⟨checkpoint, fault, error, names, ?_, ?_⟩⟩ keeps
        · simp
        · simp

theorem holding_allocates :
    Allocates (holding key account) (Backs key account none) (Takes key account) (fun _ => True) key
      spec (settling key account) where
  allowed _ _ := trivial
  allocated := by
    intro past machine s' backs leads
    obtain ⟨-, rfl⟩ := leads
    refine ⟨trivial, ?_⟩
    exact
      { recorded := by
          rw [Account.afterAll_append]
          exact Option.map_eq_none_iff.mp backs.recorded
        held := by
          rw [Account.afterAll_append]
          simp [Account.after, Account.hold, backs.held_nil]
        uncut := backs.uncut.append _ _ id }
  refused := by
    intro past error s' backs leads
    obtain ⟨-, rfl⟩ := leads
    have kept := backs.refused (.allocate (allocation spec)) error
    exact ⟨fun _ _ => kept.settled, fun context ok => holding_failWith kept⟩
  unrecorded := by
    intro y past checkpoint fault s' takes names leads
    obtain ⟨-, rfl⟩ := leads
    refine ⟨trivial, ?_⟩
    intro reply s' leads
    obtain ⟨-, rfl⟩ := leads
    exact takes.unrecorded names fault reply

theorem holding_resumes {checkpoint : Checkpoint}
    (backs : Backs key account (some checkpoint.instanceId) past) :
    Resumes (holding key account) (Backs key account (some checkpoint.instanceId)) key
      (· = checkpoint.instanceId) checkpoint.instanceId (settling key account) past where
  allowed := trivial
  seen := by
    intro machine s' leads
    obtain ⟨⟨carries, -⟩, rfl⟩ := leads
    exact ⟨carries _ rfl, backs.passive (passive_getMachine _) _⟩
  broken := by
    intro machine s' leads _ hostId ok
    obtain ⟨-, rfl⟩ := leads
    exact holding_recoverBroken hostId (backs.passive (passive_getMachine _) _)
  failed := by
    intro machine s' leads _
    obtain ⟨⟨carries, -⟩, rfl⟩ := leads
    have own : machine.systemId = checkpoint.instanceId := carries _ rfl
    rw [own]
    exact holding_release (backs.passive (passive_getMachine _) _)
  gone := by
    intro text s' leads
    obtain ⟨-, rfl⟩ := leads
    refine holding_clear ⟨backs.refused _ _, .inr ?_⟩ fun _ cleared _ _ => cleared.settled
    exact ⟨_, List.mem_append_right past (.head []), rfl⟩
  refused := by
    intro error s' leads failure _
    obtain ⟨-, rfl⟩ := leads
    exact (backs.refused _ _).settled

/-- A pass over a physical machine from a tracked account is settled at the end. -/
theorem holding_provision (options : Options) (mode : spec.mode = .bareMetal)
    (tracked : account.Tracked) :
    (provision options key spec).Ensures (holding key account)
      (fun _ past => Settled key account past) (settling key account) [] := by
  have start : ∀ owner, account.recorded.map (·.instanceId) = owner →
      Backs key account owner [] := by
    intro owner recorded
    refine ⟨recorded, ?_, fun _ mem => nomatch mem⟩
    intro x mem
    obtain ⟨checkpoint, same, names⟩ := tracked x mem
    rw [← recorded, same, Option.map_some, names]
  refine Pass.ensures_bind.mpr (Pass.ensures_store.mpr ⟨trivial, ?_, ?_⟩)
  · intro saved past leads
    have kept := fun owner (recorded : account.recorded.map (·.instanceId) = owner) =>
      (start owner recorded).passive passive_load (.ok saved)
    obtain ⟨⟨-, reads⟩, rfl⟩ := leads
    have names : saved.checkpoint = account.recorded := reads saved rfl
    unfold provisionFrom
    cases recorded : saved.checkpoint with
    | none =>
        rw [mode]
        have free := kept none (by rw [← names, recorded]; rfl)
        refine allocateBareMetal_ensures holding_acquires holding_allocates ?_ free
        intro machine past _ backs
        exact (holding_sustains.continueBareMetal options rfl rfl backs
          (fun _ hostId ok => holding_recoverBroken hostId backs)
          fun _ => holding_release backs).mono (fun _ _ kept => kept.2.settled) fun _ _ => id
    | some checkpoint =>
        have backs := kept (some checkpoint.instanceId) (by rw [← names, recorded]; rfl)
        exact (holding_sustains.resume options rfl (holding_resumes backs)).mono
          (fun _ _ kept => kept.2.settled) fun _ _ => id
  · intro fault past leads
    obtain ⟨-, rfl⟩ := leads
    exact ((start _ rfl).passive passive_load (.error fault)).settled

/-- After a pass over a physical machine all that is held is recorded, exactly when the pass has lost
    nothing. -/
theorem tracked_iff_not_loses {options : Options} {transcript : Transcript}
    {result : Except Failure Instance} (mode : spec.mode = .bareMetal) (tracked : account.Tracked)
    (trace : Program.Trace (provision options key spec).run transcript result)
    (truthful : ∀ before exchange after, transcript = before ++ exchange :: after →
      Truthful key (account.afterAll key before) exchange) :
    (account.afterAll key transcript).Tracked ↔ ¬Loses key account transcript := by
  obtain ⟨ends, -⟩ := (holding_provision options mode tracked).trace trace truthful
  cases result with
  | ok seen => exact ends
  | error failure => exact ends

end MachineProvisioning.Engine
