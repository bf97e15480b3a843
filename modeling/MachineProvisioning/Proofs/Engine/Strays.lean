import MachineProvisioning.Proofs.Engine.Holding
import MachineProvisioning.Proofs.Engine.Tasks

/-! # Machines that no record leads to

A task takes a machine by an allocation or by a composition, and holds it until it is released. A
machine that is held and not recorded is a stray: every task goes by the record. A machine strays in
two ways only: its record fails, or MAAS denies it while it is held. The proof follows one machine
through answers that do neither. A cleanup that succeeds leaves no record, and of the machines that
are held the strays and the one that MAAS has denied.
-/

namespace MachineProvisioning.Engine

open Program (Exchange)
open Resource (Key Spec)
open Store (Checkpoint Saved)
open Maas (Machine)

namespace Account

/-- What is held after an exchange, composed machines among it. -/
def keep (held : List String) : (effect : Effect) → effect.Answer → List String
  | .maas (.compose _ _), .ok vm => held.insert vm.systemId
  | effect, answer => hold held effect answer

/-- The account after an exchange, with composed machines held. -/
def next (key : Key) (account : Account) (exchange : Exchange Effect Effect.Answer) : Account where
  recorded := recordAfter key account.recorded exchange.1 exchange.2
  held := keep account.held exchange.1 exchange.2

/-- The account after a task, with composed machines held. -/
def nextAll (key : Key) (account : Account) (transcript : Transcript) : Account :=
  transcript.foldl (next key) account

/-- The machine is held, and the record does not name it. -/
structure Strays (account : Account) (x : String) : Prop where
  held : x ∈ account.held
  unrecorded : account.recorded.map (·.instanceId) ≠ some x

variable {key : Key} {account : Account}

@[simp] theorem nextAll_append (past : Transcript) (exchange : Exchange Effect Effect.Answer) :
    account.nextAll key (past ++ [exchange]) = (account.nextAll key past).next key exchange := by
  simp [nextAll]

/-- What is recorded does not depend on what is held. -/
theorem recorded_nextAll {other : Account} (same : account.recorded = other.recorded)
    (transcript : Transcript) :
    (account.nextAll key transcript).recorded = (other.afterAll key transcript).recorded := by
  induction transcript generalizing account other with
  | nil => exact same
  | cons exchange rest ih =>
      exact ih (congrArg (recordAfter key · exchange.1 exchange.2) same)

@[simp] theorem next_refused (call : Maas.Call) (error : Maas.Error) :
    account.next key ⟨.maas call, .error error⟩ = account := by
  cases call <;> rfl

@[simp] theorem next_unwritten (call : Store.Call) (fault : Failure) :
    account.next key ⟨.store call, .error fault⟩ = account := by
  cases call <;> rfl

end Account

/-- The machine is given up without a release: its record fails, or MAAS does not know it. -/
def Deserts (key : Key) (systemId : String) : (effect : Effect) → effect.Answer → Prop
  | .store (.recordInstance k checkpoint), .error _ => k = key ∧ checkpoint.instanceId = systemId
  | effect, answer => Denies systemId effect answer

/-- Tasks with truthful answers, none of which makes them desert the machine. -/
def minding (key : Key) (systemId : String) : Discipline Account where
  allows _ _ := True
  leads account effect answer account' :=
    account' = account.next key ⟨effect, answer⟩ ∧ Truthful key account ⟨effect, answer⟩ ∧
      ¬Deserts key systemId effect answer

variable {key : Key} {account : Account} {owner : Option String} {x y hostname : String} {spec : Spec}

/-- No answer to the request changes any account. -/
def Quiet (key : Key) (effect : Effect) : Prop :=
  ∀ account answer, Account.next key account ⟨effect, answer⟩ = account

theorem quiet_of_harmless {effect : Effect} (harmless : Surveys effect ∨ Inspects effect ∨
    (∃ event, effect = .count event) ∨ effect = .store (.load key) ∨
      ∃ x name, Tends x name effect) : Quiet key effect := by
  intro account answer
  have same := (passive_of_harmless harmless answer).1 account
  cases effect with
  | maas call =>
      cases call with
      | compose => obtain h | h | ⟨_, h⟩ | h | ⟨_, _, h⟩ := harmless <;> cases h
      | _ => exact same
  | _ => exact same

theorem quiet_of_concludes {effect : Effect} (concludes : Concludes effect) : Quiet key effect := by
  intro account answer
  unfold Concludes at concludes
  split at concludes
  · rfl
  · rfl
  · rfl
  · cases concludes

theorem quiet_load : Quiet key (.store (.load key)) :=
  quiet_of_harmless (.inr (.inr (.inr (.inl rfl))))

theorem quiet_getMachine (y : String) : Quiet key (.maas (.getMachine y)) :=
  quiet_of_harmless (.inl trivial)

/-- Quiet requests keep every invariant. -/
theorem minding_tolerates_quiet (invariant : Account → Prop) :
    (minding key x).Tolerates invariant (Quiet key) := by
  intro account effect kept quiet
  refine ⟨trivial, ?_⟩
  rintro answer account' ⟨rfl, -⟩
  rwa [quiet account answer]

theorem minding_counts (invariant : Account → Prop) : Counts (minding key x) invariant :=
  (minding_tolerates_quiet invariant).mono fun _ h => quiet_of_harmless (.inr (.inr (.inl h)))

/-- This machine is recorded, or none is, and if the one that is followed is held it is this one. -/
structure Minds (x : String) (owner : Option String) (account : Account) : Prop where
  recorded : account.recorded.map (·.instanceId) = owner
  held : x ∈ account.held → owner = some x

theorem Minds.not_strays (minds : Minds x owner account) : ¬account.Strays x := fun strays =>
  strays.unrecorded (minds.recorded.trans (minds.held strays.held))

theorem minds_of_not_strays (tame : ¬account.Strays x) :
    Minds x (account.recorded.map (·.instanceId)) account :=
  ⟨rfl, fun held => Classical.byContradiction fun other => tame ⟨held, other⟩⟩

/-- However a task fails, the machine does not stray. -/
def tidy (x : String) (_ : Failure) (account : Account) : Prop := ¬account.Strays x

/-- The machine has been given back, and is not held if it is the one that is followed. -/
structure Rid (x y : String) (owner : Option String) (account : Account) : Prop where
  minds : Minds x owner account
  gone : y = x → x ∉ account.held

theorem minding_frees {force : Bool} (minds : Minds x owner account) :
    Frees (minding key x) y force (Rid x y owner) (Minds x owner) account where
  allowed := trivial
  released := by
    rintro _ ⟨rfl, -⟩
    have left : ∀ z, z ∈ (account.next key ⟨.maas (.release y force), .ok ()⟩).held →
        z ∈ account.held ∧ z ≠ y := fun z mem => by
      simpa [Account.next, Account.keep, Account.hold] using mem
    refine ⟨⟨minds.recorded, fun mem => minds.held (left x mem).1⟩, ?_⟩
    rintro rfl mem
    exact (left y mem).2 rfl
  gone := by
    rintro text _ ⟨rfl, -, kept⟩
    rw [Account.next_refused]
    exact ⟨minds, fun same => absurd same kept⟩
  failed := by
    rintro error _ ⟨rfl, -⟩
    rwa [Account.next_refused]

theorem minding_clear (rid : Rid x y (some y) account) :
    (Pass.store (.clearInstance key)).Ensures (minding key x) (fun _ => Minds x none) (tidy x)
      account := by
  refine Pass.ensures_store.mpr ⟨trivial, ?_, ?_⟩
  · rintro value _ ⟨rfl, -⟩
    have free : x ∉ account.held := fun mem => rid.gone (Option.some.inj (rid.minds.held mem)) mem
    exact ⟨by simp [Account.next, recordAfter], fun mem => absurd mem free⟩
  · rintro fault _ ⟨rfl, -⟩
    rw [Account.next_unwritten]
    exact rid.minds.not_strays

theorem minding_release (minds : Minds x (some y) account) :
    (release key y).Ensures (minding key x) (fun _ => Minds x none) (tidy x) account :=
  release_ensures (minding_frees minds) (fun _ kept => minding_frees kept) (minding_counts _)
    (fun _ _ _ kept => kept.not_strays) fun _ rid => minding_clear rid

theorem minding_recoverBroken {α : Type} {ok : α → Account → Prop} (hostId : Option String)
    (minds : Minds x owner account) :
    (recoverBroken key y hostId : Pass α).Ensures (minding key x) ok (tidy x) account := by
  have inspects : (minding key x).Tolerates (fun account => ¬account.Strays x) Inspects :=
    (minding_tolerates_quiet _).mono fun _ h => quiet_of_harmless (.inr (.inl h))
  refine recoverBroken_ensures hostId (minding_frees minds) (minding_counts _)
    (fun _ _ _ kept => kept.not_strays) ?_ inspects fun _ => id
  intro freed rid
  refine Pass.ensures_store.mpr ⟨trivial, ?_, ?_⟩
  · rintro saved _ ⟨rfl, ⟨-, reads⟩, -⟩
    have names : saved.checkpoint.map (·.instanceId) = owner := by
      rw [reads saved rfl]
      exact rid.minds.recorded
    rw [quiet_load, names]
    split
    · next own =>
        subst own
        exact (minding_clear rid).mono (fun _ _ kept => kept.not_strays) fun _ _ => id
    · exact rid.minds.not_strays
  · rintro fault _ ⟨rfl, -⟩
    rw [Account.next_unwritten]
    exact rid.minds.not_strays

theorem minding_failWith {α : Type} {ok : α → Account → Prop} {context : String}
    {target : Option String} {error : Maas.Error} (minds : Minds x owner account) :
    (failWith key context target error : Pass α).Ensures (minding key x) ok (tidy x) account := by
  refine failWith_ensures (Minds x owner) ?_ (fun _ _ _ kept => kept.not_strays) ?_ ?_ minds
  · exact (minding_tolerates_quiet _).mono fun _ h => quiet_of_harmless (.inl h.surveys)
  · exact fun _ _ hostId _ kept => minding_recoverBroken hostId kept
  · exact fun _ hostId _ _ _ kept => minding_recoverBroken hostId kept

theorem minding_sustains :
    Sustains (minding key x) (Minds x (some y)) key (· = y) hostname (tidy x) where
  tends z _ := (minding_tolerates_quiet _).mono fun _ h =>
    quiet_of_harmless (.inr (.inr (.inr (.inr ⟨z, hostname, h⟩))))
  fails _ _ _ kept := kept.not_strays
  reallocates _ _ _ _ := trivial
  reallocated := by
    rintro z account machine _ same minds ⟨rfl, ⟨carries, -⟩, -⟩
    obtain rfl := same
    have own : machine.systemId = z := carries z rfl
    refine ⟨own, minds.recorded, fun mem => ?_⟩
    rcases List.mem_insert_iff.mp mem with rfl | mem
    · exact congrArg some own.symm
    · exact minds.held mem
  deployed := by
    rintro z params account machine _ same - ⟨-, ⟨carries, -⟩, -⟩
    exact (carries z rfl).trans same
  poweredOn := by
    rintro z account machine _ same - ⟨-, ⟨carries, -⟩, -⟩
    exact (carries z rfl).trans same
  recovers := by
    rintro _ call error account _ - minds - ⟨rfl, -⟩ context α ok
    rw [Account.next_refused]
    exact minding_failWith minds

theorem minding_seen {machine : Machine} {account' : Account} (minds : Minds x (some y) account)
    (leads : (minding key x).leads account (.maas (.getMachine y)) (.ok machine) account') :
    machine.systemId = y ∧ Minds x (some y) account' := by
  obtain ⟨rfl, ⟨carries, -⟩, -⟩ := leads
  rw [quiet_getMachine]
  exact ⟨carries y rfl, minds⟩

theorem minding_closes (minds : Minds x (some y) account) :
    (release key y).Ensures (minding key x) (fun _ => Closes (tidy x)) (tidy x) account :=
  (minding_release minds).mono (fun _ _ kept _ _ => kept.not_strays) fun _ _ => id

theorem minding_continues :
    Continues (minding key x) (fun y => Minds x (some y)) (fun y z => z = y) key hostname
      (tidy x) where
  sustains _ := minding_sustains
  known _ := rfl
  looks _ _ _ := trivial
  seen _ _ _ _ minds leads := minding_seen minds leads
  unseen := by
    rintro y account error _ minds ⟨rfl, -⟩ failure -
    rw [Account.next_refused]
    exact minds.not_strays
  broken _ _ _ _ minds hostId _ := minding_recoverBroken hostId minds
  failed _ _ _ own minds := own ▸ minding_closes minds

theorem minding_resumes (minds : Minds x (some y) account) :
    Resumes (minding key x) (Minds x (some y)) key (· = y) y (tidy x) account where
  allowed := trivial
  seen _ _ leads := minding_seen minds leads
  broken := by
    rintro machine _ ⟨rfl, -⟩ - hostId ok
    rw [quiet_getMachine]
    exact minding_recoverBroken hostId minds
  failed := by
    intro machine _ leads _
    obtain ⟨own, minds⟩ := minding_seen minds leads
    rw [own]
    exact minding_closes minds
  gone := by
    rintro text _ ⟨rfl, -, kept⟩
    rw [Account.next_refused]
    exact (minding_clear ⟨minds, fun same => absurd same kept⟩).mono
      (fun _ _ kept _ _ => kept.not_strays) fun _ _ => id
  refused := by
    rintro error _ ⟨rfl, -⟩ failure -
    rw [Account.next_refused]
    exact minds.not_strays

/-- A machine has been found and is not recorded yet. -/
structure Gains (x y : String) (account : Account) : Prop where
  recorded : account.recorded = none
  held : x ∈ account.held → y = x

theorem Minds.gains (minds : Minds x none account) (y : String) : Gains x y account :=
  ⟨Option.map_eq_none_iff.mp minds.recorded, fun mem => nomatch minds.held mem⟩

/-- A machine that is held from now on may be the one that is followed. -/
theorem Minds.gains_insert (minds : Minds x none account) {y : String} :
    Gains x y { account with held := account.held.insert y } := by
  refine ⟨(minds.gains y).recorded, fun mem => ?_⟩
  rcases List.mem_insert_iff.mp mem with rfl | mem
  · rfl
  · exact (minds.gains y).held mem

/-- A record that fails is of another machine. -/
theorem Gains.unrecorded {checkpoint : Checkpoint} {fault : Failure} {account' : Account}
    (gains : Gains x y account) (names : checkpoint.instanceId = y)
    (leads : (minding key x).leads account (.store (.recordInstance key checkpoint)) (.error fault)
      account') : x ∉ account'.held := by
  obtain ⟨rfl, -, kept⟩ := leads
  rw [Account.next_unwritten]
  exact fun mem => kept ⟨rfl, names.trans (gains.held mem)⟩

theorem minding_acquires :
    Acquires (minding key x) (Minds x none) (Gains x) (fun y => Minds x (some y)) key (tidy x) where
  surveys := (minding_tolerates_quiet _).mono fun _ h => quiet_of_harmless (.inl h)
  fails _ _ _ kept := kept.not_strays
  unannotated := by
    rintro name value account fault _ minds ⟨rfl, -⟩
    rw [Account.next_unwritten]
    exact minds.not_strays
  records _ _ _ _ _ := trivial
  recorded := by
    rintro y account checkpoint _ gains names ⟨rfl, -⟩
    exact ⟨by simp [Account.next, recordAfter, names], fun mem => congrArg some (gains.held mem)⟩
  counts _ := minding_counts _

theorem minding_allocates :
    Allocates (minding key x) (Minds x none) (Gains x) (fun _ => True) key spec (tidy x) where
  allowed _ _ := trivial
  allocated := by
    rintro account machine _ minds ⟨rfl, -⟩
    exact ⟨trivial, minds.gains_insert⟩
  refused := by
    rintro account error _ minds ⟨rfl, -⟩
    rw [Account.next_refused]
    exact ⟨fun _ _ => minds.not_strays, fun context ok => minding_failWith minds⟩
  unrecorded := by
    intro y account checkpoint fault account' gains names leads
    have free := gains.unrecorded names leads
    refine ⟨trivial, ?_⟩
    rintro reply _ ⟨rfl, -⟩ strays
    cases reply with
    | ok value => exact free (List.mem_filter.mp strays.held).1
    | error error => exact free strays.held

theorem minding_finds (minds : Minds x none account) (machines : List Machine) :
    Finds (Minds x none) (Gains x) hostname machines account := by
  unfold Finds
  split
  · exact minds.gains _
  · exact minds

theorem minding_composes :
    Composes (minding key x) (Minds x none) (Gains x) key spec (tidy x) where
  allowed _ _ _ _ _ := trivial
  composed := by
    rintro hostId params account vm _ - minds ⟨rfl, -⟩
    exact minds.gains_insert
  refused := by
    rintro hostId params account error _ - minds ⟨rfl, -⟩
    rw [Account.next_refused]
    exact ⟨minds, fun context ok => minding_failWith minds⟩
  lists _ _ := trivial
  listed := by
    rintro account machines _ minds ⟨rfl, -⟩
    exact minding_finds minds machines
  listFailed := by
    rintro account error _ minds ⟨rfl, -⟩
    rwa [Account.next_refused]
  listsHost _ _ _ := trivial
  listedHost := by
    rintro hostId account machines _ minds ⟨rfl, -⟩
    exact minding_finds minds machines
  listHostFailed := by
    rintro hostId account error _ minds ⟨rfl, -⟩
    rwa [Account.next_refused]
  unrecorded := by
    intro y account checkpoint fault account' gains names leads strays
    exact gains.unrecorded names leads strays.held

theorem minding_provisionFrom {options : Options} {saved : Saved} (tame : ¬account.Strays x)
    (own : saved.checkpoint = account.recorded) :
    (provisionFrom options key spec saved).Ensures (minding key x)
      (fun _ account => ¬account.Strays x) (tidy x) account := by
  have minds := minds_of_not_strays tame
  cases found : saved.checkpoint with
  | some checkpoint =>
      rw [← own, found] at minds
      rw [provisionFrom, found]
      exact (minding_sustains.resume options rfl (minding_resumes minds)).mono
        (fun _ _ kept => kept.2.not_strays) fun _ _ => id
  | none =>
      rw [← own, found] at minds
      exact (provisionFrom_ensures minding_acquires (fun _ => minding_allocates)
        (fun _ => minding_composes) minding_continues found minds).mono
        (fun _ _ kept => kept.choose_spec.2.not_strays) fun _ _ => id

/-- Truthful answers that do not make a task desert the machine follow the protocol. -/
theorem follows_minding {transcript : Transcript}
    (truthful : ∀ before exchange after, transcript = before ++ exchange :: after →
      Truthful key (account.nextAll key before) exchange)
    (kept : ∀ exchange ∈ transcript, ¬Deserts key x exchange.1 exchange.2) :
    (minding key x).Follows account transcript (account.nextAll key transcript) := by
  induction transcript generalizing account with
  | nil => rfl
  | cons first rest ih =>
      refine ⟨_, ⟨rfl, truthful [] first rest rfl, kept first (.head rest)⟩, ih ?_ ?_⟩
      · exact fun before exchange after split =>
          truthful (first :: before) exchange after (congrArg (first :: ·) split)
      · exact fun exchange mem => kept exchange (.tail first mem)

/-- A machine that does not stray at first does not stray as long as no task deserts it. -/
theorem minding_undertakes {spec? : Option Spec} (tame : ¬account.Strays x) :
    Undertakes (minding key x) key spec? (fun account => ¬account.Strays x) account := by
  constructor
  · trivial
  · rintro fault _ ⟨rfl, -⟩
    rwa [Account.next_unwritten]
  · rintro saved _ ⟨rfl, -⟩
    rwa [quiet_load]
  · rintro options spec saved _ - ⟨rfl, ⟨-, reads⟩, -⟩
    rw [quiet_load]
    exact minding_provisionFrom tame (reads saved rfl)
  · rintro saved checkpoint _ found ⟨rfl, ⟨-, reads⟩, -⟩
    rw [quiet_load]
    have minds := minds_of_not_strays tame
    rw [← reads saved rfl, found] at minds
    exact (minding_release minds).mono (fun _ _ kept => kept.not_strays) fun _ _ => id
  · intro account effect tame concludes
    refine ⟨trivial, ?_⟩
    rintro answer _ ⟨rfl, -⟩
    rwa [quiet_of_concludes concludes]

/-! ## Cleaning up -/

/-- MAAS has denied the machine. -/
def Denied (systemId : String) (past : Transcript) : Prop :=
  ∃ exchange ∈ past, Denies systemId exchange.1 exchange.2

/-- Truthful answers to what comes after an account. -/
def cleaning (key : Key) (account : Account) : Discipline Transcript :=
  .history (fun _ _ => True) fun past exchange =>
    Truthful key (account.nextAll key past) exchange

/-- No call has changed anything, and MAAS has not denied the machine. -/
structure Awaits (key : Key) (account : Account) (y : String) (past : Transcript) : Prop where
  same : account.nextAll key past = account
  known : ¬Denied y past

/-- The machine has been released, or MAAS has denied it and it is held still. No other one has been
    touched. -/
def Returned (key : Key) (account : Account) (y : String) (past : Transcript) : Prop :=
  ∀ x, x ∈ (account.nextAll key past).held ↔ x ∈ account.held ∧ (x = y → Denied y past)

/-- Nothing is recorded, and the recorded machine has been released unless MAAS has denied it. -/
structure Cleaned (key : Key) (account : Account) (past : Transcript) : Prop where
  recorded : (account.nextAll key past).recorded = none
  held : ∀ x, x ∈ (account.nextAll key past).held ↔
    x ∈ account.held ∧ (account.recorded.map (·.instanceId) = some x → Denied x past)

variable {past : Transcript} {force : Bool} {error : Maas.Error}

theorem denied_append {effect : Effect} {answer : effect.Answer} (still : ¬Denies y effect answer) :
    Denied y (past ++ [⟨effect, answer⟩]) ↔ Denied y past := by
  simp [Denied, or_and_right, exists_or, still]

theorem Awaits.refused (awaits : Awaits key account y past)
    (still : ¬Denies y (.maas (.release y force)) (.error error)) :
    Awaits key account y (past ++ [⟨.maas (.release y force), .error error⟩]) where
  same := by rw [Account.nextAll_append, Account.next_refused, awaits.same]
  known := by
    rw [denied_append still]
    exact awaits.known

theorem Awaits.released (awaits : Awaits key account y past) :
    Returned key account y (past ++ [⟨.maas (.release y force), .ok ()⟩]) := by
  intro x
  rw [Account.nextAll_append, awaits.same, denied_append id]
  simp [Account.next, Account.keep, Account.hold, awaits.known]

theorem Awaits.denied (awaits : Awaits key account y past) (text : String) :
    Returned key account y (past ++ [⟨.maas (.release y force), .error (.notFound text)⟩]) := by
  have denied : Denied y (past ++ [⟨.maas (.release y force), .error (.notFound text)⟩]) :=
    ⟨_, List.mem_append_right past (.head []), rfl⟩
  intro x
  rw [Account.nextAll_append, Account.next_refused, awaits.same]
  simp [denied]

theorem cleaning_clear (names : account.recorded.map (·.instanceId) = some y)
    (returned : Returned key account y past) :
    (Pass.store (.clearInstance key)).Ensures (cleaning key account) (fun _ => Cleaned key account)
      (fun _ _ => True) past := by
  refine Pass.ensures_store.mpr ⟨trivial, ?_, fun _ _ _ => trivial⟩
  rintro value _ ⟨-, rfl⟩
  refine ⟨by simp [Account.next, recordAfter], fun x => ?_⟩
  have same : account.recorded.map (·.instanceId) = some x ↔ x = y := by
    rw [names, Option.some_inj]
    exact eq_comm
  rw [Account.nextAll_append, same, denied_append id]
  refine (returned x).trans (and_congr_right fun _ => forall_congr' fun own => ?_)
  rw [own]

theorem cleaning_forceRelease (awaits : Awaits key account y past) :
    (forceRelease y).Ensures (cleaning key account) (fun _ => Returned key account y)
      (fun _ _ => True) past := by
  refine Pass.ensures_bind.mpr (Pass.ensures_tryMaas.mpr ⟨trivial, ?_⟩)
  rintro reply _ ⟨-, rfl⟩
  split
  · refine Pass.ensures_count.mpr ⟨trivial, ?_⟩
    rintro counted _ ⟨-, rfl⟩ x
    rw [Account.nextAll_append, denied_append id]
    exact awaits.released x
  · exact Pass.ensures_pure.mpr (awaits.denied _)
  · exact Pass.ensures_throw.mpr trivial

theorem cleaning_release (names : account.recorded.map (·.instanceId) = some y)
    (awaits : Awaits key account y past) :
    (release key y).Ensures (cleaning key account) (fun _ => Cleaned key account) (fun _ _ => True)
      past := by
  refine Pass.ensures_bind.mpr (Pass.ensures_tryMaas.mpr ⟨trivial, ?_⟩)
  rintro reply _ ⟨-, rfl⟩
  split
  · exact cleaning_clear names awaits.released
  · exact cleaning_clear names (awaits.denied _)
  · exact (cleaning_forceRelease (awaits.refused id)).bind fun _ _ => cleaning_clear names
  · exact (cleaning_forceRelease (awaits.refused id)).bind fun _ _ => cleaning_clear names
  · exact Pass.ensures_throw.mpr trivial

/-- After a cleanup that succeeds nothing is recorded, and what is held still are the strays and the
    recorded machine if MAAS has denied it. -/
theorem cleaning_cleanup :
    (cleanup key).Ensures (cleaning key account) (fun _ => Cleaned key account) (fun _ _ => True)
      [] := by
  refine Pass.ensures_bind.mpr (Pass.ensures_store.mpr ⟨trivial, ?_, fun _ _ _ => trivial⟩)
  rintro saved _ ⟨⟨-, reads⟩, rfl⟩
  have own : saved.checkpoint = account.recorded := reads saved rfl
  extract_lets ends
  have same : account.nextAll key [⟨.store (.load key), .ok saved⟩] = account :=
    quiet_load account (.ok saved)
  split
  · next checkpoint found =>
      have awaits : Awaits key account checkpoint.instanceId [⟨.store (.load key), .ok saved⟩] :=
        ⟨same, fun denied => by simp [Denied, Denies] at denied⟩
      refine (cleaning_release ?_ awaits).bind fun _ _ cleaned => Pass.ensures_pure.mpr cleaned
      rw [← own, found, Option.map_some]
  · next found =>
      have unrecorded : account.recorded = none := own.symm.trans found
      refine Pass.ensures_pure.mpr ⟨?_, fun x => ?_⟩
      · exact (congrArg Account.recorded same).trans unrecorded
      · change x ∈ (account.nextAll key [⟨.store (.load key), .ok saved⟩]).held ↔ _
        rw [same, unrecorded]
        simp

end MachineProvisioning.Engine
