import MachineProvisioning.Proofs.Region.Bookkeeping
import MachineProvisioning.Proofs.World.Ownership

/-! # Worlds without faults

As long as no fault is planned, MAAS calls no machine broken and the store answers every request. So all
answers are faithful, and only an adoption, a composition under a recorded id or a change from outside can
expose an instance. Physical machines share nothing among each other.
-/

namespace MachineProvisioning

open Program (Exchange)
open Resource (Key)
open Engine (Effect Breaks)

namespace Region

theorem machine_unbroken {stock : Inventory} {x : String} {error : Maas.Error}
    (found : stock.machine x = .error error) (named hostId : Option String) (text : String) :
    error ≠ .brokenMachine named hostId text := by
  unfold Inventory.machine at found
  split at found
  · cases found
  · cases found
    nofun

theorem candidate_unbroken {stock : Inventory} {params : Maas.AllocateParams} {error : Maas.Error}
    (found : stock.candidate params = .error error) (named hostId : Option String)
    (text : String) : error ≠ .brokenMachine named hostId text := by
  unfold Inventory.candidate at found
  split at found
  · simp only [bind, Except.bind] at found
    split at found
    · next missing =>
        cases found
        exact machine_unbroken missing named hostId text
    · split at found
      · cases found
      · cases found
        nofun
  · split at found
    · cases found
    · cases found
      nofun

/-- The operation plants no error, and calls no machine broken. -/
structure Tame {α : Type} (result : Result α) : Prop where
  planted : result.2.planted = {}
  unbroken : ∀ named hostId text, result.1 ≠ .error (.brokenMachine named hostId text)

variable {region : Region}

theorem tame_allocate (unplanted : region.planted = {}) (params : Maas.AllocateParams) :
    Tame (allocate params region) := by
  unfold allocate
  extract_lets counted
  have same : counted.planted = {} := unplanted
  split
  · next planted =>
      rw [same] at planted
      cases planted
  · split
    · next found =>
        exact ⟨unplanted, fun named hostId text broken =>
          candidate_unbroken found named hostId text (Except.error.inj broken)⟩
    · exact ⟨unplanted, nofun⟩

theorem tame_update (unplanted : region.planted = {}) (x : String)
    (f : Maas.Machine → Maas.Machine) : Tame (region.update x f) := by
  unfold update
  split
  · next found =>
      exact ⟨unplanted, fun named hostId text broken =>
        machine_unbroken found named hostId text (Except.error.inj broken)⟩
  · exact ⟨unplanted, nofun⟩

theorem tame_setHostname (unplanted : region.planted = {}) (x hostname : String) :
    Tame (setHostname x hostname region) := by
  unfold setHostname
  split
  · exact ⟨unplanted, nofun⟩
  · exact tame_update unplanted x _

theorem tame_deploy (unplanted : region.planted = {}) (x : String) (params : Maas.DeployParams) :
    Tame (deploy x params region) := by
  unfold deploy
  extract_lets counted
  have same : counted.planted = {} := unplanted
  split
  · next planted =>
      rw [same] at planted
      cases planted
  · split
    · next found =>
        exact ⟨unplanted, fun named hostId text broken =>
          machine_unbroken found named hostId text (Except.error.inj broken)⟩
    · split
      · exact ⟨unplanted, nofun⟩
      · exact ⟨unplanted, nofun⟩

theorem tame_compose (unplanted : region.planted = {}) (hostId : UInt64)
    (params : Maas.ComposeParams) : Tame (compose hostId params region) := by
  unfold compose
  extract_lets counted
  have same : counted.planted = {} := unplanted
  split
  · next planted =>
      rw [same] at planted
      cases planted
  · split
    · next found =>
        unfold Inventory.host at found
        split at found
        · cases found
        · cases found
          exact ⟨unplanted, nofun⟩
    · split
      · exact ⟨unplanted, nofun⟩
      · exact ⟨(planted_wire _ _ _).trans unplanted, nofun⟩

theorem planted_answer (unplanted : region.planted = {}) (call : Maas.Call) :
    (region.answer call).2.planted = {} := by
  rw [(region.answer_entered call).planted, unplanted]
  cases call <;> rfl

end Region

/-- No fault is planned. -/
structure World.Faultless (world : World) : Prop where
  maas : world.maasFaults = .empty
  store : world.storeFaults = .empty
  region : world.region.planted = {}

namespace World

variable {world : World}

/-- Without faults the region and the memory answer themselves. -/
theorem Faultless.answerMaas (faultless : world.Faultless) (call : Maas.Call) :
    (world.answerMaas call).1 = (world.region.answer call).1 ∧
      (world.answerMaas call).2.Faultless := by
  have next : world.maasFaults.next call.name = (none, .empty) := by
    rw [faultless.maas]
    rfl
  unfold World.answerMaas
  rw [next]
  exact ⟨rfl, rfl, faultless.store, Region.planted_answer faultless.region call⟩

theorem Faultless.answerStore (faultless : world.Faultless) (call : Store.Call) :
    (world.answerStore call).1 = (world.memory.answer call).1 ∧
      (world.answerStore call).2.Faultless := by
  have next : world.storeFaults.next call.name = (none, .empty) := by
    rw [faultless.store]
    rfl
  unfold World.answerStore
  rw [next]
  exact ⟨rfl, faultless.maas, rfl, faultless.region⟩

/-- Without faults no operation calls a machine broken. -/
theorem Faultless.unbroken (faultless : world.Faultless) {call : Maas.Call} (breaks : Breaks call)
    (named hostId : Option String) (text : String) :
    (world.answerMaas call).1 ≠ .error (.brokenMachine named hostId text) := by
  rw [(faultless.answerMaas call).1]
  cases call with
  | allocate params => exact (Region.tame_allocate faultless.region params).unbroken named hostId text
  | setHostname x hostname =>
      exact (Region.tame_setHostname faultless.region x hostname).unbroken named hostId text
  | deploy x params => exact (Region.tame_deploy faultless.region x params).unbroken named hostId text
  | compose hostId' params =>
      exact (Region.tame_compose faultless.region hostId' params).unbroken named hostId text
  | _ => exact breaks.elim

theorem Faultless.answer (faultless : world.Faultless) (start : World) (key : Key) (effect : Effect) :
    Faithful start key ⟨effect, (world.answer effect).1⟩ ∧ (world.answer effect).2.Faultless := by
  refine ⟨⟨?_, ?_, ?_⟩, ?_⟩
  · intro fault same
    obtain ⟨rfl, same⟩ := Sigma.mk.inj same
    cases (faultless.answerStore (.load key)).1.symm.trans (eq_of_heq same)
  · intro fault same
    obtain ⟨rfl, same⟩ := Sigma.mk.inj same
    cases (faultless.answerStore (.clearInstance key)).1.symm.trans (eq_of_heq same)
  · intro call x hostId text same breaks
    obtain ⟨rfl, same⟩ := Sigma.mk.inj same
    exact absurd (eq_of_heq same) (faultless.unbroken breaks (some x) hostId text)
  · cases effect with
    | maas call => exact (faultless.answerMaas call).2
    | store call => exact (faultless.answerStore call).2
    | clock => exact faultless
    | count event => exact ⟨faultless.maas, faultless.store, faultless.region⟩

end World

namespace Fleet

variable {world : World} {run : List Occurrence}

theorem faultless_occurrence (faultless : world.Faultless) (occurrence : Occurrence) :
    Dependable world occurrence ∧ (after world occurrence).Faultless := by
  cases occurrence with
  | task key task =>
      exact Program.exchanges_invariant World.Faultless (World.Faithful world key)
        (fun effect _ faultless => faultless.answer world key effect) _ world faultless
  | change change =>
      refine ⟨trivial, faultless.maas, faultless.store, Eq.trans ?_ faultless.region⟩
      cases change <;> rfl

theorem dependable_of_faultless (faultless : world.Faultless) : Always Dependable world run := by
  induction run generalizing world with
  | nil => trivial
  | cons occurrence rest ih =>
      obtain ⟨dependable, kept⟩ := faultless_occurrence faultless occurrence
      exact ⟨dependable, ih kept⟩

/-- Without faults an instance is shared only after one has been exposed, whatever the machines that are
    declared and the order of their tasks. -/
theorem exposes_of_shares_faultless (faultless : world.Faultless) (lawful : world.region.Lawful)
    (vacant : ∀ key, world.memory.checkpoint? key = none) (shares : Shares world run) :
    Meets Exposes world run :=
  exposes_of_shares (guarded_of_vacant lawful vacant) (dependable_of_faultless faultless) shares

/-- A task about a physical machine, or a change that makes no recorded machine ready. -/
def Physical (world : World) : Occurrence → Prop
  | .task _ task => ∀ spec ∈ task.spec?, spec.mode = .bareMetal
  | .change change => ∀ x, world.Claimed x → ¬world.region.Readies x (.change change)

theorem not_exposes_of_physical (world : World) (occurrence : Occurrence)
    (physical : Physical world occurrence) : ¬Exposes world occurrence := by
  cases occurrence with
  | task key task =>
      rintro ⟨x, ⟨spec, declared, endangers⟩, -⟩
      have virtual : spec.mode = .virtualized := by
        cases endangers with
        | adopted machine adopts => exact adopts.virtual
        | composed virtual => exact virtual
      cases (physical spec declared).symm.trans virtual
  | change change =>
      rintro ⟨x, claimed, readies⟩
      exact physical x claimed readies

/-- Physical machines alone never share an instance in a world without faults, unless a recorded one is made
    ready from outside. -/
theorem not_shares_of_physical (faultless : world.Faultless) (lawful : world.region.Lawful)
    (vacant : ∀ key, world.memory.checkpoint? key = none) (physical : Always Physical world run) :
    ¬Shares world run := fun shares =>
  not_meets_of_always not_exposes_of_physical physical
    (exposes_of_shares_faultless faultless lawful vacant shares)

end Fleet

end MachineProvisioning
