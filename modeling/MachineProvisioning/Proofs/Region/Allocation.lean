import MachineProvisioning.Proofs.Region.History
import MachineProvisioning.Proofs.Region.Stock

/-! # Allocations exclude each other

An allocation takes a machine that is ready, by its id or as the first one that has what is asked for, and
changes nothing but its state. No other call makes a machine ready again, unless it releases it; so a
machine that is allocated twice was given back in between, or changed from outside.
-/

namespace MachineProvisioning.Region

open Maas (Machine AllocateParams)

/-- The machine is ready and has what is asked for. -/
structure Meets (params : AllocateParams) (machine : Machine) : Prop where
  ready : machine.statusName = "Ready"
  cpus : ∀ count ∈ params.cpuCount, count ≤ machine.cpuCount
  memory : ∀ size ∈ params.memory, size ≤ machine.memory
  zone : ∀ name ∈ params.zone, ∃ zone ∈ machine.zone, zone.name = name
  pool : ∀ name ∈ params.pool, ∃ pool ∈ machine.pool, pool.name = name
  tags : ∀ tag ∈ params.tags, tag ∈ machine.tagNames

theorem satisfies_iff {params : AllocateParams} {machine : Machine} :
    satisfies params machine = true ↔ Meets params machine := by
  unfold satisfies
  simp only [Bool.and_eq_true, beq_iff_eq, Option.all_eq_true, decide_eq_true_eq, List.all_eq_true,
    List.contains_iff_mem, Option.map_eq_some_iff]
  constructor
  · rintro ⟨⟨⟨⟨⟨ready, cpus⟩, memory⟩, zone⟩, pool⟩, tags⟩
    exact ⟨ready, cpus, memory, zone, pool, tags⟩
  · rintro ⟨ready, cpus, memory, zone, pool, tags⟩
    exact ⟨⟨⟨⟨⟨ready, cpus⟩, memory⟩, zone⟩, pool⟩, tags⟩

/-- An allocation takes this machine, and does nothing else. -/
structure Allots (region : Region) (params : AllocateParams) (machine : Machine) (after : Region) :
    Prop where
  stored : region.inventory.machines.get? machine.systemId = some machine
  ready : machine.statusName = "Ready"
  named : ∀ x ∈ params.systemId, machine.systemId = x
  meets : params.systemId = none → Meets params machine
  least : params.systemId = none → ∀ x rival, region.inventory.machines.get? x = some rival →
    Meets params rival → ¬x < machine.systemId
  own : after.inventory.machines.get? machine.systemId =
    some { machine with statusName := "Allocated" }
  others : ∀ x ≠ machine.systemId,
    after.inventory.machines.get? x = region.inventory.machines.get? x
  rest : after.inventory = { region.inventory with machines := after.inventory.machines }

variable {region after : Region} {params : AllocateParams} {machine shown : Machine} {x : String}

/-- A candidate that is asked for by its id is ready. -/
theorem ready_of_candidate (given : params.systemId = some x)
    (found : region.inventory.candidate params = .ok machine) : machine.statusName = "Ready" := by
  unfold Inventory.candidate at found
  rw [given] at found
  simp only [bind, Except.bind] at found
  split at found
  · cases found
  · split at found
    · next ready =>
        cases found
        exact ready
    · cases found

/-- A candidate that is not asked for by its id has the least id of those that have what is asked for. -/
theorem Lawful.least_candidate (lawful : region.Lawful) (unnamed : params.systemId = none)
    (found : region.inventory.candidate params = .ok machine) (rival : Machine)
    (known : region.inventory.machines.get? x = some rival) (meets : Meets params rival) :
    ¬x < machine.systemId := by
  unfold Inventory.candidate at found
  rw [unnamed] at found
  simp only at found
  split at found
  · next first =>
      cases found
      obtain ⟨key, stored, least⟩ := lawful.ordered.least_of_find? first
      rw [lawful.keyed key machine stored]
      exact least x rival known (satisfies_iff.mpr meets)
  · cases found

theorem Lawful.allots (lawful : region.Lawful)
    (answers : region.answer (.allocate params) = (.ok shown, after)) : ∃ machine,
      shown = region.inventory.withInterfaces { machine with statusName := "Allocated" } ∧
        Allots region params machine after := by
  unfold answer allocate at answers
  dsimp only at answers
  split at answers
  · cases answers
  · split at answers
    · cases answers
    · next machine found =>
        cases answers
        have kept : ∀ y, (region.inventory.machines.insert machine.systemId
            { machine with statusName := "Allocated" }).get? y =
              if machine.systemId = y then some { machine with statusName := "Allocated" }
              else region.inventory.machines.get? y := fun y => Table.get?_insert _ _ y _
        refine ⟨machine, rfl, ?_⟩
        cases asked : params.systemId with
        | none =>
            obtain ⟨stored, satisfied⟩ := lawful.candidate asked found
            have meets := satisfies_iff.mp satisfied
            exact
              { stored
                ready := meets.ready
                named := by simp [asked]
                meets := fun _ => meets
                least := fun _ _ => lawful.least_candidate asked found
                own := (kept _).trans (if_pos rfl)
                others := fun y differs => (kept y).trans (if_neg (Ne.symm differs))
                rest := rfl }
        | some x =>
            have known := candidate_named asked found
            have own := lawful.keyed x machine known
            exact
              { stored := own ▸ known
                ready := ready_of_candidate asked found
                named := by simp [asked, own]
                meets := by simp [asked]
                least := by simp [asked]
                own := (kept _).trans (if_pos rfl)
                others := fun y differs => (kept y).trans (if_neg (Ne.symm differs))
                rest := rfl }

def IsReady (x : String) (region : Region) : Prop :=
  ∃ machine, region.inventory.machines.get? x = some machine ∧ machine.statusName = "Ready"

/-- The event makes the machine ready: it releases it, or it is a change from outside to that state. -/
def Readies (region : Region) (x : String) : Event → Prop
  | .call (.release y force) => y = x ∧ (region.answer (.release y force)).1 = .ok ()
  | .change (.setStatus y statusName) => y = x ∧ statusName = "Ready"
  | .change (.commissioned y) => y = x
  | .change (.addMachine machine) => machine.systemId = x ∧ machine.statusName = "Ready"
  | _ => False

theorem Allots.not_isReady (allots : Allots region params machine after) :
    ¬IsReady machine.systemId after := by
  rintro ⟨stored, known, ready⟩
  cases allots.own.symm.trans known
  exact absurd (show "Allocated" = "Ready" from ready) (by decide)

/-- A call that stores a ready machine releases it, or it has been ready before. -/
theorem Lawful.ready_of_alters (lawful : region.Lawful) {call : Maas.Call} {stored : Machine}
    (alters : Alters region call stored) (ready : stored.statusName = "Ready") :
    (∃ force, call = .release stored.systemId force) ∨ IsReady stored.systemId region := by
  obtain ⟨hostId, params, rfl⟩ | ⟨machine, known, same | taken | deploying | released⟩ :=
    lawful.alters_cases alters
  · obtain ⟨host, -, -, rfl⟩ := alters
    exact absurd (show "Commissioning" = "Ready" from ready) (by decide)
  · exact .inr ⟨machine, known, same ▸ ready⟩
  · exact absurd (taken.symm.trans ready) (by decide)
  · exact absurd (deploying.symm.trans ready) (by decide)
  · exact .inl released

theorem isReady_congr (same : after.inventory.machines = region.inventory.machines) :
    IsReady x after ↔ IsReady x region := by
  unfold IsReady
  rw [same]

/-- A machine that is put in place of another one is ready, or what was ready stays so. -/
theorem isReady_insert {stored : Machine} (put : after.inventory.machines =
    region.inventory.machines.insert stored.systemId stored) :
    IsReady x after ↔
      if stored.systemId = x then stored.statusName = "Ready" else IsReady x region := by
  unfold IsReady
  rw [put]
  simp only [Table.get?_insert]
  split
  · simp
  · rfl

/-- A call after which a machine is ready that was not so before has released it. -/
theorem Lawful.readies_call (lawful : region.Lawful) {call : Maas.Call} (unready : ¬IsReady x region)
    (ready : IsReady x (region.answer call).2) : region.Readies x (.call call) := by
  have conforms := region.answer_conforms call
  unfold Conforms at conforms
  generalize replies : (region.answer call).1 = reply at conforms
  generalize (region.answer call).2 = after at conforms ready
  cases conforms with
  | refused same => exact absurd ((isReady_congr same).mp ready) unready
  | quiet _ same => exact absurd ((isReady_congr same).mp ready) unready
  | stored machine alters _ put =>
      have turned := (isReady_insert put).mp ready
      split at turned
      · next own =>
          subst own
          rcases lawful.ready_of_alters alters turned with ⟨force, rfl⟩ | already
          · exact ⟨rfl, replies⟩
          · exact absurd already unready
      · exact absurd turned unready

/-- A modification after which a machine is ready that was not so before is one of its state. -/
theorem ready_of_modified {y : String} {f : Machine → Machine} (unready : ¬IsReady x region)
    (ready : IsReady x { region with inventory := region.inventory.modifyMachine y f }) :
    y = x ∧ ∃ machine, (f machine).statusName = "Ready" ∧ machine.statusName ≠ "Ready" := by
  obtain ⟨machine, known, ready⟩ := ready
  change (region.inventory.machines.modify y f).get? x = some machine at known
  rw [Table.get?_modify] at known
  split at known
  · next same =>
      obtain ⟨old, found, rfl⟩ := Option.map_eq_some_iff.mp known
      exact ⟨same, old, ready, fun already => unready ⟨old, found, already⟩⟩
  · exact absurd ⟨machine, known, ready⟩ unready

/-- A change from outside after which a machine is ready that was not so before is one of its state. -/
theorem readies_change {change : Change} (unready : ¬IsReady x region)
    (ready : IsReady x (region.after change)) : region.Readies x (.change change) := by
  have kept (same : (region.after change).inventory.machines = region.inventory.machines) :
      region.Readies x (.change change) := absurd ((isReady_congr same).mp ready) unready
  cases change with
  | addMachine machine =>
      have put : (region.after (.addMachine machine)).inventory.machines =
          region.inventory.machines.insert machine.systemId machine := rfl
      have turned := (isReady_insert put).mp ready
      split at turned
      · next own => exact ⟨own, turned⟩
      · exact absurd turned unready
  | removeMachine y =>
      obtain ⟨found, known, ready⟩ := ready
      change (region.inventory.machines.erase y).get? x = some found at known
      rw [Table.get?_erase] at known
      split at known
      · cases known
      · exact absurd ⟨found, known, ready⟩ unready
  | setStatus y statusName =>
      obtain ⟨own, _, now, -⟩ := ready_of_modified unready ready
      exact ⟨own, now⟩
  | commissioned y => exact (ready_of_modified unready ready).1
  | setPower y powerState =>
      obtain ⟨-, _, now, before⟩ := ready_of_modified unready ready
      exact absurd now before
  | deployed y =>
      obtain ⟨-, _, now, -⟩ := ready_of_modified unready ready
      exact absurd (show "Deployed" = "Ready" from now) (by decide)
  | addHost host => exact kept rfl
  | addSubnet subnet => exact kept rfl
  | addInterface y iface => exact kept rfl
  | addAllocation allocation => exact kept rfl

/-- A machine that an event finds unready and leaves ready is made so by the event. -/
theorem Lawful.readies (lawful : region.Lawful) {event : Event} (unready : ¬IsReady x region)
    (ready : IsReady x (region.next event)) : region.Readies x event := by
  cases event with
  | call call => exact lawful.readies_call unready ready
  | change change => exact readies_change unready ready
  | plant planted => exact absurd ((isReady_congr rfl).mp ready) unready

/-- An allocation takes one ready machine and nothing else. Until the machine is taken again, it has been
    released, or made ready from outside. -/
theorem allocation_is_exclusive {events : List Event}
    (answers : (empty.afterAll events).answer (.allocate params) = (.ok shown, after)) :
    (∃ machine, shown = (empty.afterAll events).inventory.withInterfaces
        { machine with statusName := "Allocated" } ∧
      Allots (empty.afterAll events) params machine after) ∧
    ∀ between second again last,
      (after.afterAll between).answer (.allocate second) = (.ok again, last) →
        again.systemId = shown.systemId → ∃ earlier event later, between = earlier ++ event :: later ∧
          (after.afterAll earlier).Readies shown.systemId event := by
  have lawful := lawful_empty.afterAll events
  obtain ⟨machine, rfl, allots⟩ := lawful.allots answers
  refine ⟨⟨machine, rfl, allots⟩, fun between second again last answers' same => ?_⟩
  have lawful' : after.Lawful := by
    have preserved : ((empty.afterAll events).answer (.allocate params)).2.Lawful :=
      lawful.next (.call (.allocate params))
    rwa [answers] at preserved
  obtain ⟨taken, rfl, allots'⟩ := (lawful'.afterAll between).allots answers'
  have ready : IsReady machine.systemId (after.afterAll between) :=
    ⟨taken, same ▸ allots'.stored, allots'.ready⟩
  obtain ⟨earlier, event, later, split, unready, turned⟩ := exists_turn allots.not_isReady ready
  exact ⟨earlier, event, later, split, (lawful'.afterAll earlier).readies unready turned⟩

/-- A region with two machines that are ready. -/
def twoReady : List Event :=
  [.change (.addMachine
    { systemId := "m2", hostname := "node-8", cpuCount := 8, statusName := "Ready" }),
   .change (.addMachine
    { systemId := "m1", hostname := "node-7", cpuCount := 8, statusName := "Ready" })]

/-- The first of two machines is taken, given back and taken again. -/
theorem allocation_is_exclusive_returned :
    let region := empty.afterAll twoReady
    let after := (region.answer (.allocate { cpuCount := some 4 })).2
    let between : List Event := [.call (.setSwapSize "m1" 0), .call (.release "m1" false)]
    ∃ shown again last,
      region.answer (.allocate { cpuCount := some 4 }) = (.ok shown, after) ∧
      (after.afterAll between).answer (.allocate {}) = (.ok again, last) ∧
      again.systemId = shown.systemId ∧ shown.systemId = "m1" ∧
      (∃ machine, shown = region.inventory.withInterfaces { machine with statusName := "Allocated" } ∧
        Allots region { cpuCount := some 4 } machine after) ∧
      ∃ earlier event later, between = earlier ++ event :: later ∧
        (after.afterAll earlier).Readies "m1" event := by
  intro region after between
  obtain ⟨shown, again, last, first, second, same, own⟩ : ∃ shown again last,
      region.answer (.allocate { cpuCount := some 4 }) = (.ok shown, after) ∧
      (after.afterAll between).answer (.allocate {}) = (.ok again, last) ∧
      again.systemId = shown.systemId ∧ shown.systemId = "m1" := ⟨_, _, _, rfl, rfl, rfl, rfl⟩
  obtain ⟨takes, apart⟩ := allocation_is_exclusive first
  refine ⟨shown, again, last, first, second, same, own, takes, ?_⟩
  exact own ▸ apart between {} again last second same

end MachineProvisioning.Region
