import MachineProvisioning.Proofs.Region.Configuration

/-! # Machines in stock

`Stocks` says of one machine that a region has it, with a property and with interfaces of given names.
Every call either leaves this alone or changes the property in a way that is known.
-/

namespace MachineProvisioning.Region

open Maas (Machine)

/-- What is shown of a machine is true of the stored one, which may have more tags. -/
structure Mirrors (shown machine : Machine) : Prop where
  systemId : machine.systemId = shown.systemId
  statusName : machine.statusName = shown.statusName
  hostname : machine.hostname = shown.hostname
  swapSize : machine.swapSize = shown.swapSize
  tagNames : shown.tagNames ⊆ machine.tagNames

theorem mirrors_withInterfaces (stock : Inventory) (machine : Machine) :
    Mirrors (stock.withInterfaces machine) machine :=
  ⟨rfl, rfl, rfl, rfl, List.Subset.refl _⟩

/-- The region has a machine with this property, and with interfaces of these names. -/
structure Stocks (x : String) (fine : Machine → Prop) (names : List String) (region : Region) :
    Prop where
  lawful : region.Lawful
  stored : ∃ machine, region.inventory.machines.get? x = some machine ∧ fine machine
  wired : names ⊆ region.inventory.interfaceNames x

variable {x : String} {fine fine' : Machine → Prop} {names : List String} {region after : Region}

theorem Stocks.mono (stocks : Stocks x fine names region)
    (weaker : ∀ machine, fine machine → fine' machine) : Stocks x fine' names region := by
  obtain ⟨lawful, ⟨machine, found, is⟩, wired⟩ := stocks
  exact ⟨lawful, ⟨machine, found, weaker machine is⟩, wired⟩

theorem Stocks.wire {name : String} (stocks : Stocks x fine names region)
    (mem : name ∈ region.inventory.interfaceNames x) : Stocks x fine (name :: names) region :=
  ⟨stocks.lawful, stocks.stored, List.cons_subset.mpr ⟨mem, stocks.wired⟩⟩

theorem Alters.stores {call : Maas.Call} {stored : Machine} (alters : Alters region call stored) :
    Stores call := by
  cases call <;> trivial

theorem machines_of_silent (region : Region) {call : Maas.Call} (silent : ¬Stores call) :
    (region.answer call).2.inventory.machines = region.inventory.machines := by
  have conforms := region.answer_conforms call
  unfold Conforms at conforms
  generalize (region.answer call).1 = reply at conforms
  cases conforms with
  | refused same => exact same
  | quiet _ same => exact same
  | stored machine alters => exact absurd alters.stores silent

/-- A machine that a call stores is composed, or has been there before; it keeps its state unless it is
    allocated, deployed or released. -/
theorem Lawful.alters_cases (lawful : region.Lawful) {call : Maas.Call} {stored : Machine}
    (alters : Alters region call stored) :
    (∃ hostId params, call = .compose hostId params) ∨
      ∃ machine, region.inventory.machines.get? stored.systemId = some machine ∧
        (stored.statusName = machine.statusName ∨ stored.statusName = "Allocated" ∨
          stored.statusName = "Deploying" ∨ ∃ force, call = .release stored.systemId force) := by
  have before {machine : Machine} {y : String}
      (known : region.inventory.machines.get? y = some machine)
      (own : stored.systemId = machine.systemId) :
      stored.systemId = y ∧ region.inventory.machines.get? stored.systemId = some machine := by
    have same := own.trans (lawful.keyed y machine known)
    exact ⟨same, same ▸ known⟩
  cases call with
  | compose hostId params => exact .inl ⟨hostId, params, rfl⟩
  | allocate params =>
      obtain ⟨machine, found, rfl⟩ := alters
      refine .inr ⟨machine, ?_, .inr (.inl rfl)⟩
      cases asked : params.systemId with
      | none => exact (lawful.candidate asked found).1
      | some y => exact (before (candidate_named asked found) rfl).2
  | release y force =>
      obtain ⟨machine, known, rfl⟩ := alters
      obtain ⟨own, known⟩ := before known rfl
      exact .inr ⟨machine, known, .inr (.inr (.inr ⟨force, by rw [own]⟩))⟩
  | deploy y params =>
      obtain ⟨machine, known, -, rfl⟩ := alters
      exact .inr ⟨machine, (before known rfl).2, .inr (.inr (.inl rfl))⟩
  | setSwapSize y bytes =>
      obtain ⟨machine, known, rfl⟩ := alters
      exact .inr ⟨machine, (before known rfl).2, .inl rfl⟩
  | setHostname y hostname =>
      obtain ⟨machine, known, rfl⟩ := alters
      exact .inr ⟨machine, (before known rfl).2, .inl rfl⟩
  | powerOn y =>
      obtain ⟨machine, known, rfl⟩ := alters
      exact .inr ⟨machine, (before known rfl).2, .inl rfl⟩
  | assignTag name y =>
      obtain ⟨machine, known, same⟩ := alters
      have known := (before known (congrArg (·.systemId) same)).2
      exact .inr ⟨machine, known, .inl (congrArg (·.statusName) same)⟩
  | _ => exact alters.elim

/-- A call that stores no machine leaves the machine as it is. -/
theorem Stocks.silent (stocks : Stocks x fine names region) {call : Maas.Call}
    (silent : ¬Stores call) : Stocks x fine names (region.answer call).2 := by
  obtain ⟨lawful, stored, wired⟩ := stocks
  refine ⟨lawful.preserved (region.answer_conforms call), ?_, ?_⟩
  · rw [machines_of_silent region silent]
    exact stored
  · exact List.Subset.trans wired (interfaceNames_answer region call x)

/-- A call that stores the machine leaves what is true of the machine that it stores. -/
theorem Stocks.altered {call : Maas.Call} {value : call.Value}
    (stocks : Stocks x fine names region) (answers : region.answer call = (.ok value, after))
    (stores : Stores call)
    (changes : ∀ machine, region.inventory.machines.get? x = some machine → fine machine →
      ∀ stored, Alters region call stored → stored.systemId = x ∧ fine' stored) :
    Stocks x fine' names after := by
  obtain ⟨lawful, ⟨machine, found, is⟩, wired⟩ := stocks
  have conforms := region.answer_conforms call
  have kept := interfaceNames_answer region call x
  unfold Conforms at conforms
  rw [answers] at conforms kept
  refine ⟨lawful.preserved conforms, ?_, List.Subset.trans wired kept⟩
  obtain ⟨stored, alters, -, put⟩ := conforms.of_stores stores
  obtain ⟨own, is⟩ := changes machine found is stored alters
  refine ⟨stored, ?_, is⟩
  rw [put, Table.get?_insert, if_pos own]

/-- A call that changes the machine in a known way. -/
theorem Stocks.changed {call : Maas.Call} {value : call.Value} (change : Machine → Machine)
    (stocks : Stocks x fine names region) (answers : region.answer call = (.ok value, after))
    (stores : Stores call)
    (alters : ∀ stored, Alters region call stored → ∃ machine,
      region.inventory.machines.get? x = some machine ∧ stored = change machine)
    (own : ∀ machine, (change machine).systemId = machine.systemId)
    (changes : ∀ machine, fine machine → fine' (change machine)) : Stocks x fine' names after := by
  refine stocks.altered answers stores fun machine found is stored altered => ?_
  obtain ⟨other, known, rfl⟩ := alters stored altered
  cases found.symm.trans known
  exact ⟨(own machine).trans (stocks.lawful.keyed x machine found), changes machine is⟩

/-- A look at a machine shows it. -/
theorem Lawful.seen {shown : Machine} (lawful : region.Lawful)
    (answers : region.answer (.getMachine x) = (.ok shown, after)) :
    shown.systemId = x ∧ Stocks x (Mirrors shown) [] after := by
  unfold answer getMachine at answers
  cases found : region.inventory.machine x with
  | error error => simp [found, Except.map] at answers
  | ok machine =>
      simp only [found, Except.map, Prod.mk.injEq, Except.ok.injEq] at answers
      obtain ⟨rfl, rfl⟩ := answers
      have own : machine.systemId = x := lawful.keyed.machine found
      exact ⟨own, lawful, ⟨machine, machine_eq_ok found, mirrors_withInterfaces _ machine⟩,
        List.nil_subset _⟩

/-- An allocation takes its candidate and shows it. -/
theorem allocate_shows {params : Maas.AllocateParams} {shown : Machine}
    (answers : region.answer (.allocate params) = (.ok shown, after)) :
    ∃ machine, region.inventory.candidate params = .ok machine ∧
      Mirrors shown { machine with statusName := "Allocated" } := by
  unfold answer allocate at answers
  dsimp only at answers
  split at answers
  · cases answers
  · split at answers
    · cases answers
    · next machine found =>
        cases answers
        exact ⟨machine, found, mirrors_withInterfaces _ _⟩

/-- An allocated machine is in stock. -/
theorem Lawful.allocated {params : Maas.AllocateParams} {shown : Machine} (lawful : region.Lawful)
    (unnamed : params.systemId = none)
    (answers : region.answer (.allocate params) = (.ok shown, after)) :
    shown.statusName = "Allocated" ∧ Stocks shown.systemId (Mirrors shown) [] after := by
  obtain ⟨machine, found, mirrors⟩ := allocate_shows answers
  have stock : Stocks shown.systemId (fun stored => stored = machine) [] region :=
    ⟨lawful, ⟨machine, mirrors.systemId ▸ (lawful.candidate unnamed found).1, rfl⟩, List.nil_subset _⟩
  refine ⟨mirrors.statusName.symm, stock.altered answers trivial fun _ _ _ stored alters => ?_⟩
  obtain ⟨other, known, rfl⟩ := alters
  cases found.symm.trans known
  exact ⟨mirrors.systemId, mirrors⟩

/-- A machine that is allocated again stays what it is, but for its state. -/
theorem Stocks.allocatedAgain {shown : Machine} (stocks : Stocks x fine names region)
    (answers : region.answer (.allocate { systemId := some x }) = (.ok shown, after))
    (changes : ∀ machine, fine machine → fine' { machine with statusName := "Allocated" }) :
    shown.systemId = x ∧ shown.statusName = "Allocated" ∧
      Stocks x (fun stored => Mirrors shown stored ∧ fine' stored) names after := by
  obtain ⟨machine, found, mirrors⟩ := allocate_shows answers
  have known := candidate_named rfl found
  have own := stocks.lawful.keyed x machine known
  refine ⟨mirrors.systemId.symm.trans own, mirrors.statusName.symm, ?_⟩
  refine stocks.altered answers trivial fun stored present is other alters => ?_
  obtain ⟨again, same, rfl⟩ := alters
  cases found.symm.trans same
  cases known.symm.trans present
  exact ⟨own, mirrors, changes machine is⟩

/-- The machine that a tag is assigned to has it beside those before. -/
theorem assignTag_puts {tag : String} {value : Unit}
    (answers : region.answer (.assignTag tag x) = (.ok value, after)) :
    ∃ machine tagged, region.inventory.machines.get? x = some machine ∧
      tagged = { machine with tagNames := tagged.tagNames } ∧
        machine.tagNames ++ [tag] ⊆ tagged.tagNames ∧
          after.inventory.machines = region.inventory.machines.insert tagged.systemId tagged := by
  unfold answer assignTag at answers
  dsimp only at answers
  split at answers
  · cases answers
  · split at answers
    · cases answers
    · next machine found =>
        cases answers
        refine ⟨machine, _, machine_eq_ok found, ?_, ?_, rfl⟩
        · split <;> rfl
        · split
          · next has => simpa using has
          · exact List.Subset.refl _

/-- A machine that is tagged is as it was shown, with the tag. -/
theorem Stocks.tagged {shown : Machine} {tag : String} {value : Unit}
    (stocks : Stocks x (Mirrors shown) names region)
    (answers : region.answer (.assignTag tag x) = (.ok value, after)) :
    Stocks x (Mirrors { shown with tagNames := shown.tagNames ++ [tag] }) names after := by
  obtain ⟨lawful, ⟨machine, found, mirrors⟩, wired⟩ := stocks
  obtain ⟨stored, tagged, known, same, tags, put⟩ := assignTag_puts answers
  cases found.symm.trans known
  have conforms := region.answer_conforms (.assignTag tag x)
  have kept := interfaceNames_answer region (.assignTag tag x) x
  unfold Conforms at conforms
  rw [answers] at conforms kept
  refine ⟨lawful.preserved conforms, ⟨tagged, ?_, ?_⟩, List.Subset.trans wired kept⟩
  · have own : tagged.systemId = x := by
      rw [same]
      exact lawful.keyed x machine found
    rw [put, Table.get?_insert, if_pos own]
  · have has : shown.tagNames ++ [tag] ⊆ tagged.tagNames := by
      intro name mem
      apply tags
      rcases List.mem_append.mp mem with old | new
      · exact List.mem_append_left _ (mirrors.tagNames old)
      · exact List.mem_append_right _ new
    rw [same]
    exact ⟨mirrors.systemId, mirrors.statusName, mirrors.hostname, mirrors.swapSize, has⟩

end MachineProvisioning.Region
