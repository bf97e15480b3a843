import MachineProvisioning.Proofs.Region.Machines

/-! # What happens to a region

A history of a region is made of calls, changes from outside and failures that are planted. What holds
after a history and did not hold before it has come about in one of its events.
-/

namespace MachineProvisioning.Region

/-- What can happen to a region. -/
inductive Event where
  | call (call : Maas.Call)
  | change (change : Change)
  /-- From now on these failures are planted. -/
  | plant (planted : Planted)

/-- The region after an event. -/
def next (region : Region) : Event → Region
  | .call call => (region.answer call).2
  | .change change => region.after change
  | .plant planted => { region with planted }

/-- The region after a history. -/
def afterAll (region : Region) (events : List Event) : Region := events.foldl next region

variable {region : Region} {events : List Event}

theorem Lawful.next (lawful : region.Lawful) (event : Event) : (region.next event).Lawful := by
  cases event with
  | call call => exact lawful.preserved (region.answer_conforms call)
  | change change => exact lawful.after change
  | plant planted => exact ⟨lawful.keyed, lawful.ordered⟩

theorem Lawful.afterAll (lawful : region.Lawful) (events : List Event) :
    (region.afterAll events).Lawful := by
  induction events generalizing region with
  | nil => exact lawful
  | cons event rest ih => exact ih (lawful.next event)

theorem afterAll_append (region : Region) (earlier later : List Event) :
    region.afterAll (earlier ++ later) = (region.afterAll earlier).afterAll later := List.foldl_append

/-- What comes about in a history comes about in one of its events. -/
theorem exists_turn {P : Region → Prop} (start : ¬P region) (last : P (region.afterAll events)) :
    ∃ earlier event later, events = earlier ++ event :: later ∧ ¬P (region.afterAll earlier) ∧
      P ((region.afterAll earlier).next event) := by
  induction events generalizing region with
  | nil => exact absurd last start
  | cons event rest ih =>
      by_cases now : P (region.next event)
      · exact ⟨[], event, rest, rfl, start, now⟩
      · obtain ⟨earlier, turn, later, rfl, before, after⟩ := ih now last
        exact ⟨event :: earlier, turn, later, rfl, before, after⟩

end MachineProvisioning.Region
