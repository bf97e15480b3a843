import MachineProvisioning.Proofs.World.Faults

/-! # When an instance is shared

Nothing in a record says whose an instance is, and no task asks. So the tasks of several declared machines
can come to share an instance, in as many ways as one of them can take over what another has recorded.
-/

namespace MachineProvisioning.Fleet

open Resource (Key Spec)
open Engine (Task)
open Region (Event)

/-- Starting without records, tasks come to share an instance exactly when one of them takes over what
    another declared machine has recorded: it is allocated the instance, adopts it, or composes it. Where
    records can be read and cleared and MAAS calls no foreign machine broken, an instance is shared only
    after a virtual machine has adopted one that was ready or recorded or has been composed under a recorded
    id, or a recorded one was made ready from outside. And a composed machine gets a recorded id only when
    that id was brought in, or ten thousand numbers have been taken. -/
theorem shares_iff_meets_takeover {past : List Event} {world : World}
    (mock : world.region = Region.empty.afterAll past)
    (vacant : ∀ key, world.memory.checkpoint? key = none) (run : List Occurrence) :
    (Shares world run ↔ Meets IsTakeover world run) ∧
      (Always Dependable world run → Shares world run → Meets Exposes world run) ∧
      ∀ x, Meets (Collides x) world run →
        10000 ≤ Region.drawsOf (past ++ history world run) ∨
          ∃ event ∈ past ++ history world run, event.Brings x := by
  have lawful : world.region.Lawful := mock ▸ Region.lawful_empty.afterAll past
  have guarded := guarded_of_vacant lawful vacant
  have accounted : world.Accounted past := by
    refine ⟨mock, ?_⟩
    rintro x ⟨key, checkpoint, held, -⟩
    rw [vacant key] at held
    cases held
  exact ⟨shares_iff_meets lawful guarded.unshared, exposes_of_shares guarded,
    fun _ => of_collides accounted⟩

/-- A world with such a region, in which nothing is recorded and these faults are planned. -/
def opened (past : List Event) (maasFaults : Faults Maas.Error) (storeFaults : Faults Failure) :
    World where
  region := Region.empty.afterAll past
  maasFaults
  storeFaults
  clock := ⟨0, 0⟩

/-- The world in which a run ends. -/
def last (world : World) (run : List Occurrence) : World := run.foldl after world

theorem last_mem_course (world : World) (run : List Occurrence) : last world run ∈ course world run := by
  induction run generalizing world with
  | nil => exact .head _
  | cons occurrence rest ih => exact .tail _ (List.mem_append_right _ (ih (after world occurrence)))

theorem shares_of_last {world : World} {run : List Occurrence} (key other : Key) (x : String)
    (differs : key ≠ other)
    (held : ((last world run).memory.checkpoint? key).map (·.instanceId) = some x)
    (also : ((last world run).memory.checkpoint? other).map (·.instanceId) = some x) :
    Shares world run := by
  obtain ⟨checkpoint, known, own⟩ := Option.map_eq_some_iff.mp held
  obtain ⟨checkpoint', known', own'⟩ := Option.map_eq_some_iff.mp also
  refine ⟨last world run, last_mem_course world run, fun unshared => differs ?_⟩
  exact unshared key other checkpoint checkpoint' known known' (own.trans own'.symm)

def first : Key := ⟨"a", "worker-0"⟩

def second : Key := ⟨"a", "worker-1"⟩

/-- Has the name of the first one. -/
def namesake : Key := ⟨"b", "worker-0"⟩

def physical : Spec := { minCpu := 1, minMemoryMib := 1024 }

def virtual : Spec := { physical with mode := .virtualized }

def provides (key : Key) (spec : Spec) : Occurrence := .task key (.provision {} spec)

def hosting : Event :=
  .change (.addHost (.roomy 1 "host-1" ⟨1, "z1"⟩ (some ⟨1, "p1"⟩) none))

/-- A machine is brought in that is ready. -/
def racking (systemId hostname : String) : Event := .change (.addMachine
  { systemId, hostname, cpuCount := 8, memory := 65536, statusName := "Ready", powerState := "off" })

def unreachable : Failure := .persistence "unreachable"

/-- The second of two namesakes adopts the machine of the first one. -/
theorem shares_iff_meets_takeover_namesakes :
    let world := opened [hosting] .empty .empty
    let run := [provides first virtual, provides namesake virtual]
    Shares world run ∧ Meets IsTakeover world run ∧ Meets Exposes world run := by
  intro world run
  have shares : Shares world run :=
    shares_of_last first namesake "vm1000" (by decide) (by decide +kernel) (by decide +kernel)
  have mock : world.region = Region.empty.afterAll [hosting] := rfl
  have vacant : ∀ key, world.memory.checkpoint? key = none := fun _ => rfl
  obtain ⟨takes, exposes, -⟩ := shares_iff_meets_takeover mock vacant run
  exact ⟨shares, takes.mp shares, exposes (dependable_of_faultless ⟨rfl, rfl, rfl⟩) shares⟩

/-- What is recorded for one declared machine gets recorded for another one: a namesake adopts it; it was
    ready when it was adopted, stays ready as the task fails, and is allocated; it is made ready from
    outside; it was brought in under the id that a composed machine gets; it was released but its record
    could not be cleared, in a cleanup and in a recovery; and MAAS calls it broken in answer to the other
    one's task. -/
theorem shares_instances :
    (∀ past maasFaults storeFaults key,
      (opened past maasFaults storeFaults).memory.checkpoint? key = none) ∧
    Shares (opened [hosting] .empty .empty) [provides first virtual, provides namesake virtual] ∧
    Shares (opened [hosting, racking "m1" "worker-0"] .empty .empty)
      [provides first { virtual with virtualized := some { networks := ["lan", "wan"] } },
        provides second physical] ∧
    Shares (opened [hosting] .empty .empty)
      [provides first virtual, .change (.commissioned "vm1000"), provides second physical] ∧
    Shares (opened [hosting, racking "vm1000" "node-7"] .empty .empty)
      [provides second physical, provides first virtual] ∧
    Shares (opened [racking "m1" "node-7"] .empty (.plan .empty "clear_instance" 0 unreachable))
      [provides first physical, .task first .cleanup, provides second physical] ∧
    Shares (opened [racking "m1" "node-7"] .empty (.plan .empty "load" 2 unreachable))
      [provides first physical, .change (.setStatus "m1" "Broken"), provides first physical,
        provides second physical] ∧
    Shares (opened [racking "m1" "node-7"]
        (.plan .empty "allocate" 1 (.brokenMachine (some "m1") none "broken")) .empty)
      [provides first physical, provides second physical, provides second physical] := by
  refine ⟨fun _ _ _ _ => rfl, ?_, ?_, ?_, ?_, ?_, ?_, ?_⟩
  · exact shares_of_last first namesake "vm1000" (by decide) (by decide +kernel) (by decide +kernel)
  · exact shares_of_last first second "m1" (by decide) (by decide +kernel) (by decide +kernel)
  · exact shares_of_last first second "vm1000" (by decide) (by decide +kernel) (by decide +kernel)
  · exact shares_of_last first second "vm1000" (by decide) (by decide +kernel) (by decide +kernel)
  · exact shares_of_last first second "m1" (by decide) (by decide +kernel) (by decide +kernel)
  · exact shares_of_last first second "m1" (by decide) (by decide +kernel) (by decide +kernel)
  · exact shares_of_last first second "m1" (by decide) (by decide +kernel) (by decide +kernel)

end MachineProvisioning.Fleet
