import MachineProvisioning.Proofs.Region.Machines

/-! # The books of a region

Beside its stock a region keeps books: how often operations were called, which failures are planted, and
which number is the next. Every call enters them in the same way, whatever becomes of it, and a call that
is refused changes nothing else.
-/

namespace MachineProvisioning.Region

/-- The failure that is planted for a call. -/
def Planted.on (planted : Planted) : Maas.Call → Option Maas.Error
  | .allocate _ => planted.allocate
  | .compose _ _ => planted.compose
  | .deploy _ _ => planted.deploy
  | .release _ _ => planted.release
  | .listInterfaces _ => planted.listInterfaces
  | _ => none

/-- What is planted after a call: its failure is used up. -/
def Planted.spent (planted : Planted) : Maas.Call → Planted
  | .allocate _ => { planted with allocate := none }
  | .compose _ _ => { planted with compose := none }
  | .deploy _ _ => { planted with deploy := none }
  | .release _ _ => { planted with release := none }
  | .listInterfaces _ => { planted with listInterfaces := none }
  | _ => planted

/-- The counts with one more call. Binding the boot interface links it. -/
def Counts.counting (counts : Counts) : Maas.Call → Counts
  | .allocate _ => { counts with allocate := counts.allocate + 1 }
  | .compose _ _ => { counts with compose := counts.compose + 1 }
  | .release _ force =>
      { counts with
        release := counts.release + 1
        forcedRelease := if force then counts.forcedRelease + 1 else counts.forcedRelease }
  | .linkSubnet _ _ _ | .bindBootInterface _ _ => { counts with link := counts.link + 1 }
  | .unlinkSubnet _ _ _ => { counts with unlink := counts.unlink + 1 }
  | .deploy _ _ => { counts with deploy := counts.deploy + 1 }
  | .powerOn _ => { counts with powerOn := counts.powerOn + 1 }
  | .releaseIpAddress _ _ => { counts with ipRelease := counts.ipRelease + 1 }
  | .createBridge _ _ => { counts with bridge := counts.bridge + 1 }
  | .assignTag _ _ => { counts with tag := counts.tag + 1 }
  | _ => counts

/-- How many numbers a wiring takes: one for each interface and each link. -/
def numbersOf (wiring : List Wire) : Nat := if wiring.isEmpty then 1 else 2 * wiring.length

/-- How many numbers a call takes at most. -/
def draws : Maas.Call → Nat
  | .compose _ params => 1 + numbersOf ((params.interfaces.map readWiring).getD [])
  | .linkSubnet _ _ _ | .bindBootInterface _ _ | .createBridge _ _ => 1
  | _ => 0

/-- How a call is entered in the books. -/
structure Entered (region : Region) (call : Maas.Call) (reply : call.Reply) (after : Region) :
    Prop where
  counts : after.counts = region.counts ∨ after.counts = region.counts.counting call
  planted : after.planted = region.planted.spent call
  fails : ∀ error, region.planted.on call = some error → reply = .error error
  drawn : ∃ k ≤ draws call, after.nextId = region.nextId + UInt64.ofNat k
  refused : ∀ error, reply = .error error → after.inventory = region.inventory

variable {region after : Region} {call : Maas.Call} {x : String} {wiring : List Wire}

theorem spent_of_unplanted {planted : Planted} (unplanted : planted.on call = none) :
    planted.spent call = planted := by
  obtain ⟨allocate, compose, deploy, release, listInterfaces⟩ := planted
  cases call with
  | allocate | compose | deploy | release | listInterfaces =>
      obtain rfl := unplanted
      rfl
  | _ => rfl

/-- The failure that is planted for the call. -/
theorem Entered.failing {reply : call.Reply} {error : Maas.Error}
    (planted : region.planted.on call = some error) (fails : reply = .error error)
    (counts : after.counts = region.counts ∨ after.counts = region.counts.counting call)
    (spent : after.planted = region.planted.spent call) (same : after.nextId = region.nextId)
    (kept : after.inventory = region.inventory) : Entered region call reply after := by
  refine ⟨counts, spent, fun other on => ?_, ⟨0, Nat.zero_le _, by simpa using same⟩, fun _ _ => kept⟩
  rw [planted] at on
  cases on
  exact fails

/-- A refusal of a call for which no failure is planted. -/
theorem Entered.refusal {reply : call.Reply} (unplanted : region.planted.on call = none)
    (counts : after.counts = region.counts ∨ after.counts = region.counts.counting call)
    (same : after.planted = region.planted)
    (drawn : ∃ k ≤ draws call, after.nextId = region.nextId + UInt64.ofNat k)
    (kept : after.inventory = region.inventory) : Entered region call reply after where
  counts := counts
  planted := same.trans (spent_of_unplanted unplanted).symm
  fails error on := by rw [unplanted] at on; cases on
  drawn := drawn
  refused _ _ := kept

/-- A success. -/
theorem Entered.success {value : call.Value} (unplanted : region.planted.on call = none)
    (counts : after.counts = region.counts ∨ after.counts = region.counts.counting call)
    (same : after.planted = region.planted)
    (drawn : ∃ k ≤ draws call, after.nextId = region.nextId + UInt64.ofNat k) :
    Entered region call (.ok value) after where
  counts := counts
  planted := same.trans (spent_of_unplanted unplanted).symm
  fails error on := by rw [unplanted] at on; cases on
  drawn := drawn
  refused _ refused := nomatch refused

/-- No number is taken. -/
theorem none_drawn (same : after.nextId = region.nextId) :
    ∃ k ≤ draws call, after.nextId = region.nextId + UInt64.ofNat k :=
  ⟨0, Nat.zero_le _, by simpa using same⟩

/-- A look at the region. -/
theorem Entered.look {reply : call.Reply} (unplanted : region.planted.on call = none) :
    Entered region call reply region :=
  .refusal unplanted (.inl rfl) rfl (none_drawn rfl) rfl

theorem allocate_entered (region : Region) (params : Maas.AllocateParams) :
    Entered region (.allocate params) (allocate params region).1 (allocate params region).2 := by
  unfold allocate
  extract_lets counted
  split
  · next error planted => exact .failing planted rfl (.inr rfl) rfl rfl rfl
  · next unplanted =>
      split
      · exact .refusal unplanted (.inr rfl) rfl (none_drawn rfl) rfl
      · exact .success unplanted (.inr rfl) rfl (none_drawn rfl)

theorem release_entered (region : Region) (x : String) (force : Bool) :
    Entered region (.release x force) (release x force region).1 (release x force region).2 := by
  unfold release
  extract_lets counted
  split
  · next error planted => exact .failing planted rfl (.inr rfl) rfl rfl rfl
  · next unplanted =>
      split
      · exact .refusal unplanted (.inr rfl) rfl (none_drawn rfl) rfl
      · split
        · exact .refusal unplanted (.inr rfl) rfl (none_drawn rfl) rfl
        · exact .success unplanted (.inr rfl) rfl (none_drawn rfl)

theorem deploy_entered (region : Region) (x : String) (params : Maas.DeployParams) :
    Entered region (.deploy x params) (deploy x params region).1 (deploy x params region).2 := by
  unfold deploy
  extract_lets counted
  split
  · next error planted => exact .failing planted rfl (.inr rfl) rfl rfl rfl
  · next unplanted =>
      split
      · exact .refusal unplanted (.inr rfl) rfl (none_drawn rfl) rfl
      · split
        · exact .success unplanted (.inr rfl) rfl (none_drawn rfl)
        · exact .refusal unplanted (.inr rfl) rfl (none_drawn rfl) rfl

theorem setSwapSize_entered (region : Region) (x : String) (bytes : UInt64) :
    Entered region (.setSwapSize x bytes) (setSwapSize x bytes region).1
      (setSwapSize x bytes region).2 := by
  unfold setSwapSize update
  split
  · exact .look rfl
  · exact .success rfl (.inl rfl) rfl (none_drawn rfl)

theorem powerOn_entered (region : Region) (x : String) :
    Entered region (.powerOn x) (powerOn x region).1 (powerOn x region).2 := by
  unfold powerOn update
  split
  · exact .refusal rfl (.inr rfl) rfl (none_drawn rfl) rfl
  · exact .success rfl (.inr rfl) rfl (none_drawn rfl)

theorem setHostname_entered (region : Region) (x hostname : String) :
    Entered region (.setHostname x hostname) (setHostname x hostname region).1
      (setHostname x hostname region).2 := by
  unfold setHostname update
  split
  · exact .look rfl
  · split
    · exact .look rfl
    · exact .success rfl (.inl rfl) rfl (none_drawn rfl)

theorem assignTag_entered (region : Region) (name x : String) :
    Entered region (.assignTag name x) (assignTag name x region).1 (assignTag name x region).2 := by
  unfold assignTag
  split
  · exact .look rfl
  · split
    · exact .look rfl
    · exact .success rfl (.inr rfl) rfl (none_drawn rfl)

theorem listInterfaces_entered (region : Region) (x : String) :
    Entered region (.listInterfaces x) (listInterfaces x region).1 (listInterfaces x region).2 := by
  unfold listInterfaces
  split
  · next error planted => exact .failing planted rfl (.inl rfl) rfl rfl rfl
  · next unplanted =>
      split
      · exact .look unplanted
      · exact .look unplanted

theorem linkSubnet_entered (region : Region) (x : String) (interfaceId : UInt64)
    (params : Maas.LinkParams) :
    Entered region (.linkSubnet x interfaceId params) (linkSubnet x interfaceId params region).1
      (linkSubnet x interfaceId params region).2 := by
  unfold linkSubnet drawId
  dsimp only
  split
  · exact .refusal rfl (.inr rfl) rfl (none_drawn rfl) rfl
  · -- The number of the link is taken before the interface is looked up.
    have drawn : ∃ k ≤ draws (.linkSubnet x interfaceId params),
        region.nextId + 1 = region.nextId + UInt64.ofNat k := ⟨1, Nat.le_refl _, rfl⟩
    split
    · exact .refusal rfl (.inr rfl) rfl drawn rfl
    · exact .success rfl (.inr rfl) rfl drawn

theorem bindBootInterface_entered (region : Region) (x : String) (params : Maas.LinkParams) :
    Entered region (.bindBootInterface x params) (bindBootInterface x params region).1
      (bindBootInterface x params region).2 := by
  unfold bindBootInterface
  split
  · exact .look rfl
  · next bootId _ =>
      obtain ⟨counts, planted, fails, drawn, refused⟩ := linkSubnet_entered region x bootId params
      exact ⟨counts, planted, fails, drawn, refused⟩

theorem unlinkSubnet_entered (region : Region) (x : String) (interfaceId linkId : UInt64) :
    Entered region (.unlinkSubnet x interfaceId linkId) (unlinkSubnet x interfaceId linkId region).1
      (unlinkSubnet x interfaceId linkId region).2 := by
  unfold unlinkSubnet
  extract_lets counted
  split
  · exact .refusal rfl (.inr rfl) rfl (none_drawn rfl) rfl
  · split
    · exact .refusal rfl (.inr rfl) rfl (none_drawn rfl) rfl
    · exact .success rfl (.inr rfl) rfl (none_drawn rfl)

theorem createBridge_entered (region : Region) (x : String) (params : Maas.BridgeParams) :
    Entered region (.createBridge x params) (createBridge x params region).1
      (createBridge x params region).2 := by
  unfold createBridge drawId
  extract_lets counted
  split
  · exact .refusal rfl (.inr rfl) rfl (none_drawn rfl) rfl
  · split
    · exact .refusal rfl (.inr rfl) rfl (none_drawn rfl) rfl
    · exact .success rfl (.inr rfl) rfl ⟨1, Nat.le_refl _, rfl⟩

theorem counts_wire (x : String) (wiring : List Wire) (region : Region) :
    (wire x wiring region).counts = region.counts :=
  wire_preserves (P := fun after => after.counts = region.counts) (fun _ _ _ same => same) wiring rfl

/-- Every interface and every link of a wiring takes a number. -/
theorem nextId_wire (x : String) (wiring : List Wire) (region : Region) :
    (wire x wiring region).nextId = region.nextId + UInt64.ofNat (numbersOf wiring) := by
  have wires : (wiring.foldl (addWire x) region).nextId =
      region.nextId + UInt64.ofNat (2 * wiring.length) := by
    induction wiring generalizing region with
    | nil => simp
    | cons first rest ih =>
        calc ((first :: rest).foldl (addWire x) region).nextId
            = region.nextId + 1 + 1 + UInt64.ofNat (2 * rest.length) := ih (addWire x region first)
          _ = region.nextId + (2 + UInt64.ofNat (2 * rest.length)) := by
              rw [UInt64.add_assoc region.nextId, UInt64.add_assoc]
              rfl
          _ = region.nextId + UInt64.ofNat (2 * (first :: rest).length) := by
              rw [List.length_cons, Nat.mul_add, Nat.add_comm, UInt64.ofNat_add]
              rfl
  unfold wire numbersOf
  split
  · rfl
  · exact wires

theorem compose_entered (region : Region) (hostId : UInt64) (params : Maas.ComposeParams) :
    Entered region (.compose hostId params) (compose hostId params region).1
      (compose hostId params region).2 := by
  unfold compose
  extract_lets counted
  split
  · next error planted => exact .failing planted rfl (.inr rfl) rfl rfl rfl
  · next unplanted =>
      split
      · exact .refusal unplanted (.inr rfl) rfl (none_drawn rfl) rfl
      · split
        · exact .refusal unplanted (.inr rfl) rfl (none_drawn rfl) rfl
        · refine .success unplanted (.inr (counts_wire _ _ _)) (planted_wire _ _ _)
            ⟨_, Nat.le_refl _, (nextId_wire _ _ _).trans ?_⟩
          rw [draws, UInt64.ofNat_add, ← UInt64.add_assoc]
          rfl

theorem listHostVms_entered (region : Region) (hostId : UInt64) :
    Entered region (.listHostVms hostId) (listHostVms hostId region).1
      (listHostVms hostId region).2 := by
  unfold listHostVms
  dsimp only
  split
  · exact .look rfl
  · exact .look rfl

theorem releaseIpAddress_entered (region : Region) (ip : String) (force : Bool) :
    Entered region (.releaseIpAddress ip force) (releaseIpAddress ip force region).1
      (releaseIpAddress ip force region).2 := by
  unfold releaseIpAddress
  extract_lets counted
  split
  · exact .refusal rfl (.inr rfl) rfl (none_drawn rfl) rfl
  · split
    · exact .refusal rfl (.inr rfl) rfl (none_drawn rfl) rfl
    · exact .success rfl (.inr rfl) rfl (none_drawn rfl)

theorem createTag_entered (region : Region) (name : String) :
    Entered region (.createTag name) (createTag name region).1 (createTag name region).2 := by
  unfold createTag
  dsimp only
  split
  · exact .look rfl
  · exact .success rfl (.inl rfl) rfl (none_drawn rfl)

/-- Every call is entered in the books. -/
theorem answer_entered (region : Region) (call : Maas.Call) :
    Entered region call (region.answer call).1 (region.answer call).2 := by
  cases call with
  | allocate params => exact allocate_entered region params
  | release x force => exact release_entered region x force
  | deploy x params => exact deploy_entered region x params
  | setSwapSize x bytes => exact setSwapSize_entered region x bytes
  | setHostname x hostname => exact setHostname_entered region x hostname
  | powerOn x => exact powerOn_entered region x
  | compose hostId params => exact compose_entered region hostId params
  | listHostVms hostId => exact listHostVms_entered region hostId
  | listInterfaces x => exact listInterfaces_entered region x
  | linkSubnet x interfaceId params => exact linkSubnet_entered region x interfaceId params
  | unlinkSubnet x interfaceId linkId => exact unlinkSubnet_entered region x interfaceId linkId
  | bindBootInterface x params => exact bindBootInterface_entered region x params
  | createBridge x params => exact createBridge_entered region x params
  | releaseIpAddress ip force => exact releaseIpAddress_entered region ip force
  | createTag name => exact createTag_entered region name
  | assignTag name x => exact assignTag_entered region name x
  | _ => exact .look rfl

/-- A call that is refused changes nothing in stock. -/
theorem inventory_of_refused {error : Maas.Error}
    (answers : region.answer call = (.error error, after)) : after.inventory = region.inventory := by
  have entered := region.answer_entered call
  rw [answers] at entered
  exact entered.refused error rfl

/-- A call that is refused changes the books only: it is counted or not, the failure that is planted for
    it is the refusal and is used up, and a number may have been taken. -/
theorem refusal_keeps_stock {error : Maas.Error}
    (answers : region.answer call = (.error error, after)) :
    after.inventory = region.inventory ∧
    (after.counts = region.counts ∨ after.counts = region.counts.counting call) ∧
    after.planted = region.planted.spent call ∧
    (∀ planted, region.planted.on call = some planted → error = planted) ∧
    ∃ k ≤ draws call, after.nextId = region.nextId + UInt64.ofNat k := by
  have entered := region.answer_entered call
  rw [answers] at entered
  refine ⟨inventory_of_refused answers, entered.counts, entered.planted, fun planted on => ?_,
    entered.drawn⟩
  exact Except.error.inj (entered.fails planted on)

/-- A subnet, and nothing else. -/
def subnetted : Region :=
  empty.after (.addSubnet ⟨1, "lab", "10.0.0.0/24", none, none⟩)

/-- A link that is refused has taken its number. -/
theorem refusal_keeps_stock_unlinked :
    let call : Maas.Call := .linkSubnet "m1" 7 ⟨.auto, "lab", none, false⟩
    let after := (subnetted.answer call).2
    subnetted.answer call =
      (.error (.notFound "No Interface matches the given query: 7 on m1"), after) ∧
    after.inventory = subnetted.inventory ∧
    (after.counts = subnetted.counts ∨ after.counts = subnetted.counts.counting call) ∧
    after.planted = subnetted.planted.spent call ∧
    (∀ planted, subnetted.planted.on call = some planted →
      .notFound "No Interface matches the given query: 7 on m1" = planted) ∧
    ∃ k ≤ draws call, after.nextId = subnetted.nextId + UInt64.ofNat k := by
  intro call after
  have answers : subnetted.answer call =
      (.error (.notFound "No Interface matches the given query: 7 on m1"), after) := by
    rfl
  exact ⟨answers, refusal_keeps_stock answers⟩

end MachineProvisioning.Region
