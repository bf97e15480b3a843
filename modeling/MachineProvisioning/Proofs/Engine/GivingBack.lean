import MachineProvisioning.Proofs.World.Answers

/-! # Giving an instance back

A release asks MAAS once, or twice when it is refused, and clears the record when MAAS says that the
instance is released or gone. There are few ways for that to go, and they are listed here. Everything
else is read off the list: what a release asks for, what it leaves recorded and what it counts.
-/

namespace MachineProvisioning.Engine

open Program (Exchange)
open Resource (Key)
open Store (Checkpoint)
open Telemetry (Metrics)

/-- MAAS does not release the machine gracefully in the state that it is in. -/
def Refuses : Maas.Error → Prop
  | .invalidState _ | .brokenMachine _ _ _ => True
  | _ => False

/-- MAAS says that the machine is released, or that there is none. -/
def SaysReleased : Except Maas.Error Unit → Prop
  | .ok _ | .error (.notFound _) => True
  | _ => False

/-- The exchanges of a release that end with the instance released or gone. -/
inductive Relinquishes (x : String) : Transcript → Prop where
  | gracefully (reply : Except Maas.Error Unit) (released : SaysReleased reply) :
      Relinquishes x [⟨.maas (.release x false), reply⟩]
  | forcibly (error : Maas.Error) (refused : Refuses error) :
      Relinquishes x [⟨.maas (.release x false), .error error⟩, ⟨.maas (.release x true), .ok ()⟩,
        ⟨.count .forcedRelease, ()⟩]
  | vanished (error : Maas.Error) (refused : Refuses error) (text : String) :
      Relinquishes x [⟨.maas (.release x false), .error error⟩,
        ⟨.maas (.release x true), .error (.notFound text)⟩]

/-- How a release goes. -/
inductive Releases (key : Key) (x : String) : Except Failure Unit → Transcript → Prop where
  | cleared {past : Transcript} (relinquished : Relinquishes x past) :
      Releases key x (.ok ()) (past ++ [⟨.store (.clearInstance key), .ok ()⟩])
  | uncleared {past : Transcript} (relinquished : Relinquishes x past) (fault : Failure) :
      Releases key x (.error fault) (past ++ [⟨.store (.clearInstance key), .error fault⟩])
  | unreleased (error : Maas.Error) (final : ¬Refuses error)
      (held : ¬SaysReleased (.error error)) :
      Releases key x (.error (.backend ("release " ++ x) error))
        [⟨.maas (.release x false), .error error⟩]
  | unforced (first error : Maas.Error) (refused : Refuses first)
      (held : ¬SaysReleased (.error error)) :
      Releases key x (.error (.backend ("force release " ++ x) error))
        [⟨.maas (.release x false), .error first⟩, ⟨.maas (.release x true), .error error⟩]

/-- What a release may ask for, after these exchanges. -/
structure Warrants (key : Key) (x : String) (past : Transcript) (effect : Effect) : Prop where
  /-- The instance is released by force only when that has just been refused. -/
  releases : ∀ y force, effect = .maas (.release y force) →
    y = x ∧ (force = true →
      ∃ error, Refuses error ∧ past = [⟨.maas (.release x false), .error error⟩])
  /-- The store is asked for nothing but to clear the record. -/
  clears : ∀ call, effect = .store call → call = .clearInstance key

/-- Releases with any answers. -/
def releasing (key : Key) (x : String) : Discipline Transcript :=
  .history (Warrants key x) fun _ _ => True

variable {key : Key} {x : String} {transcript : Transcript} {result : Except Failure Unit}

theorem warrants_release {past : Transcript} {force : Bool} (forced : force = true →
    ∃ error, Refuses error ∧ past = [⟨.maas (.release x false), .error error⟩]) :
    Warrants key x past (.maas (.release x force)) := by
  refine ⟨fun y other same => ?_, by simp⟩
  obtain ⟨rfl, rfl⟩ : x = y ∧ force = other := by simpa using same
  exact ⟨rfl, forced⟩

theorem warrants_clear {past : Transcript} : Warrants key x past (.store (.clearInstance key)) :=
  ⟨by simp, by simp⟩

theorem warrants_count {past : Transcript} {event : Event} : Warrants key x past (.count event) :=
  ⟨by simp, by simp⟩

theorem forceRelease_releases {error : Maas.Error} (refused : Refuses error) :
    (forceRelease x).Ensures (releasing key x) (fun _ => Relinquishes x)
      (fun failure => Releases key x (.error failure))
      [⟨.maas (.release x false), .error error⟩] := by
  refine Pass.ensures_bind.mpr (Pass.ensures_tryMaas.mpr ⟨?_, ?_⟩)
  · exact warrants_release fun _ => ⟨error, refused, rfl⟩
  · rintro reply _ ⟨-, rfl⟩
    split
    · refine Pass.ensures_count.mpr ⟨warrants_count, ?_⟩
      rintro _ _ ⟨-, rfl⟩
      exact .forcibly error refused
    · next text => exact Pass.ensures_pure.mpr (.vanished error refused text)
    · next last other =>
        refine Pass.ensures_throw.mpr (.unforced error last refused ?_)
        cases last with
        | notFound text => exact absurd rfl (other text)
        | _ => exact id

theorem clear_releases {past : Transcript} (relinquished : Relinquishes x past) :
    (Pass.store (.clearInstance key)).Ensures (releasing key x) (fun _ => Releases key x (.ok ()))
      (fun failure => Releases key x (.error failure)) past := by
  refine Pass.ensures_store.mpr ⟨warrants_clear, ?_, ?_⟩
  · rintro _ _ ⟨-, rfl⟩
    exact .cleared relinquished
  · rintro fault _ ⟨-, rfl⟩
    exact .uncleared relinquished fault

theorem release_releases :
    (release key x).Ensures (releasing key x) (fun _ => Releases key x (.ok ()))
      (fun failure => Releases key x (.error failure)) [] := by
  refine Pass.ensures_bind.mpr (Pass.ensures_tryMaas.mpr ⟨warrants_release (by simp), ?_⟩)
  rintro reply _ ⟨-, rfl⟩
  split
  · exact clear_releases (.gracefully _ trivial)
  · exact clear_releases (.gracefully _ trivial)
  · next text =>
      have refused : Refuses (.invalidState text) := trivial
      exact (forceRelease_releases refused).bind fun _ _ => clear_releases
  · next named hostId text =>
      have refused : Refuses (.brokenMachine named hostId text) := trivial
      exact (forceRelease_releases refused).bind fun _ _ => clear_releases
  · next error gone invalid broken =>
      refine Pass.ensures_throw.mpr (.unreleased error ?_ ?_)
      · cases error with
        | invalidState text => exact absurd rfl (invalid text)
        | brokenMachine named hostId text => exact absurd rfl (broken named hostId text)
        | _ => exact id
      · cases error with
        | notFound text => exact absurd rfl (gone text)
        | _ => exact id

theorem releases_of_trace (trace : Program.Trace (release key x).run transcript result) :
    Releases key x result transcript ∧
      ∀ before exchange after, transcript = before ++ exchange :: after →
        Warrants key x before exchange.1 := by
  obtain ⟨goes, warranted⟩ := release_releases.trace trace fun _ _ _ _ => trivial
  refine ⟨?_, warranted⟩
  cases result with
  | ok value => exact goes
  | error failure => exact goes

/-- What MAAS answers when it is asked to release the machine. -/
def releaseReply? (x : String) : Exchange Effect Effect.Answer → Option (Except Maas.Error Unit)
  | ⟨.maas (.release y _), reply⟩ => if y = x then some reply else none
  | _ => none

/-- The answer to the last request to release the machine. -/
def lastReleaseReply (x : String) (transcript : Transcript) : Option (Except Maas.Error Unit) :=
  (transcript.filterMap (releaseReply? x)).getLast?

/-- A release by force that succeeds. -/
def isForcedRelease : Exchange Effect Effect.Answer → Bool
  | ⟨.maas (.release _ true), .ok _⟩ => true
  | _ => false

/-- The metrics after an exchange. -/
def countAfter (metrics : Metrics) : Exchange Effect Effect.Answer → Metrics
  | ⟨.count event, _⟩ => metrics.record event
  | _ => metrics

/-- What is recorded after these exchanges, when failed writes are not made. -/
def recordAfterAll (key : Key) (recorded : Option Checkpoint) (transcript : Transcript) :
    Option Checkpoint :=
  transcript.foldl (fun recorded exchange => recordAfter key recorded exchange.1 exchange.2) recorded

theorem Relinquishes.no_write {past : Transcript} (relinquished : Relinquishes x past) :
    ∀ exchange ∈ past, ¬exchange.1.IsWrite := by
  cases relinquished with
  | _ => simp [Effect.IsWrite]

theorem Relinquishes.lastReply {past : Transcript} (relinquished : Relinquishes x past) :
    ∃ reply, lastReleaseReply x past = some reply ∧ SaysReleased reply := by
  cases relinquished with
  | gracefully reply released => exact ⟨reply, by simp [lastReleaseReply, releaseReply?], released⟩
  | forcibly error refused =>
      exact ⟨.ok (), by simp [lastReleaseReply, releaseReply?, List.filterMap_cons], trivial⟩
  | vanished error refused text =>
      exact ⟨.error (.notFound text), by simp [lastReleaseReply, releaseReply?], trivial⟩

namespace Releases

theorem starts_gracefully (goes : Releases key x result transcript) :
    ∃ reply rest, transcript = ⟨.maas (.release x false), reply⟩ :: rest := by
  cases goes with
  | cleared relinquished | uncleared relinquished fault =>
      cases relinquished with
      | _ => exact ⟨_, _, rfl⟩
  | unreleased error final held | unforced first error refused held => exact ⟨_, _, rfl⟩

/-- A success follows MAAS saying that the instance is released or gone. -/
theorem lastReply (goes : Releases key x (.ok ()) transcript) :
    ∃ reply, lastReleaseReply x transcript = some reply ∧ SaysReleased reply := by
  cases goes with
  | cleared relinquished =>
      obtain ⟨reply, last, told⟩ := relinquished.lastReply
      refine ⟨reply, ?_, told⟩
      rw [← last]
      simp [lastReleaseReply, releaseReply?]

/-- After a success nothing is recorded. -/
theorem forgets {recorded after : Option Checkpoint} (goes : Releases key x (.ok ()) transcript)
    (follows : (recording key).Follows recorded transcript after) : after = none := by
  cases goes with
  | cleared relinquished =>
      obtain ⟨between, -, _, leads, rfl⟩ := Protocol.follows_append.mp follows
      simpa [recording, Records] using leads

/-- After a failure the record is as it was, unless it failed to be cleared and may be cleared all
    the same. -/
theorem keeps {failure : Failure} {recorded after : Option Checkpoint}
    (goes : Releases key x (.error failure) transcript)
    (follows : (recording key).Follows recorded transcript after) :
    after = recorded ∨
      (⟨.store (.clearInstance key), .error failure⟩ ∈ transcript ∧ after = none) := by
  cases goes with
  | uncleared relinquished fault =>
      obtain ⟨between, before, _, leads, rfl⟩ := Protocol.follows_append.mp follows
      obtain rfl := recorded_of_no_write before relinquished.no_write
      obtain same | ⟨-, cleared⟩ := leads
      · exact .inl same
      · exact .inr ⟨by simp, cleared⟩
  | unreleased error final held =>
      exact .inl (recorded_of_no_write follows (by simp [Effect.IsWrite]))
  | unforced first error refused held =>
      exact .inl (recorded_of_no_write follows (by simp [Effect.IsWrite]))

theorem recordAfterAll_eq {failure : Failure} (goes : Releases key x (.error failure) transcript)
    (recorded : Option Checkpoint) : recordAfterAll key recorded transcript = recorded := by
  cases goes with
  | uncleared relinquished fault =>
      cases relinquished with
      | _ => rfl
  | unreleased error final held | unforced first error refused held => rfl

/-- Each forced release that succeeds is counted once. -/
theorem counts (goes : Releases key x result transcript) (metrics : Metrics) :
    (transcript.foldl countAfter metrics).forcedReleases =
      metrics.forcedReleases + transcript.countP isForcedRelease := by
  cases goes with
  | cleared relinquished | uncleared relinquished fault =>
      cases relinquished with
      | _ => rfl
  | unreleased error final held | unforced first error refused held => rfl

end Releases

/-- What makes a release safe, and honest about what it did. -/
structure IsHonestRelease (key : Key) (x : String) (transcript : Transcript)
    (result : Except Failure Unit) : Prop where
  /-- The first thing asked for is a graceful release. -/
  graceful : ∃ reply rest, transcript = ⟨.maas (.release x false), reply⟩ :: rest
  /-- Force is used only against a refusal, and nothing else is released or written. -/
  warranted : ∀ before exchange after, transcript = before ++ exchange :: after →
    Warrants key x before exchange.1
  /-- A success follows MAAS saying that the instance is released or gone, and nothing is recorded
      after it. -/
  succeeds : result = .ok () →
    (∃ reply, lastReleaseReply x transcript = some reply ∧ SaysReleased reply) ∧
      ∀ recorded after, (recording key).Follows recorded transcript after → after = none
  /-- After a failure the record is as it was, where failed writes are not made. Where they can have
      been made, only failing to clear the record can have cleared it. -/
  fails : ∀ failure, result = .error failure → ∀ recorded,
    recordAfterAll key recorded transcript = recorded ∧
      ∀ after, (recording key).Follows recorded transcript after → after = recorded ∨
        (⟨.store (.clearInstance key), .error failure⟩ ∈ transcript ∧ after = none)
  /-- Other records stay, even where failed writes can have been made. -/
  others : ∀ other, other ≠ key → ∀ recorded after,
    (recording other).Follows recorded transcript after → after = recorded
  /-- Each forced release that succeeds is counted, and nothing else is. -/
  counts : ∀ metrics, (transcript.foldl countAfter metrics).forcedReleases =
    metrics.forcedReleases + transcript.countP isForcedRelease

/-- Clearing the record of one machine keeps those of the others. -/
theorem recorded_of_clears {other : Key} {recorded after : Option Checkpoint} (differ : other ≠ key)
    (follows : (recording other).Follows recorded transcript after)
    (clears : ∀ exchange ∈ transcript, ∀ call, exchange.1 = .store call → call = .clearInstance key) :
    after = recorded := by
  refine follows.eq_of_leads_eq fun exchange mem next leads => ?_
  obtain ⟨effect, answer⟩ := exchange
  cases effect with
  | store call =>
      obtain rfl := clears _ mem call rfl
      cases answer with
      | ok value => simpa [recording, Records, differ.symm] using leads
      | error fault => simpa [recording, Records, differ.symm] using leads
  | _ => exact leads

/-- A release is graceful first, and says truly what became of the instance and of its record. -/
theorem release_honest (trace : Program.Trace (release key x).run transcript result) :
    IsHonestRelease key x transcript result := by
  obtain ⟨goes, warranted⟩ := releases_of_trace trace
  refine ⟨goes.starts_gracefully, warranted, ?_, ?_, ?_, goes.counts⟩
  · rintro rfl
    exact ⟨goes.lastReply, fun _ _ => goes.forgets⟩
  · rintro failure rfl recorded
    exact ⟨goes.recordAfterAll_eq recorded, fun _ => goes.keeps⟩
  · intro other differ recorded after follows
    refine recorded_of_clears differ follows fun exchange mem => ?_
    obtain ⟨before, rest, split⟩ := List.append_of_mem mem
    exact (warranted before exchange rest split).clears

/-- The recorded machine is broken. -/
def brokenDown : World where
  region := Region.empty.after (.addMachine
    { systemId := "m1", hostname := "node-7", cpuCount := 8, memory := 65536,
      statusName := "Broken", powerState := "off" })
  memory := Store.Memory.modifySaved {} ⟨"metal", "worker-0"⟩ fun saved =>
    { saved with checkpoint := some (.new "m1" none (some "node-7")) }
  clock := ⟨0, 0⟩

theorem release_honest_brokenDown :
    let released := release ⟨"metal", "worker-0"⟩ "m1"
    (brokenDown.pass released).1 = .ok () ∧
      (brokenDown.exchanges released).countP isForcedRelease = 1 ∧
        IsHonestRelease ⟨"metal", "worker-0"⟩ "m1" (brokenDown.exchanges released) (.ok ()) := by
  intro released
  have succeeds : (brokenDown.pass released).1 = .ok () := by rfl
  have trace : Program.Trace released.run (brokenDown.exchanges released) (.ok ()) :=
    succeeds ▸ Program.trace_exchanges World.answer released.run brokenDown
  exact ⟨succeeds, by decide +kernel, release_honest trace⟩

end MachineProvisioning.Engine
