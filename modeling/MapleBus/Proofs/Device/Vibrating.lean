import MapleBus.Device.Vibration
import MapleBus.Proofs.PlayerBus.Following

/-!
# Vibration packs forget cancelled effects

An effect leaves the mailbox of a vibration pack when it is accepted, and comes back as a
repetition only when it fails.  A pack that notices that an effect was cancelled holds it
nowhere any more, so what it sends next is what was queued since.
-/

namespace MapleBus.Device.Vibration

open Journal PlayerBus

variable {pack : Vibration} {tx : Transmission}

/-! ## A vibration pack as a follower -/

/-- Effects are posted, and faults are taken. -/
inductive Driven : Vibration → Vibration → Prop where
  | posted (pack : Vibration) (time : UInt64) (effect : Effect) :
      Driven pack (pack.post time effect)
  | faultTaken (pack : Vibration) :
      Driven pack { pack with mailbox := pack.mailbox.takeFault.2 }

/-- The packet of the effect that a pack sends at a time. -/
def offer? (pack : Vibration) (now : UInt64) : Option Packet :=
  (pack.supersede.next? now).map pack.packet

/-- A pack whose effect was accepted. -/
def submitted (pack : Vibration) (now : UInt64) (handle : Handle) : Vibration :=
  { pack.supersede with
    mailbox :=
      { pack.supersede.mailbox with
        queued :=
          if (pack.supersede.mailbox.due? now).isSome then none
          else pack.supersede.mailbox.queued }
    inFlight := (pack.supersede.next? now).map fun effect => (handle, effect)
    retry := none
    first := false }

/-- Nothing but the mailbox tells a pack what to send. -/
def IsSpent (pack : Vibration) : Prop :=
  pack.retry = none ∧ pack.first = false

/-- A vibration pack sends the effect that is due, is to be repeated or comes first.
After that, only what is queued. -/
def follower : Follower Vibration where
  held pack := pack.inFlight.map Prod.fst
  offer pack := offer? { pack with inFlight := none }
  rests pack _ := supersede { pack with inFlight := none }
  submits pack := submitted { pack with inFlight := none }
  still _ := IsSpent
  again _ pack later :=
    ∃ time effect, pack.mailbox.queued = some (time, effect) ∧ later = pack.packet effect

/-! ## Programs -/

section Supersede

variable (pack)

theorem supersede_cases :
    pack.supersede = pack ∨ pack.supersede = { pack with retry := none, attempts := 0 } := by
  unfold supersede
  split
  · exact Or.inr rfl
  · exact Or.inl rfl

theorem address_supersede : pack.supersede.address = pack.address := by
  rcases pack.supersede_cases with same | same <;> rw [same]

theorem inFlight_supersede : pack.supersede.inFlight = pack.inFlight := by
  rcases pack.supersede_cases with same | same <;> rw [same]

theorem mailbox_supersede : pack.supersede.mailbox = pack.mailbox := by
  rcases pack.supersede_cases with same | same <;> rw [same]

theorem packet_supersede : pack.supersede.packet = pack.packet := by
  rcases pack.supersede_cases with same | same
  · rw [same]
  · rw [same]
    rfl

end Supersede

theorem isSpent_supersede (spent : pack.IsSpent) : pack.supersede.IsSpent := by
  rcases pack.supersede_cases with same | same
  · rw [same]
    exact spent
  · rw [same]
    exact ⟨rfl, spent.2⟩

/-- What a spent pack sends is queued. -/
theorem queued_of_offer? {now : UInt64} {packet : Packet} (spent : pack.IsSpent)
    (offers : pack.offer? now = some packet) :
    ∃ time effect, pack.mailbox.queued = some (time, effect) ∧ packet = pack.packet effect := by
  -- There is no repetition and no first stop, so only the queued effect can be next.
  rcases isSpent_supersede spent with ⟨unrepeated, started⟩
  simp only [offer?, next?, unrepeated, started, mailbox_supersede, Bool.false_eq_true, if_false,
    Option.or_none, Mailbox.due?, Option.map_map, Option.map_eq_some_iff,
    Option.filter_eq_some_iff] at offers
  rcases offers with ⟨⟨time, effect⟩, ⟨queued, -⟩, rfl⟩
  exact ⟨time, effect, queued, rfl⟩

theorem play_attempt {P : Type} (pack : Vibration) (now : UInt64) (author : P) (desk : Desk P) :
    (pack.attempt now).play author desk =
      desk.attempt author (pack.offer? now) pack.supersede (pack.submitted now) := by
  unfold submitted
  simp only [attempt, Desk.attempt, offer?]
  cases pack.supersede.next? now with
  | none => rfl
  | some effect =>
      simp only [submit, Endpoint.play_bind, Endpoint.play_submit, Option.map_some,
        packet_supersede]
      rcases desk.listen.submit author (pack.packet effect) true with ⟨_ | handle, later⟩ <;>
        rfl

theorem task_eq (pack : Vibration) (now : UInt64) :
    pack.task now = Endpoint.follow (pack.inFlight.map Prod.fst) pack
      (attempt { pack with inFlight := none } now) := by
  rcases pack with ⟨address, player, definitionWord, mailbox, inFlight, retry, attempts, first⟩
  cases inFlight <;> rfl

/-! ## Ends -/

theorem owned?_of_other (other : (follower.held pack).map Handle.id ≠ some tx.id) :
    pack.owned? tx = none :=
  congrArg (Option.map Prod.snd) (filter_of_other other)

theorem owned?_of_own (own : (follower.held pack).map Handle.id = some tx.id) :
    ∃ effect, pack.owned? tx = some effect := by
  rcases filter_of_own own with ⟨all, known⟩
  rcases Option.isSome_iff_exists.mp known with ⟨held, isHeld⟩
  exact ⟨held.2, congrArg (Option.map Prod.snd) (all.trans isHeld)⟩

/-- With the end of an effect the handle is forgotten. -/
theorem conclude_of_owned {effect : Effect} (owned : pack.owned? tx = some effect) :
    (conclude pack tx).value.inFlight = none ∧
      (conclude pack tx).value.address = pack.address := by
  unfold conclude
  cases tx.status.failure? with
  | none =>
      change (pack.completed tx.reply? tx).value.inFlight = none ∧
        (pack.completed tx.reply? tx).value.address = pack.address
      unfold completed
      rw [owned]
      simp only
      split <;> exact ⟨rfl, rfl⟩
  | some failure =>
      change (pack.failed failure tx).value.inFlight = none ∧
        (pack.failed failure tx).value.address = pack.address
      unfold failed
      rw [owned]
      simp only
      split <;> exact ⟨rfl, rfl⟩

theorem conclude_of_not_owned (other : pack.owned? tx = none) :
    (conclude pack tx).value = pack := by
  unfold conclude
  cases tx.status.failure? with
  | none =>
      change (pack.completed tx.reply? tx).value = pack
      unfold completed
      rw [other]
      rfl
  | some failure =>
      change (pack.failed failure tx).value = pack
      unfold failed
      rw [other]
      rfl

theorem lawful : follower.Lawful Driven where
  errand {_} pack now author {desk} tidy first := by
    have attempts := play_attempt { pack with inFlight := none } now author
    have follows : Peripheral.task pack now = Endpoint.follow (follower.held pack) pack _ :=
      task_eq pack now
    rw [follows]
    exact Endpoint.play_follow pack attempts first tidy
  recipient {pack _ packet} offers := by
    rcases Option.map_eq_some_iff.mp offers with ⟨effect, -, rfl⟩
    rfl
  rests pack now := by
    constructor
    · exact congrArg (Option.map Prod.fst) (inFlight_supersede _)
    · exact ⟨address_supersede _, fun _ spent => isSpent_supersede spent⟩
  submits {pack now _} handle offers := by
    rcases Option.map_eq_some_iff.mp offers with ⟨effect, next, -⟩
    constructor
    · simp only [follower, submitted, next, Option.map_some]
    · exact ⟨address_supersede _, rfl, rfl⟩
  again {pack now _ later} spent offers := by
    have unfollowed : IsSpent { pack with inFlight := none } := spent
    have queued := queued_of_offer? unfollowed offers
    exact queued
  started _ _ := rfl
  spared other := conclude_of_not_owned (owned?_of_other other)
  concluded own := by
    rcases owned?_of_own own with ⟨effect, owned⟩
    rcases conclude_of_owned owned with ⟨forgotten, stays⟩
    constructor
    · simp only [follower, forgotten, Option.map_none]
    · exact stays
  influenced driven := by
    cases driven <;> exact ⟨rfl, rfl, fun _ spent => spent⟩

/-! ## Cancelled effects -/

variable {Q W : Type}

/-- Cancelled effects are forgotten. -/
structure Forgets (session : Session (Vibration ⊕ Q) W) : Prop where
  /-- While a cancelled effect is owed, the pack has nothing but its mailbox to send from. -/
  spent : ∀ packet, owed? anything session.journal = some packet →
    ∃ pack : Vibration, session.bus.peripherals.filterMap Sum.getLeft? = [pack] ∧ pack.IsSpent
  /-- What is sent after a cancelled effect was waiting in the mailbox. -/
  queued : ∀ sequel ∈ session.journal.sequels anything, ∃ time effect,
    sequel.device.mailbox.queued = some (time, effect) ∧
      sequel.tx.packet = sequel.device.packet effect

variable [Peripheral Q] [Wire W]

theorem forgets_after (stationary : Stationary Q) {session : Session (Vibration ⊕ Q) W}
    (hosts : Hosts pack Driven session) (idle : pack.inFlight = none)
    (distinct : session.journal.Distinct) : Forgets session := by
  have start (occupant : Option Transmission) :
      follower.Keeps pack.address occupant ([] : Journal (Vibration ⊕ Q)) pack :=
    .start rfl (Option.map_eq_none_iff.mpr idle) occupant
  rcases hosts.habit stationary lawful.habit start distinct with ⟨current, alone, keeps⟩
  constructor
  · rintro packet owed
    exact ⟨current, alone.devices, keeps.still packet (unfinished?_of_owed owed)⟩
  · rintro sequel mem
    have sound := keeps.follows.of_sequel mem
    exact sound.1.again rfl sound.2.2

end MapleBus.Device.Vibration
