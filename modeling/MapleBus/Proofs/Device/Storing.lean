import MapleBus.Device.Storage
import MapleBus.Proofs.PlayerBus.Following

/-!
# Storage devices follow their requests

A storage device remembers the handle of the request under way and keeps the request in
its mailbox until that is answered.  Nothing that reaches it from outside takes the
request away, so a cancelled request is submitted again on the next cycle that finds the
bus free.
-/

namespace MapleBus.Device.Storage

open Journal PlayerBus

variable {storage : Storage} {tx : Transmission}

/-! ## A storage device as a follower -/

/-- Requests are posted, and blocks and faults are taken. -/
inductive Served : Storage → Storage → Prop where
  | posted (storage : Storage) (request : Request) : Served storage (storage.post request).2
  | blockTaken (storage : Storage) :
      Served storage { storage with mailbox := storage.mailbox.takeBlock.2 }
  | faultTaken (storage : Storage) :
      Served storage { storage with mailbox := storage.mailbox.takeFault.2 }

/-- The packet of the request in the mailbox. -/
def offer? (storage : Storage) : Option Packet :=
  storage.mailbox.request.map storage.packet

/-- A storage device whose request was accepted. -/
def submitted (storage : Storage) (handle : Handle) : Storage :=
  { storage with inFlight := storage.mailbox.request.map fun request => (handle, request) }

/-- A storage device offers the request in its mailbox, and keeps offering it. -/
def follower : Follower Storage where
  held storage := storage.inFlight.map Prod.fst
  offer storage _ := storage.offer?
  rests storage _ := { storage with inFlight := none }
  submits storage _ := storage.submitted
  still packet storage := storage.offer? = some packet
  again packet _ later := later = packet

/-! ## Programs -/

theorem play_attempt {P : Type} (storage : Storage) (author : P) (desk : Desk P) :
    storage.attempt.play author desk =
      desk.attempt author storage.offer? storage storage.submitted := by
  unfold attempt Desk.attempt offer? submitted
  cases storage.mailbox.request with
  | none => rfl
  | some request =>
      simp only [submit, Endpoint.play_bind, Endpoint.play_submit, Option.map_some]
      rcases desk.listen.submit author (storage.packet request) true with ⟨_ | handle, later⟩ <;>
        rfl

theorem task_eq (storage : Storage) :
    storage.task = Endpoint.follow (storage.inFlight.map Prod.fst) storage
      (attempt { storage with inFlight := none }) := by
  rcases storage with ⟨address, player, definitionWord, mailbox, inFlight, attempts⟩
  cases inFlight <;> rfl

/-! ## Ends -/

theorem owned?_of_other (other : (follower.held storage).map Handle.id ≠ some tx.id) :
    storage.owned? tx = none :=
  congrArg (Option.map Prod.snd) (filter_of_other other)

theorem owned?_of_own (own : (follower.held storage).map Handle.id = some tx.id) :
    ∃ request, storage.owned? tx = some request := by
  rcases filter_of_own own with ⟨all, known⟩
  rcases Option.isSome_iff_exists.mp known with ⟨held, isHeld⟩
  exact ⟨held.2, congrArg (Option.map Prod.snd) (all.trans isHeld)⟩

/-- With the end of a request the handle is forgotten. -/
theorem conclude_of_owned {request : Request} (owned : storage.owned? tx = some request) :
    (conclude storage tx).value.inFlight = none ∧
      (conclude storage tx).value.address = storage.address := by
  unfold conclude
  cases tx.status.failure? with
  | none =>
      change (storage.completed tx.reply? tx).value.inFlight = none ∧
        (storage.completed tx.reply? tx).value.address = storage.address
      unfold completed
      rw [owned]
      exact ⟨rfl, rfl⟩
  | some failure =>
      change (storage.failed failure tx).value.inFlight = none ∧
        (storage.failed failure tx).value.address = storage.address
      unfold failed
      rw [owned]
      simp only
      split <;> exact ⟨rfl, rfl⟩

theorem conclude_of_not_owned (other : storage.owned? tx = none) :
    (conclude storage tx).value = storage := by
  unfold conclude
  cases tx.status.failure? with
  | none =>
      change (storage.completed tx.reply? tx).value = storage
      unfold completed
      rw [other]
      rfl
  | some failure =>
      change (storage.failed failure tx).value = storage
      unfold failed
      rw [other]
      rfl

/-! ## Mailboxes -/

/-- A request in the mailbox is not replaced. -/
theorem offer?_of_served {later : Storage} {packet : Packet} (served : Served storage later)
    (offers : storage.offer? = some packet) : later.offer? = some packet := by
  cases served with
  | posted request =>
      have busy : storage.mailbox.isBusy = true := by
        rcases Option.map_eq_some_iff.mp offers with ⟨current, wanted, -⟩
        rw [Mailbox.isBusy, wanted]
        rfl
      simp only [post, Mailbox.post, busy, if_true]
      exact offers
  | blockTaken | faultTaken => exact offers

theorem lawful : follower.Lawful Served where
  errand {_} storage now author {desk} tidy first := by
    have attempts := play_attempt { storage with inFlight := none } author
    have follows : Peripheral.task storage now =
        Endpoint.follow (follower.held storage) storage _ :=
      task_eq storage
    rw [follows]
    exact Endpoint.play_follow storage attempts first tidy
  recipient {storage _ packet} offers := by
    rcases Option.map_eq_some_iff.mp offers with ⟨request, -, rfl⟩
    rfl
  rests storage now := ⟨rfl, rfl, fun _ offers => offers⟩
  submits {storage _ _} handle offers := by
    rcases Option.map_eq_some_iff.mp offers with ⟨request, wanted, -⟩
    constructor
    · simp only [follower, submitted, wanted, Option.map_some]
    · exact ⟨rfl, offers⟩
  again still offers := Option.some.inj (offers.symm.trans still)
  started _ _ := rfl
  spared other := conclude_of_not_owned (owned?_of_other other)
  concluded own := by
    rcases owned?_of_own own with ⟨request, owned⟩
    rcases conclude_of_owned owned with ⟨forgotten, stays⟩
    constructor
    · simp only [follower, forgotten, Option.map_none]
    · exact stays
  influenced served := by
    constructor
    · cases served <;> rfl
    constructor
    · cases served <;> rfl
    · exact fun packet offers => offer?_of_served served offers

/-! ## Cancelled requests -/

variable {Q W : Type}

/-- Cancelled requests go out again. -/
structure Resumes (session : Session (Storage ⊕ Q) W) : Prop where
  /-- While a cancelled request is owed, the device has it. -/
  kept : ∀ packet, owed? anything session.journal = some packet →
    ∃ storage, session.bus.peripherals.filterMap Sum.getLeft? = [storage] ∧
      storage.offer? = some packet
  same : ∀ sequel ∈ session.journal.sequels anything, sequel.tx.packet = sequel.cancelled
  /-- A device that works on a free bus while a cancelled request is owed submits that
  request at once. -/
  prompt : ∀ later worker earlier packet,
    session.journal = later ++ .began (.inl worker) :: earlier →
      owed? anything earlier = some packet → free earlier = true →
        ∃ newer author tx, later = newer ++ [.accepted (.inl author) tx] ∧ tx.packet = packet

variable [Peripheral Q] [Wire W]

theorem resumes_after (stationary : Stationary Q) {session : Session (Storage ⊕ Q) W}
    (hosts : Hosts storage Served session) (idle : storage.inFlight = none)
    (distinct : session.journal.Distinct) : Resumes session := by
  have start (occupant : Option Transmission) :
      follower.Keeps storage.address occupant ([] : Journal (Storage ⊕ Q)) storage :=
    .start rfl (Option.map_eq_none_iff.mpr idle) occupant
  rcases hosts.habit stationary lawful.habit start distinct with ⟨current, alone, keeps⟩
  constructor
  · rintro packet owed
    exact ⟨current, alone.devices, keeps.still packet (unfinished?_of_owed owed)⟩
  · rintro sequel mem
    have sound := keeps.follows.of_sequel mem
    exact sound.1.again rfl sound.2.2
  · rintro later worker earlier packet split owed free
    have eager : worker.offer? = some packet → follower.Eager worker := by
      rintro offers now nothing
      exact Option.some_ne_none packet (offers.symm.trans nothing)
    exact keeps.prompt split owed free eager

end MapleBus.Device.Storage
