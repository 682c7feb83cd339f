import MapleBus.Proofs.PlayerBus.Custody

/-!
# Following one transmission

A device that follows one transmission at a time remembers its handle.  In a cycle it
waits for it; when that is gone, it submits what it has to send, and remembers the new
handle.  What such a device keeps while a cancelled packet is owed, it keeps in every run,
and what it sends next is what that leaves it.
-/

namespace MapleBus

open Journal

/-! ## Handles -/

section Handles

variable {α : Type} {remembered : Option (Handle × α)} {id : UInt32}

theorem filter_of_other (other : (remembered.map Prod.fst).map Handle.id ≠ some id) :
    (remembered.filter fun held => held.1.id == id) = none := by
  cases remembered with
  | none => rfl
  | some held =>
      have differs : held.1.id ≠ id := fun same => other (congrArg some same)
      simp only [Option.filter_some, beq_iff_eq, differs, if_false]

theorem filter_of_own (own : (remembered.map Prod.fst).map Handle.id = some id) :
    (remembered.filter fun held => held.1.id == id) = remembered ∧ remembered.isSome = true := by
  cases remembered with
  | none => contradiction
  | some held =>
      have same : held.1.id = id := Option.some.inj own
      simp only [Option.filter_some, beq_iff_eq, same, if_true, Option.isSome_some, true_and]

end Handles

/-! ## Cycles -/

section Cycles

variable {α P : Type} {held : Option Handle} {offer : Option Packet} {waits rests : α}
  {submits : Handle → α} {author : P} {desk : Desk P}

namespace Desk

/-- What is remembered does not occupy the bus. -/
def HasLost (desk : Desk P) (held : Option Handle) : Prop :=
  ∀ handle tx, held = some handle → desk.scheduler.occupant? = some tx → tx.id ≠ handle.id

/-- Submit what there is to send. -/
def attempt (desk : Desk P) (author : P) (offer : Option Packet) (rests : α)
    (submits : Handle → α) : α × Desk P :=
  match offer with
  | none => (rests, desk)
  | some packet =>
      match desk.listen.submit author packet true with
      | (.ok handle, later) => (submits handle, later)
      | (.error _, later) => (rests, later)

end Desk

/-- The ways a cycle can go in which a remembered transmission is waited for, and once it
is gone what there is to send is submitted. -/
inductive Errand (held : Option Handle) (offer : Option Packet) (waits rests : α)
    (submits : Handle → α) (author : P) (desk : Desk P) :
    α → Option Transmission × Journal P → Prop where
  | waited (handle : Handle) (isHeld : held = some handle) (tx : Transmission)
      (busy : desk.scheduler.occupant? = some tx) (same : tx.id = handle.id) :
      Errand held offer waits rests submits author desk waits desk.view
  | rested (lost : desk.HasLost held) (nothing : offer = none) :
      Errand held offer waits rests submits author desk rests desk.view
  | refused (lost : desk.HasLost held) (tx : Transmission)
      (busy : desk.scheduler.occupant? = some tx) (packet : Packet) :
      Errand held offer waits rests submits author desk rests
        (some tx, .refused author packet .busBusy :: desk.journal)
  | submitted (free : desk.scheduler.occupant? = none) (packet : Packet)
      (offered : offer = some packet) (handle : Handle) (first : handle.slot = 0)
      (tx : Transmission) (carries : tx = { id := handle.id, packet, expectsReply := true }) :
      Errand held offer waits rests submits author desk (submits handle)
        (some tx, .accepted author tx :: desk.journal)

theorem Desk.errand_attempt {middle : Desk P} (lost : desk.HasLost held)
    (tidy : middle.scheduler.Tidy) (seen : middle.view = desk.view) :
    Errand held offer waits rests submits author desk
      (middle.attempt author offer rests submits).1
      (middle.attempt author offer rests submits).2.view := by
  have occupant : middle.scheduler.occupant? = desk.scheduler.occupant? := congrArg Prod.fst seen
  have journal : middle.listen.journal = desk.journal := congrArg Prod.snd seen
  cases offer with
  | none =>
      change Errand held none waits rests submits author desk rests middle.view
      rw [seen]
      exact .rested lost rfl
  | some packet =>
      have heard : middle.listen.scheduler.Tidy := tidy.hear _
      have submitted := Desk.submit_cases heard author packet true
      simp only [attempt]
      generalize middle.listen.submit author packet true = answered at submitted ⊢
      rcases answered with ⟨answer, afterwards⟩
      rcases submitted with ⟨-, ⟨tx, busy, rfl, written⟩ | ⟨tx, carries, free, rfl, written⟩⟩
      · rw [written, journal]
        exact .refused lost tx (occupant ▸ busy) packet
      · rw [written, journal]
        apply Errand.submitted (occupant ▸ free) packet rfl ⟨0, tx.id⟩ rfl
        rw [carries]

/-- Wait for what is remembered while it occupies the bus, else attempt something. -/
def Endpoint.follow (held : Option Handle) (waits : α) (attempt : Endpoint α) : Endpoint α :=
  match held with
  | none => attempt
  | some handle => do
      if ← isOutstanding handle then
        return waits
      else
        attempt

theorem Endpoint.play_follow (waits : α) {attempt : Endpoint α}
    (attempts : ∀ desk, attempt.play author desk = desk.attempt author offer rests submits)
    (first : ∀ handle, held = some handle → handle.slot = 0) (tidy : desk.scheduler.Tidy) :
    Errand held offer waits rests submits author desk
      ((follow held waits attempt).play author desk).1
      ((follow held waits attempt).play author desk).2.view := by
  cases held with
  | none =>
      have lost : desk.HasLost none := by
        rintro handle tx ⟨⟩
      rw [follow, attempts]
      exact desk.errand_attempt lost tidy rfl
  | some handle =>
      have heard : desk.listen.scheduler.Tidy := tidy.hear _
      have answer : (isOutstanding handle).play author desk =
          (desk.scheduler.occupant?.any fun tx => tx.id == handle.id, desk.listen) := by
        have outstanding := heard.any_isOutstanding (first handle rfl)
        exact Prod.ext outstanding rfl
      simp only [follow, play_bind, answer]
      cases occupied : desk.scheduler.occupant? with
      | none =>
          have lost : desk.HasLost (some handle) := by
            rintro _ tx - busy
            rw [occupied] at busy
            contradiction
          simp only [Option.any_none, Bool.false_eq_true, if_false, attempts]
          exact Desk.errand_attempt lost heard rfl
      | some tx =>
          by_cases same : tx.id = handle.id
          · simp only [Option.any_some, beq_iff_eq, same, if_true]
            exact .waited handle rfl tx occupied same
          · have lost : desk.HasLost (some handle) := by
              rintro _ other ⟨⟩ busy
              rw [occupied] at busy
              cases busy
              exact same
            simp only [Option.any_some, beq_iff_eq, same, if_false, attempts]
            exact Desk.errand_attempt lost heard rfl

end Cycles

/-- Nothing is under way when what is remembered is gone. -/
theorem Custody.idle_of_lost {D Q : Type} {kind : Packet → Bool} {address : Address}
    {desk : Desk (D ⊕ Q)} {journal : Journal (D ⊕ Q)} {held : Option Handle}
    (custody : Custody kind address desk.scheduler.occupant? journal (held.map Handle.id))
    (lost : desk.HasLost held) : underway? kind journal = none := by
  cases underway : underway? kind journal with
  | none => rfl
  | some tx =>
      rcases custody.underway tx underway with ⟨remembered, -, status, occupied⟩
      rcases Option.map_eq_some_iff.mp remembered with ⟨handle, isHeld, same⟩
      have other := lost handle _ isHeld occupied
      exact absurd same.symm other

/-! ## What follows a cancellation -/

section Sequels

variable {D Q : Type} {kind : Packet → Bool} {entry : JournalEntry (D ⊕ Q)}
  {journal : Journal (D ⊕ Q)}

/-- A transmission of a device that is accepted while a cancelled packet is owed. -/
structure Sequel (D Q : Type) where
  device : D
  cancelled : Packet
  tx : Transmission
  earlier : Journal (D ⊕ Q)

/-- The sequel that an entry brings after a journal. -/
def JournalEntry.sequel? (kind : Packet → Bool) (entry : JournalEntry (D ⊕ Q))
    (earlier : Journal (D ⊕ Q)) : Option (Sequel D Q) :=
  match entry, owed? kind earlier with
  | .accepted (.inl device) tx, some packet =>
      if kind tx.packet then some { device, cancelled := packet, tx, earlier } else none
  | _, _ => none

/-- The transmissions of a kind that followed cancelled ones, the last one first. -/
def Journal.sequels (kind : Packet → Bool) : Journal (D ⊕ Q) → List (Sequel D Q)
  | [] => []
  | entry :: earlier => (entry.sequel? kind earlier).toList ++ sequels kind earlier

theorem of_sequel {sequel : Sequel D Q} (brings : entry.sequel? kind journal = some sequel) :
    entry = .accepted (.inl sequel.device) sequel.tx ∧ sequel.earlier = journal ∧
      kind sequel.tx.packet = true ∧ owed? kind journal = some sequel.cancelled := by
  unfold JournalEntry.sequel? at brings
  split at brings
  · split at brings
    · cases brings
      exact ⟨rfl, rfl, ‹_›, ‹_›⟩
    · contradiction
  · contradiction

/-- What holds of every entry and of what was written before it, holds of every sequel. -/
theorem Journal.Always.of_sequel {rule : JournalEntry (D ⊕ Q) → Journal (D ⊕ Q) → Prop}
    (always : journal.Always rule) {sequel : Sequel D Q} (mem : sequel ∈ journal.sequels kind) :
    rule (.accepted (.inl sequel.device) sequel.tx) sequel.earlier ∧
      kind sequel.tx.packet = true ∧ owed? kind sequel.earlier = some sequel.cancelled := by
  induction journal with
  | nil => contradiction
  | cons entry earlier ih =>
      rcases List.mem_append.mp mem with here | before
      · rcases MapleBus.of_sequel (Option.mem_toList.mp here) with ⟨is, rfl, ofKind, owed⟩
        rw [← is]
        exact ⟨always.1, ofKind, owed⟩
      · exact ih always.2 before

end Sequels

/-! ## Followers -/

/-- Every packet. -/
def anything (_ : Packet) : Bool :=
  true

/-- A device starts to work, or a submission of it is accepted. -/
def JournalEntry.isDeed {D Q : Type} : JournalEntry (D ⊕ Q) → Bool
  | .began (.inl _) | .accepted (.inl _) _ => true
  | _ => false

/-- A device that follows one transmission at a time. -/
structure Follower (D : Type) where
  /-- What it remembers. -/
  held : D → Option Handle
  /-- What it has to send at a time. -/
  offer : D → UInt64 → Option Packet
  /-- The device when what it remembers is gone and nothing is accepted. -/
  rests : D → UInt64 → D
  /-- The device when what it has to send is accepted. -/
  submits : D → UInt64 → Handle → D
  /-- What it keeps while a packet is owed or under way. -/
  still : Packet → D → Prop
  /-- What it may send while a packet is owed. -/
  again : Packet → D → Packet → Prop

namespace Follower

variable {D Q : Type} {follower : Follower D} {entry : JournalEntry (D ⊕ Q)}
  {journal : Journal (D ⊕ Q)}

/-- A device has something to send at any time. -/
def Eager (follower : Follower D) (device : D) : Prop :=
  ∀ now, follower.offer device now ≠ none

/-- A device starts to work on a free bus, eager to send. -/
def Summons (follower : Follower D) : Journal (D ⊕ Q) → Prop
  | .began (.inl device) :: earlier => Journal.free earlier = true ∧ follower.Eager device
  | _ => False

/-- What follows a cancellation.  The device keeps what it has to, submits only what it
may, and submits at once when it is eager and the bus is free. -/
structure Follows (follower : Follower D) (entry : JournalEntry (D ⊕ Q))
    (earlier : Journal (D ⊕ Q)) : Prop where
  still : ∀ {device packet}, entry = .began (.inl device) →
    owed? anything earlier = some packet → follower.still packet device
  again : ∀ {device tx packet}, entry = .accepted (.inl device) tx →
    owed? anything earlier = some packet → follower.again packet device tx.packet
  heeds : follower.Summons earlier → ∃ device tx, entry = .accepted (.inl device) tx

theorem not_summons (aside : entry.isDeed = false) : ¬ follower.Summons (entry :: journal) := by
  rintro summons
  cases entry with
  | began peripheral => cases peripheral <;> contradiction
  | _ => exact summons

theorem Follows.of_aside (aside : entry.isDeed = false) (heeded : ¬ follower.Summons journal) :
    follower.Follows entry journal where
  still := by
    rintro device packet rfl
    contradiction
  again := by
    rintro device tx packet rfl
    contradiction
  heeds summons := absurd summons heeded

variable [Peripheral D]

/-- A device works as a follower. -/
structure Lawful (follower : Follower D) (input : D → D → Prop) : Prop where
  errand : ∀ {P : Type} (device : D) (now : UInt64) (author : P) {desk : Desk P},
    desk.scheduler.Tidy → (∀ handle, follower.held device = some handle → handle.slot = 0) →
    Errand (follower.held device) (follower.offer device now) device (follower.rests device now)
      (follower.submits device now) author desk
      ((Peripheral.task device now).play author desk).1
      ((Peripheral.task device now).play author desk).2.view
  recipient : ∀ {device : D} {now packet}, follower.offer device now = some packet →
    packet.recipient = Peripheral.address device
  rests : ∀ (device : D) now, follower.held (follower.rests device now) = none ∧
    Peripheral.address (follower.rests device now) = Peripheral.address device ∧
    ∀ packet, follower.still packet device → follower.still packet (follower.rests device now)
  submits : ∀ {device : D} {now packet} handle, follower.offer device now = some packet →
    follower.held (follower.submits device now handle) = some handle ∧
    Peripheral.address (follower.submits device now handle) = Peripheral.address device ∧
    follower.still packet (follower.submits device now handle)
  again : ∀ {device : D} {now packet later}, follower.still packet device →
    follower.offer device now = some later → follower.again packet device later
  started : ∀ (device : D) tx, (Peripheral.started device tx).value = device
  /-- The end of another transmission changes nothing. -/
  spared : ∀ {device : D} {tx}, (follower.held device).map Handle.id ≠ some tx.id →
    (PlayerBus.conclude device tx).value = device
  /-- With its end what is remembered is forgotten. -/
  concluded : ∀ {device : D} {tx}, (follower.held device).map Handle.id = some tx.id →
    follower.held (PlayerBus.conclude device tx).value = none ∧
    Peripheral.address (PlayerBus.conclude device tx).value = Peripheral.address device
  influenced : ∀ {device later : D}, input device later →
    follower.held later = follower.held device ∧
    Peripheral.address later = Peripheral.address device ∧
    ∀ packet, follower.still packet device → follower.still packet later

/-- A follower at an address does what it should. -/
structure Keeps (follower : Follower D) (address : Address) (occupant : Option Transmission)
    (journal : Journal (D ⊕ Q)) (device : D) : Prop where
  here : Peripheral.address device = address
  custody : Custody anything address occupant journal ((follower.held device).map Handle.id)
  first : ∀ handle, follower.held device = some handle → handle.slot = 0
  still : ∀ packet, unfinished? anything journal = some packet → follower.still packet device
  follows : journal.Always follower.Follows
  heeded : ¬ follower.Summons journal

variable {input : D → D → Prop} {address : Address} {occupant later : Option Transmission}
  {device : D} {tx : Transmission}

namespace Keeps

/-- A follower that was just plugged in and remembers nothing. -/
theorem start (here : Peripheral.address device = address) (idle : follower.held device = none)
    (occupant : Option Transmission) :
    follower.Keeps address occupant ([] : Journal (D ⊕ Q)) device where
  here := here
  custody := by
    rw [idle]
    exact .start occupant
  first := by simp [idle]
  still := by
    rintro packet ⟨⟩
  follows := trivial
  heeded := id

/-- What is no deed of the device and finishes nothing. -/
theorem aside (keeps : follower.Keeps address occupant journal device)
    (aside : entry.isDeed = false)
    (same : unfinished? anything (entry :: journal) = unfinished? anything journal)
    (custody : Custody anything address later (entry :: journal)
      ((follower.held device).map Handle.id)) :
    follower.Keeps address later (entry :: journal) device where
  here := keeps.here
  custody := custody
  first := keeps.first
  still := by
    rw [same]
    exact keeps.still
  follows := ⟨.of_aside aside keeps.heeded, keeps.follows⟩
  heeded := not_summons aside

theorem neutral (keeps : follower.Keeps address occupant journal device)
    (aside : entry.isDeed = false) (neutral : entry.IsNeutral) :
    follower.Keeps address occupant (entry :: journal) device :=
  keeps.aside aside (unfinished?_of_neutral neutral) (keeps.custody.neutral neutral)

theorem foreign (keeps : follower.Keeps address occupant journal device)
    (foreign : entry.IsForeign) : follower.Keeps address occupant (entry :: journal) device := by
  apply keeps.neutral
  · cases entry with
    | began peripheral | accepted peripheral => cases peripheral <;> first | rfl | contradiction
    | _ => rfl
  · exact foreign.isNeutral

/-- Somebody else's submission is accepted. -/
theorem accept (keeps : follower.Keeps address none journal device) (other : Q)
    (distinct : Distinct (.accepted (.inr other) tx :: journal)) :
    follower.Keeps address (some tx) (.accepted (.inr other) tx :: journal) device := by
  apply keeps.aside rfl
  · rw [unfinished?_of_idle keeps.custody.idle_of_free]
    exact unfinished?_of_idle rfl
  · exact keeps.custody.accept_other rfl (Or.inr distinct)

/-- The occupant ends while nothing of the device is under way. -/
theorem lose (keeps : follower.Keeps address (some tx) journal device)
    (idle : underway? anything journal = none) (ended : Transmission) :
    follower.Keeps address none (.settled ended :: journal) device := by
  apply keeps.aside rfl
  · rw [unfinished?_of_idle idle]
    exact unfinished?_of_idle rfl
  · exact keeps.custody.settle_other idle ended

/-- The occupant ends, and the device is told. -/
theorem conclude (keeps : follower.Keeps address (some tx) journal device)
    (lawful : follower.Lawful input) (status : Status) :
    follower.Keeps address none
      (.conclusion (.inl device) { tx with status } :: .settled { tx with status } :: journal)
      (PlayerBus.conclude device { tx with status }).value := by
  have aside : (JournalEntry.conclusion (.inl device : D ⊕ Q) { tx with status }).isDeed =
      false := by
    unfold JournalEntry.conclusion
    cases ({ tx with status } : Transmission).status.failure? <;> rfl
  have neutral := JournalEntry.isNeutral_conclusion (.inl device : D ⊕ Q) { tx with status }
  cases underway : underway? anything journal with
  | none =>
      -- A handle that has become stale is not mistaken for the occupant, though the
      -- occupant may be addressed to the device.
      have other : (follower.held device).map Handle.id ≠
          some ({ tx with status } : Transmission).id :=
        keeps.custody.held_ne underway
      rw [lawful.spared other]
      exact (keeps.lose underway _).neutral aside neutral
  | some own =>
      have remembered : (follower.held device).map Handle.id =
          some ({ tx with status } : Transmission).id :=
        (keeps.custody.of_underway underway).1
      rcases lawful.concluded remembered with ⟨forgotten, stays⟩
      have finished : unfinished? anything (.conclusion (.inl device) { tx with status } ::
          .settled { tx with status } :: journal) = none := by
        rw [unfinished?_of_neutral neutral, unfinished?_of_idle rfl]
        change owed? anything journal = none
        exact owed?_of_underway underway
      have settled : ¬ follower.Summons (.settled { tx with status } :: journal) :=
        not_summons rfl
      constructor
      · exact stays.trans keeps.here
      · rw [forgotten]
        exact keeps.custody.conclude_own underway (.inl device) { tx with status }
      · rw [forgotten]
        simp
      · simp [finished]
      · exact ⟨.of_aside aside settled, .of_aside rfl keeps.heeded, keeps.follows⟩
      · exact not_summons aside

/-! ### Work -/

variable {desk : Desk (D ⊕ Q)}

theorem follows_began (keeps : follower.Keeps address occupant journal device) :
    follower.Follows (.began (.inl device)) journal where
  still := by
    rintro _ packet ⟨⟩ owed
    exact keeps.still packet (unfinished?_of_owed owed)
  again := by
    rintro _ _ _ ⟨⟩
  heeds summons := absurd summons keeps.heeded

/-- A busy bus is no summons. -/
theorem not_summons_of_busy (keeps : follower.Keeps address (some tx) journal device) :
    ¬ follower.Summons (.began (.inl device) :: journal) := by
  rintro ⟨free, -⟩
  have vacant := keeps.custody.free free
  contradiction

/-- The journal with the beginning of the device's program is followed. -/
theorem began (keeps : follower.Keeps address occupant journal device) :
    Always follower.Follows (.began (.inl device) :: journal) :=
  ⟨keeps.follows_began, keeps.follows⟩

/-- The device begins while the bus is busy. -/
theorem wait (keeps : follower.Keeps address (some tx) journal device) :
    follower.Keeps address (some tx) (.began (.inl device) :: journal) device where
  here := keeps.here
  custody := keeps.custody.neutral trivial
  first := keeps.first
  still := keeps.still
  follows := keeps.began
  heeded := keeps.not_summons_of_busy

/-- The device begins, finds what it remembers gone, and gets nothing accepted. -/
theorem rest (keeps : follower.Keeps address occupant journal device)
    (lawful : follower.Lawful input) (now : UInt64) (idle : underway? anything journal = none)
    (uncalled : ¬ follower.Summons (.began (.inl device) :: journal)) :
    follower.Keeps address occupant (.began (.inl device) :: journal)
      (follower.rests device now) := by
  rcases lawful.rests device now with ⟨forgotten, stays, still⟩
  constructor
  · exact stays.trans keeps.here
  · rw [forgotten]
    exact (keeps.custody.forget idle).neutral trivial
  · rw [forgotten]
    simp
  · exact fun packet unfinished => still packet (keeps.still packet unfinished)
  · exact keeps.began
  · exact uncalled

/-- The device begins on a free bus, and what it offers is accepted. -/
theorem submit (keeps : follower.Keeps address none journal device)
    (lawful : follower.Lawful input) {now : UInt64} {packet : Packet}
    (offered : follower.offer device now = some packet) {handle : Handle}
    (first : handle.slot = 0) (carries : tx = { id := handle.id, packet, expectsReply := true }) :
    follower.Keeps address (some tx)
      (.accepted (.inl device) tx :: .began (.inl device) :: journal)
      (follower.submits device now handle) := by
  rcases lawful.submits handle offered with ⟨remembers, stays, still⟩
  constructor
  · exact stays.trans keeps.here
  · rw [remembers, carries]
    exact .accept_own device rfl ((lawful.recipient offered).trans keeps.here)
  · rw [remembers]
    rintro _ ⟨⟩
    exact first
  · rintro other unfinished
    rw [carries] at unfinished
    cases unfinished
    exact still
  · refine ⟨⟨?_, ?_, fun _ => ⟨device, tx, rfl⟩⟩, keeps.began⟩
    · rintro _ _ ⟨⟩
    · -- What was still kept for the cancelled packet decides what is offered in its place.
      rintro _ _ cancelled ⟨⟩ owed
      rw [carries]
      exact lawful.again (keeps.still cancelled (unfinished?_of_owed owed)) offered
  · exact id

/-- A cycle of the device. -/
theorem work (keeps : follower.Keeps address desk.scheduler.occupant? desk.journal device)
    (lawful : follower.Lawful input) {now : UInt64} {ended : D}
    {later : Option Transmission × Journal (D ⊕ Q)}
    (errand : Errand (follower.held device) (follower.offer device now) device
      (follower.rests device now) (follower.submits device now) (.inl device)
      (desk.write (.began (.inl device))) ended later) :
    follower.Keeps address later.1 later.2 ended := by
  cases errand with
  | waited handle isHeld tx busy same =>
      have occupied : desk.scheduler.occupant? = some tx := busy
      change follower.Keeps address desk.scheduler.occupant? _ _
      rw [occupied] at keeps ⊢
      exact keeps.wait
  | rested lost nothing =>
      apply keeps.rest lawful now (keeps.custody.idle_of_lost lost)
      rintro ⟨-, eager⟩
      exact eager now nothing
  | refused lost tx busy packet =>
      have occupied : desk.scheduler.occupant? = some tx := busy
      have idle := keeps.custody.idle_of_lost lost
      rw [occupied] at keeps
      exact (keeps.rest lawful now idle keeps.not_summons_of_busy).neutral rfl trivial
  | submitted free packet offered handle first tx carries =>
      have vacant : desk.scheduler.occupant? = none := free
      rw [vacant] at keeps
      exact keeps.submit lawful offered first carries

end Keeps

/-! ### Runs -/

/-- Everything that happens around a follower leaves it as it should be. -/
theorem Lawful.habit (lawful : follower.Lawful input) :
    PlayerBus.Habit address input Distinct
      (fun occupant (journal : Journal (D ⊕ Q)) device =>
        follower.Keeps address occupant journal device) where
  before suffix distinct := distinct.of_suffix suffix
  here keeps := keeps.here
  foreign keeps foreign := keeps.foreign foreign
  accept other keeps _ distinct := keeps.accept other distinct
  cancel {_ _ tx} keeps _ := keeps.aside rfl (unfinished?_cancelled tx) keeps.custody.cancel
  send keeps _ := keeps.aside rfl (unfinished?_of_neutral trivial) (keeps.custody.send .sent)
  start {_ device tx} keeps _ _ := by
    rw [lawful.started device tx]
    exact keeps.neutral rfl trivial
  lose keeps _ _ elsewhere := keeps.lose (keeps.custody.idle_of_elsewhere elsewhere) _
  conclude {_ _ _ status} keeps _ _ _ := keeps.conclude lawful status
  work {desk device} now keeps tidy := by
    rintro ran distinct
    have began : (desk.write (.began (.inl device))).scheduler.Tidy := tidy
    exact keeps.work lawful (lawful.errand device now (.inl device) began keeps.first)
  influence {_ _ device later} keeps given := by
    rcases lawful.influenced given with ⟨held, stays, still⟩
    constructor
    · exact stays.trans keeps.here
    · rw [held]
      exact keeps.custody
    · rw [held]
      exact keeps.first
    · exact fun packet unfinished => still packet (keeps.still packet unfinished)
    · exact keeps.follows
    · exact keeps.heeded

/-- An eager device submits at once when it starts to work on a free bus. -/
theorem Keeps.prompt (keeps : follower.Keeps address occupant journal device)
    {news earlier : Journal (D ⊕ Q)} {worker : D} {packet : Packet}
    (split : journal = news ++ .began (.inl worker) :: earlier)
    (owed : owed? anything earlier = some packet) (free : earlier.free = true)
    (eager : follower.still packet worker → follower.Eager worker) :
    ∃ newer author tx, news = newer ++ [.accepted (.inl author) tx] ∧
      follower.again packet author tx.packet := by
  have follows := keeps.follows
  rw [split] at follows
  have summons : follower.Summons (.began (.inl worker) :: earlier) :=
    ⟨free, eager (follows.of_split.still rfl owed)⟩
  rcases List.eq_nil_or_concat news with rfl | ⟨newer, entry, rfl⟩
  · have heeded := keeps.heeded
    rw [split] at heeded
    exact absurd summons heeded
  · rw [List.concat_eq_append, List.append_assoc, List.singleton_append] at follows
    rcases follows.of_split.heeds summons with ⟨author, tx, rfl⟩
    have again := follows.of_split.again rfl owed
    exact ⟨newer, author, tx, List.concat_eq_append, again⟩

end Follower

end MapleBus
