import MapleBus.Proofs.PlayerBus.Telling

/-!
# Followers in a tale

A device that follows one transmission at a time is told of exactly the ends that the tale
shows: while none of its own is in flight, callbacks are about somebody else's, and while
one is, the next callback is about that one.  What a call, a submission and an end keep of
the tale, every run with calls keeps.
-/

namespace MapleBus

open Journal

variable {D Q C W : Type}

/-! ## One at a time -/

/-- None of the transmissions of a device is accepted while another one is in flight, and
the end it is told of then is the end of the one in flight.  A success comes with a
reply. -/
structure Record.IsPaired (record : Record D Q C) (earlier : Tale D Q C) : Prop where
  accepted : ∀ device tx, record = .entry (.accepted (.inl device) tx) → earlier.flying? = none
  failed : ∀ device failure tx own, record = .entry (.failed (.inl device) failure tx) →
    earlier.flying? = some own → tx = { own with status := .failed failure }
  completed : ∀ device reply tx own, record = .entry (.completed (.inl device) reply tx) →
    earlier.flying? = some own → reply.isSome ∧ tx = { own with status := .succeeded reply }

namespace Record.IsPaired

variable {tale : Tale D Q C} {device : D} {tx own : Transmission}

theorem of_called (device : D) (call : C) :
    IsPaired (.called device call) tale := by
  constructor <;> rintro _ _ <;> intros <;> contradiction

theorem of_aside {entry : JournalEntry (D ⊕ Q)} (aside : entry.IsAside) :
    IsPaired (.entry entry) tale := by
  constructor
  · rintro device tx ⟨⟩
    contradiction
  · rintro device failure tx own ⟨⟩
    contradiction
  · rintro device reply tx own ⟨⟩
    contradiction

theorem of_accepted (idle : tale.flying? = none) :
    IsPaired (.entry (.accepted (.inl device) tx)) tale where
  accepted _ _ _ := idle
  failed := by
    rintro _ _ _ _ ⟨⟩
  completed := by
    rintro _ _ _ _ ⟨⟩

/-- While nothing is in flight, any end may be told. -/
theorem of_idle (idle : tale.flying? = none) :
    IsPaired (.entry (.conclusion (.inl device) tx)) tale where
  accepted _ _ _ := idle
  failed := by
    rintro _ _ _ own _ flying
    rw [idle] at flying
    contradiction
  completed := by
    rintro _ _ _ own _ flying
    rw [idle] at flying
    contradiction

theorem of_failed (flying : tale.flying? = some own) (failure : Failure) :
    IsPaired (.entry (.failed (.inl device) failure { own with status := .failed failure }))
      tale where
  accepted := by
    rintro _ _ ⟨⟩
  failed := by
    rintro _ _ _ other ⟨⟩ same
    rw [flying] at same
    cases same
    rfl
  completed := by
    rintro _ _ _ _ ⟨⟩

theorem of_completed (flying : tale.flying? = some own) (reply : Packet) :
    IsPaired
      (.entry (.completed (.inl device) (some reply)
        { own with status := .succeeded (some reply) }))
      tale where
  accepted := by
    rintro _ _ ⟨⟩
  failed := by
    rintro _ _ _ _ ⟨⟩
  completed := by
    rintro _ _ _ other ⟨⟩ same
    rw [flying] at same
    cases same
    exact ⟨rfl, rfl⟩

end Record.IsPaired

/-! ## Keeping to a tale -/

/-- What is to be kept of a tale was kept when a submission of the device was accepted, if
the device was plugged in and nothing of it had been cancelled. -/
def Record.IsKept (keeps : Tale D Q C → D → Prop) (record : Record D Q C) (earlier : Tale D Q C) :
    Prop :=
  ∀ device tx, record = .entry (.accepted (.inl device) tx) → PlayerBus.Stays earlier.journal →
    dropped anything earlier.journal = [] → ∃ later, keeps (record :: earlier) later

/-- What is no submission of the device. -/
theorem Record.IsKept.of_apart {keeps : Tale D Q C → D → Prop} {record : Record D Q C}
    (apart : ∀ device tx, record ≠ .entry (.accepted (.inl device) tx)) (earlier : Tale D Q C) :
    record.IsKept keeps earlier :=
  fun device tx is => absurd is (apart device tx)

/-- Nothing of the device is accepted with an entry, and nothing of it ends. -/
structure JournalEntry.Passes (entry : JournalEntry (D ⊕ Q)) (tale : Tale D Q C) (device : D) :
    Prop where
  apart : ∀ author tx, entry ≠ .accepted (.inl author) tx
  endless : Tale.ending? (.entry entry) tale = none
  flying : Tale.flying? (.entry entry :: tale) = tale.flying?
  shown : ∀ shown, entry.device? = some shown → shown = device

namespace JournalEntry.Passes

variable {tale : Tale D Q C} {device : D}

theorem of_aside {entry : JournalEntry (D ⊕ Q)} (aside : entry.IsAside)
    (shown : ∀ shown, entry.device? = some shown → shown = device) :
    entry.Passes tale device where
  apart := by
    rintro author tx rfl
    exact aside
  endless := Tale.ending?_of_no_end (Record.outcome?_of_aside aside)
  flying := Tale.flying?_of_aside aside tale
  shown := shown

/-- While nothing of the device is in flight, it is told of the ends of others. -/
theorem of_idle (idle : tale.flying? = none) (ended : Transmission) :
    (conclusion (.inl device : D ⊕ Q) ended).Passes tale device where
  apart := by
    unfold conclusion
    cases ended.status.failure? <;> rintro author tx ⟨⟩
  endless := Tale.ending?_of_idle idle
  flying := (Tale.flying?_conclusion device ended tale).trans idle.symm
  shown := by
    unfold conclusion
    cases ended.status.failure? <;> rintro shown ⟨⟩ <;> rfl

end JournalEntry.Passes

namespace Follower

variable [Peripheral D] {follower : Follower D} {input : D → D → Prop} {serve : C → D → D}
  {keeps : Tale D Q C → D → Prop} {address : Address} {occupant later : Option Transmission}
  {tale : Tale D Q C} {device : D} {entry : JournalEntry (D ⊕ Q)} {tx : Transmission}

/-- What calls, submissions and ends keep of a tale. -/
structure Upkeep (follower : Follower D) (input : D → D → Prop) (serve : C → D → D)
    (keeps : Tale D Q C → D → Prop) : Prop where
  lawful : follower.Lawful input
  served : ∀ call device, input device (serve call device)
  called : ∀ {tale device} call, keeps tale device →
    keeps (.called device call :: tale) (serve call device)
  passed : ∀ {tale device entry}, keeps tale device → entry.Passes tale device →
    keeps (.entry entry :: tale) device
  /-- Nothing was accepted. -/
  rested : ∀ {tale device} now, keeps tale device → tale.flying? = none →
    follower.held device = none → keeps tale (follower.rests device now)
  submitted : ∀ {tale device now packet} handle, keeps tale device → tale.clock? = some now →
    tale.flying? = none → follower.held device = none →
    follower.offer device now = some packet →
    keeps
      (.entry (.accepted (.inl device) { id := handle.id, packet, expectsReply := true }) :: tale)
      (follower.submits device now handle)
  failed : ∀ {tale device own tx} failure, keeps tale device → tale.flying? = some own →
    (follower.held device).map Handle.id = some tx.id →
    keeps (.entry (.failed (.inl device) failure tx) :: tale)
      (Peripheral.failed device failure tx).value
  completed : ∀ {tale device own tx} reply, keeps tale device → tale.flying? = some own →
    (follower.held device).map Handle.id = some tx.id →
    keeps (.entry (.completed (.inl device) (some reply) tx) :: tale)
      (Peripheral.completed device (some reply) tx).value

/-- A follower at an address has what is in flight in custody, and keeps what it has to. -/
structure Attends (follower : Follower D) (keeps : Tale D Q C → D → Prop) (address : Address)
    (occupant : Option Transmission) (tale : Tale D Q C) (device : D) : Prop where
  here : Peripheral.address device = address
  custody : Custody anything address occupant tale.journal ((follower.held device).map Handle.id)
  first : ∀ handle, follower.held device = some handle → handle.slot = 0
  flying : tale.flying? = underway? anything tale.journal
  expectant : ∀ own, tale.flying? = some own → own.expectsReply = true
  paired : tale.Always Record.IsPaired
  keeps : keeps tale device

namespace Attends

/-- A follower that was just plugged in and remembers nothing. -/
theorem start (here : Peripheral.address device = address) (idle : follower.held device = none)
    (fresh : keeps [] device) (occupant : Option Transmission) :
    follower.Attends keeps address occupant [] device where
  here := here
  custody := by
    rw [idle]
    exact .start occupant
  first := by simp [idle]
  flying := rfl
  expectant := by simp [Tale.flying?]
  paired := Tale.always_nil
  keeps := fresh

/-- What is remembered when nothing is in flight was cancelled. -/
theorem held_eq_none (attends : follower.Attends keeps address occupant tale device)
    (idle : tale.flying? = none) (undisturbed : dropped anything tale.journal = []) :
    follower.held device = none := by
  have idle : underway? anything tale.journal = none := attends.flying ▸ idle
  exact Option.map_eq_none_iff.mp (attends.custody.held_eq_none idle undisturbed)

/-- The device is called. -/
theorem call (attends : follower.Attends keeps address occupant tale device)
    (upkeep : follower.Upkeep input serve keeps) (call : C) :
    follower.Attends keeps address occupant (.called device call :: tale)
      (serve call device) := by
  rcases upkeep.lawful.influenced (upkeep.served call device) with ⟨held, stays, -⟩
  constructor
  · exact stays.trans attends.here
  · rw [held]
    exact attends.custody
  · rw [held]
    exact attends.first
  · exact attends.flying
  · exact attends.expectant
  · exact attends.paired.cons (.of_called device call)
  · exact upkeep.called call attends.keeps

/-- What is no submission of the device and no callback of an end. -/
theorem aside (attends : follower.Attends keeps address occupant tale device)
    (upkeep : follower.Upkeep input serve keeps) (aside : entry.IsAside)
    (shown : ∀ shown, entry.device? = some shown → shown = device)
    (same : underway? anything (entry :: tale.journal) = underway? anything tale.journal)
    (custody : Custody anything address later (entry :: tale.journal)
      ((follower.held device).map Handle.id)) :
    follower.Attends keeps address later (.entry entry :: tale) device where
  here := attends.here
  custody := custody
  first := attends.first
  flying := (Tale.flying?_of_aside aside tale).trans (attends.flying.trans same.symm)
  expectant := by
    rw [Tale.flying?_of_aside aside]
    exact attends.expectant
  paired := attends.paired.cons (.of_aside aside)
  keeps := upkeep.passed attends.keeps (.of_aside aside shown)

theorem neutral (attends : follower.Attends keeps address occupant tale device)
    (upkeep : follower.Upkeep input serve keeps) (aside : entry.IsAside) (neutral : entry.IsNeutral)
    (shown : ∀ shown, entry.device? = some shown → shown = device) :
    follower.Attends keeps address occupant (.entry entry :: tale) device :=
  attends.aside upkeep aside shown (underway?_of_neutral neutral) (attends.custody.neutral neutral)

/-- An entry that shows the device as it is. -/
theorem shown (attends : follower.Attends keeps address occupant tale device)
    (upkeep : follower.Upkeep input serve keeps) (aside : entry.IsAside) (neutral : entry.IsNeutral)
    (shows : entry.device? = some device) :
    follower.Attends keeps address occupant (.entry entry :: tale) device := by
  apply attends.neutral upkeep aside neutral
  rintro other is
  exact Option.some.inj (is.symm.trans shows)

theorem foreign (attends : follower.Attends keeps address occupant tale device)
    (upkeep : follower.Upkeep input serve keeps) (foreign : entry.IsForeign) :
    follower.Attends keeps address occupant (.entry entry :: tale) device := by
  rcases foreign.isAside with ⟨aside, hidden⟩
  apply attends.neutral upkeep aside foreign.isNeutral
  rintro shown is
  rw [hidden] at is
  contradiction

/-- Somebody else's submission is accepted. -/
theorem accept (attends : follower.Attends keeps address none tale device)
    (upkeep : follower.Upkeep input serve keeps) (other : Q)
    (undisturbed : dropped anything (.accepted (.inr other) tx :: tale.journal) = []) :
    follower.Attends keeps address (some tx) (.entry (.accepted (.inr other) tx) :: tale)
      device := by
  apply attends.aside upkeep
  · trivial
  · rintro shown ⟨⟩
  · exact attends.custody.idle_of_free.symm
  · exact attends.custody.accept_other rfl (Or.inl undisturbed)

/-- Somebody else's transmission is cancelled. -/
theorem cancel (attends : follower.Attends keeps address (some tx) tale device)
    (upkeep : follower.Upkeep input serve keeps)
    (undisturbed : dropped anything (.cancelled tx :: tale.journal) = []) :
    follower.Attends keeps address none (.entry (.cancelled tx) :: tale) device := by
  apply attends.aside upkeep
  · trivial
  · rintro shown ⟨⟩
  · change none = _
    cases underway : underway? anything tale.journal with
    | none => rfl
    | some own =>
        rw [dropped, passed_cons_of_underway rfl underway] at undisturbed
        contradiction
  · exact attends.custody.cancel

/-- The wire takes the occupant. -/
theorem send (attends : follower.Attends keeps address (some tx) tale device)
    (upkeep : follower.Upkeep input serve keeps) (status : Status) :
    follower.Attends keeps address (some { tx with status })
      (.entry (.sent { tx with status }) :: tale) device := by
  apply attends.aside upkeep
  · trivial
  · rintro shown ⟨⟩
  · exact underway?_of_neutral trivial
  · exact attends.custody.send status

/-- The occupant ends while nothing of the device is under way. -/
theorem lose (attends : follower.Attends keeps address (some tx) tale device)
    (upkeep : follower.Upkeep input serve keeps) (idle : underway? anything tale.journal = none)
    (ended : Transmission) :
    follower.Attends keeps address none (.entry (.settled ended) :: tale) device := by
  apply attends.aside upkeep
  · trivial
  · rintro shown ⟨⟩
  · exact idle.symm
  · exact attends.custody.settle_other idle ended

/-- The device was told of an end. -/
theorem of_end {ended : Transmission} {renewed : D} (here : Peripheral.address renewed = address)
    (custody : Custody anything address none (.settled ended :: tale.journal)
      ((follower.held renewed).map Handle.id))
    (first : ∀ handle, follower.held renewed = some handle → handle.slot = 0)
    (paired : Tale.Always Record.IsPaired
      (.entry (.conclusion (.inl device) ended) :: .entry (.settled ended) :: tale))
    (kept : keeps (.entry (.conclusion (.inl device) ended) :: .entry (.settled ended) :: tale)
      renewed) :
    follower.Attends keeps address none
      (.entry (.conclusion (.inl device) ended) :: .entry (.settled ended) :: tale) renewed where
  here := here
  custody := custody.neutral (JournalEntry.isNeutral_conclusion _ _)
  first := first
  flying := by
    have neutral := JournalEntry.isNeutral_conclusion (.inl device : D ⊕ Q) ended
    have idle : underway? anything (.conclusion (.inl device) ended :: .settled ended ::
        tale.journal) = none :=
      underway?_of_neutral neutral
    exact (Tale.flying?_conclusion device ended _).trans idle.symm
  expectant := by simp [Tale.flying?_conclusion]
  paired := paired
  keeps := kept

/-- The end of the one in flight is told. -/
theorem keeps_conclusion (attends : follower.Attends keeps address occupant tale device)
    (upkeep : follower.Upkeep input serve keeps) {own : Transmission}
    (flying : tale.flying? = some own)
    (held : (follower.held device).map Handle.id = some own.id) {status : Status}
    (terminal : status.isTerminal = true) (coherent : ({ own with status }).Coherent)
    {middle : Tale D Q C} (kept : keeps middle device) (same : middle.flying? = tale.flying?) :
    Record.IsPaired (.entry (.conclusion (.inl device) { own with status })) middle ∧
      keeps (.entry (.conclusion (.inl device) { own with status }) :: middle)
        (PlayerBus.conclude device { own with status }).value := by
  have still : middle.flying? = some own := same.trans flying
  cases status with
  | pending | sent => contradiction
  | failed failure => exact ⟨.of_failed still failure, upkeep.failed failure kept still held⟩
  | succeeded reply =>
      have replied : reply.isSome = own.expectsReply := coherent.replied
      rw [attends.expectant own flying] at replied
      rcases Option.isSome_iff_exists.mp replied with ⟨packet, rfl⟩
      exact ⟨.of_completed still packet, upkeep.completed packet kept still held⟩

/-- The occupant ends, and the device is told. -/
theorem conclude (attends : follower.Attends keeps address (some tx) tale device)
    (upkeep : follower.Upkeep input serve keeps) {status : Status}
    (terminal : status.isTerminal = true) (coherent : ({ tx with status }).Coherent) :
    follower.Attends keeps address none
      (.entry (.conclusion (.inl device) { tx with status }) ::
        .entry (.settled { tx with status }) :: tale)
      (PlayerBus.conclude device { tx with status }).value := by
  cases underway : underway? anything tale.journal with
  | none =>
      have other : (follower.held device).map Handle.id ≠
          some ({ tx with status } : Transmission).id :=
        attends.custody.held_ne underway
      have lost := attends.lose upkeep underway { tx with status }
      have idle := lost.flying.trans rfl
      rw [upkeep.lawful.spared other]
      exact .of_end attends.here lost.custody attends.first (lost.paired.cons (.of_idle idle))
        (upkeep.passed lost.keeps (.of_idle idle _))
  | some own =>
      have flying : tale.flying? = some own := attends.flying.trans underway
      rcases attends.custody.underway own underway with ⟨held, -, former, occupied⟩
      cases occupied
      have same : (follower.held device).map Handle.id =
          some ({ own with status } : Transmission).id :=
        held
      have forgets := upkeep.lawful.concluded same
      have aside : (.settled { own with status } : JournalEntry (D ⊕ Q)).IsAside := trivial
      have settled : keeps (.entry (.settled { own with status }) :: tale) device := by
        apply upkeep.passed attends.keeps
        apply JournalEntry.Passes.of_aside aside
        rintro shown ⟨⟩
      rcases attends.keeps_conclusion upkeep flying held terminal coherent settled rfl with
        ⟨paired, kept⟩
      apply of_end
      · exact forgets.2.trans attends.here
      · rw [forgets.1]
        apply attends.custody.settle
        · simp
        · simp [underway]
      · simp [forgets.1]
      · exact (attends.paired.cons (.of_aside aside)).cons paired
      · exact kept

/-! ### Work -/

variable {desk : Desk (D ⊕ Q)} {now : UInt64}

/-- A cycle in which nothing is accepted. -/
theorem rest (attends : follower.Attends keeps address occupant tale device)
    (upkeep : follower.Upkeep input serve keeps) (now : UInt64)
    (idle : tale.flying? = none) (undisturbed : dropped anything tale.journal = []) :
    follower.Attends keeps address occupant tale (follower.rests device now) := by
  have nothing := attends.held_eq_none idle undisturbed
  rcases upkeep.lawful.rests device now with ⟨forgotten, stays, -⟩
  constructor
  · exact stays.trans attends.here
  · rw [forgotten, ← nothing]
    exact attends.custody
  · simp [forgotten]
  · exact attends.flying
  · exact attends.expectant
  · exact attends.paired
  · exact upkeep.rested now attends.keeps idle nothing

/-- A cycle in which the submission of the device is accepted. -/
theorem submit (attends : follower.Attends keeps address occupant tale device)
    (upkeep : follower.Upkeep input serve keeps)
    (clock : tale.clock? = some now) (idle : tale.flying? = none)
    (undisturbed : dropped anything tale.journal = []) {packet : Packet}
    (offered : follower.offer device now = some packet) {handle : Handle}
    (first : handle.slot = 0) :
    let tx : Transmission := { id := handle.id, packet, expectsReply := true }
    follower.Attends keeps address (some tx) (.entry (.accepted (.inl device) tx) :: tale)
      (follower.submits device now handle) := by
  intro tx
  rcases upkeep.lawful.submits handle offered with ⟨remembers, stays, -⟩
  constructor
  · exact stays.trans attends.here
  · rw [remembers]
    exact .accept_own device rfl ((upkeep.lawful.recipient offered).trans attends.here)
  · rw [remembers]
    rintro _ ⟨⟩
    exact first
  · rfl
  · rintro own ⟨⟩
    rfl
  · exact attends.paired.cons (.of_accepted idle)
  · exact upkeep.submitted handle attends.keeps clock idle
      (attends.held_eq_none idle undisturbed) offered

/-- A cycle of the device. -/
theorem work
    (attends : follower.Attends keeps address desk.scheduler.occupant? tale device)
    (upkeep : follower.Upkeep input serve keeps)
    (clock : tale.clock? = some now) (undisturbed : dropped anything tale.journal = [])
    {ended : D}
    {later : Option Transmission × Journal (D ⊕ Q)}
    (errand : Errand (follower.held device) (follower.offer device now) device
      (follower.rests device now) (follower.submits device now) (.inl device)
      (desk.write (.began (.inl device))) ended later) :
    ∃ news, later.2 = news ++ desk.journal ∧
      follower.Attends keeps address later.1 (.tell news tale) ended ∧
      (tale.Always (Record.IsKept keeps) → (Tale.tell news tale).Always (Record.IsKept keeps)) := by
  have began : follower.Attends keeps address desk.scheduler.occupant?
      (.entry (.began (.inl device)) :: tale) device :=
    attends.shown upkeep trivial trivial rfl
  have kept (always : tale.Always (Record.IsKept keeps)) :
      Tale.Always (Record.IsKept keeps) (.entry (.began (.inl device)) :: tale) := by
    apply always.cons
    apply Record.IsKept.of_apart
    rintro author tx ⟨⟩
  cases errand with
  | waited handle isHeld tx busy same =>
      exact ⟨[.began (.inl device)], rfl, began, kept⟩
  | rested lost nothing =>
      have idle := attends.flying.trans (attends.custody.idle_of_lost lost)
      exact ⟨[.began (.inl device)], rfl, began.rest upkeep now idle undisturbed, kept⟩
  | refused lost tx busy packet =>
      have idle := attends.flying.trans (attends.custody.idle_of_lost lost)
      have occupied : desk.scheduler.occupant? = some tx := busy
      have refused : follower.Attends keeps address desk.scheduler.occupant?
          (.entry (.refused (.inl device) packet .busBusy) :: .entry (.began (.inl device)) :: tale)
          device :=
        began.shown upkeep trivial trivial rfl
      rw [occupied] at refused
      refine ⟨[.refused (.inl device) packet .busBusy, .began (.inl device)], rfl,
        refused.rest upkeep now idle undisturbed, fun always => (kept always).cons ?_⟩
      apply Record.IsKept.of_apart
      rintro author tx ⟨⟩
  | submitted free packet offered handle first tx carries =>
      have vacant : desk.scheduler.occupant? = none := free
      have idle := attends.flying.trans (vacant ▸ attends.custody).idle_of_free
      subst carries
      have submits := began.submit upkeep clock idle undisturbed offered first
      exact ⟨[.accepted (.inl device) _, .began (.inl device)], rfl, submits,
        fun always => (kept always).cons fun _ _ _ _ _ => ⟨_, submits.keeps⟩⟩

end Attends

end Follower

/-! ## Calm news -/

/-- No program of the device begins, nothing of it is accepted, and what is settled is
coherent. -/
def JournalEntry.IsCalm : JournalEntry (D ⊕ Q) → Prop
  | .began (.inl _) | .accepted (.inl _) _ => False
  | .settled tx => tx.Coherent
  | _ => True

theorem JournalEntry.IsReport.isCalm {entry : JournalEntry (D ⊕ Q)} (report : entry.IsReport) :
    entry.IsCalm := by
  cases entry with
  | settled tx => exact report
  | began peripheral | accepted peripheral => contradiction
  | _ => trivial

/-- Calm entries are no submissions of the device. -/
theorem JournalEntry.IsCalm.isKept {entry : JournalEntry (D ⊕ Q)} (calm : entry.IsCalm)
    (keeps : Tale D Q C → D → Prop) (earlier : Tale D Q C) :
    Record.IsKept keeps (.entry entry) earlier := by
  apply Record.IsKept.of_apart
  rintro device tx ⟨⟩
  exact calm

/-- What was never cancelled was not cancelled before. -/
theorem Journal.undisturbed_of_append {kind : Packet → Bool} {news journal : Journal (D ⊕ Q)}
    (undisturbed : dropped kind (news ++ journal) = []) : dropped kind journal = [] := by
  induction news with
  | nil => exact undisturbed
  | cons entry rest ih => exact ih (List.append_eq_nil_iff.mp undisturbed).2

namespace Follower

variable [Peripheral D] {follower : Follower D} {input : D → D → Prop} {serve : C → D → D}
  {keeps : Tale D Q C → D → Prop} {address : Address} {occupant later : Option Transmission}
  {tale : Tale D Q C} {journal : Journal (D ⊕ Q)} {device renewed : D}

/-- A follower attends a tale that is continued by calm news. -/
def Continues (follower : Follower D) (keeps : Tale D Q C → D → Prop) (address : Address)
    (tale : Tale D Q C) (occupant : Option Transmission) (journal : Journal (D ⊕ Q))
    (device : D) : Prop :=
  Peripheral.address device = address ∧ ∃ news, journal = news ++ tale.journal ∧
    (dropped anything journal = [] → (∀ entry ∈ news, entry.IsCalm) →
      follower.Attends keeps address occupant (.tell news tale) device)

theorem Continues.append (continues : follower.Continues keeps address tale occupant journal device)
    (stays : Peripheral.address renewed = Peripheral.address device) (newer : Journal (D ⊕ Q))
    (next : ∀ {now : Tale D Q C}, dropped anything (newer ++ now.journal) = [] →
      (∀ entry ∈ newer, entry.IsCalm) → follower.Attends keeps address occupant now device →
        follower.Attends keeps address later (.tell newer now) renewed) :
    follower.Continues keeps address tale later (newer ++ journal) renewed := by
  rcases continues with ⟨here, news, rfl, attends⟩
  constructor
  · exact stays.trans here
  refine ⟨newer ++ news, (List.append_assoc _ _ _).symm, ?_⟩
  rintro undisturbed calm
  rcases List.forall_mem_append.mp calm with ⟨calmNow, calmBefore⟩
  rw [Tale.tell_append]
  apply next
  · rw [Tale.journal_tell]
    exact undisturbed
  · exact calmNow
  · exact attends (undisturbed_of_append undisturbed) calmBefore

theorem Lawful.address_conclude (lawful : follower.Lawful input) (device : D)
    (tx : Transmission) :
    Peripheral.address (PlayerBus.conclude device tx).value = Peripheral.address device := by
  by_cases own : (follower.held device).map Handle.id = some tx.id
  · exact (lawful.concluded own).2
  · rw [lawful.spared own]

/-- Everything that happens around a follower continues its tale. -/
theorem Upkeep.habit (upkeep : follower.Upkeep input serve keeps) (tale : Tale D Q C) :
    PlayerBus.Habit address Eq
      (fun journal => ∀ news, journal = news ++ tale.journal → ∀ entry ∈ news, entry.IsCalm)
      (follower.Continues keeps address tale) where
  before := by
    rintro earlier _ ⟨more, rfl⟩ calm news rfl entry mem
    exact calm (more ++ news) (List.append_assoc _ _ _).symm entry (List.mem_append_right _ mem)
  here continues := continues.1
  foreign continues foreign :=
    continues.append rfl [_] fun _ _ attends => attends.foreign upkeep foreign
  accept other continues _ _ :=
    continues.append rfl [_] fun undisturbed _ attends => attends.accept upkeep other undisturbed
  cancel continues _ :=
    continues.append rfl [_] fun undisturbed _ attends => attends.cancel upkeep undisturbed
  send continues _ := continues.append rfl [_] fun _ _ attends => attends.send upkeep .sent
  start {_ device tx} continues _ _ := by
    rw [upkeep.lawful.started device tx]
    apply continues.append rfl [_]
    rintro now - - attends
    exact attends.shown upkeep trivial trivial rfl
  lose continues _ _ elsewhere :=
    continues.append rfl [_] fun _ _ attends =>
      attends.lose upkeep (attends.custody.idle_of_elsewhere elsewhere) _
  conclude {_ device _ _} continues _ terminal _ := by
    apply continues.append (upkeep.lawful.address_conclude device _) [_, _]
    rintro now - calm attends
    have coherent := (List.forall_mem_cons.mp (List.forall_mem_cons.mp calm).2).1
    exact attends.conclude upkeep terminal coherent
  work {desk device} now continues tidy := by
    -- That the program of the device begins is no calm news.
    rintro ran calm
    rcases continues with ⟨-, news, split, -⟩
    have began : (desk.write (.began (.inl device))).scheduler.Tidy := tidy
    rcases Endpoint.suffix_play (Peripheral.task device now) (.inl device) began with
      ⟨newer, grown⟩
    have more : ran.2.journal = (newer ++ .began (.inl device) :: news) ++ tale.journal := by
      rw [List.append_assoc, List.cons_append, ← split]
      exact grown.symm
    have impossible : (.began (.inl device) : JournalEntry (D ⊕ Q)).IsCalm := by
      apply calm _ more
      simp
    contradiction
  influence := by
    rintro occupant journal device _ continues rfl
    exact continues

end Follower

end MapleBus
