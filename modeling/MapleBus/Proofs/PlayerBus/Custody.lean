import MapleBus.Proofs.PlayerBus.Hosting

/-!
# Custody of transmissions

From the journal of a bus that hosts a device one can tell which transmission of the
device is under way, what went out, succeeded or was cancelled, and which cancelled
work is still owed.  A device that remembers the identifier of its last transmission
never mistakes another one for it, as long as no transmission of it is cancelled or
no identifier is given twice.
-/

namespace MapleBus

/-! ## Identifiers -/

section Identifiers

variable {P : Type}

def JournalEntry.acceptedId? : JournalEntry P → Option UInt32
  | .accepted _ tx => some tx.id
  | _ => none

namespace Journal

/-- The identifiers of the transmissions that were accepted. -/
def ids (journal : Journal P) : List UInt32 :=
  journal.filterMap JournalEntry.acceptedId?

/-- No identifier was given twice. -/
def Distinct (journal : Journal P) : Prop :=
  journal.ids.Nodup

instance (journal : Journal P) : Decidable journal.Distinct :=
  inferInstanceAs (Decidable journal.ids.Nodup)

/-- Something holds of every entry and of what was written before it. -/
def Always (rule : JournalEntry P → Journal P → Prop) : Journal P → Prop
  | [] => True
  | entry :: earlier => rule entry earlier ∧ Always rule earlier

theorem Always.of_split {rule : JournalEntry P → Journal P → Prop} {entry : JournalEntry P}
    {earlier later : Journal P} (always : Always rule (later ++ entry :: earlier)) :
    rule entry earlier := by
  induction later with
  | nil => exact always.1
  | cons _ _ ih => exact ih always.2

/-- The bus is known to be free: what was accepted last has ended. -/
def free : Journal P → Bool
  | [] => false
  | .accepted _ _ :: _ => false
  | .settled _ :: _ | .cancelled _ :: _ => true
  | _ :: earlier => free earlier

end Journal

/-- An entry that changes nothing about who occupies the bus. -/
def JournalEntry.IsNeutral : JournalEntry P → Prop
  | .accepted _ _ | .settled _ | .cancelled _ => False
  | _ => True

theorem JournalEntry.isNeutral_conclusion (peripheral : P) (tx : Transmission) :
    (conclusion peripheral tx).IsNeutral := by
  unfold conclusion
  cases tx.status.failure? <;> trivial

end Identifiers

variable {D Q : Type}

theorem JournalEntry.IsForeign.isNeutral {entry : JournalEntry (D ⊕ Q)}
    (foreign : entry.IsForeign) : entry.IsNeutral := by
  cases entry <;> trivial

namespace Journal

/-! ## The transmissions of a device -/

section Sorts

variable (kind : Packet → Bool)

/-- The transmission of a kind that was accepted from the device last, until it ends. -/
def underway? : Journal (D ⊕ Q) → Option Transmission
  | [] => none
  | .accepted (.inl _) tx :: _ => if kind tx.packet then some tx else none
  | .accepted (.inr _) _ :: _ | .settled _ :: _ | .cancelled _ :: _ => none
  | _ :: earlier => underway? earlier

/-- The packet of a kind that was cancelled, until another one is accepted. -/
def owed? : Journal (D ⊕ Q) → Option Packet
  | [] => none
  | .accepted (.inl _) tx :: earlier => if kind tx.packet then none else owed? earlier
  | .cancelled _ :: earlier =>
      ((underway? kind earlier).map Transmission.packet).or (owed? earlier)
  | _ :: earlier => owed? earlier

/-- The packet of a kind that is under way, or else owed. -/
def unfinished? (journal : Journal (D ⊕ Q)) : Option Packet :=
  ((underway? kind journal).map Transmission.packet).or (owed? kind journal)

/-- The packets to which something happened while they were under way. -/
def passed (event : JournalEntry (D ⊕ Q) → Option Packet) : Journal (D ⊕ Q) → List Packet
  | [] => []
  | entry :: earlier =>
      ((event entry).filter fun _ => (underway? kind earlier).isSome).toList ++
        passed event earlier

end Sorts

end Journal

namespace JournalEntry

/-- The packet that goes out. -/
def sentPacket? : JournalEntry (D ⊕ Q) → Option Packet
  | .sent tx => some tx.packet
  | _ => none

/-- The packet that succeeds. -/
def succeededPacket? : JournalEntry (D ⊕ Q) → Option Packet
  | .settled tx => if tx.status.failure?.isNone then some tx.packet else none
  | _ => none

/-- The packet that is cancelled. -/
def cancelledPacket? : JournalEntry (D ⊕ Q) → Option Packet
  | .cancelled tx => some tx.packet
  | _ => none

end JournalEntry

namespace Journal

section Sorts

variable {kind : Packet → Bool} {journal : Journal (D ⊕ Q)} {entry : JournalEntry (D ⊕ Q)}
  {event : JournalEntry (D ⊕ Q) → Option Packet} {tx : Transmission}

/-- The packets of a kind that went out. -/
abbrev transmitted (kind : Packet → Bool) : Journal (D ⊕ Q) → List Packet :=
  passed kind JournalEntry.sentPacket?

/-- The packets of a kind that succeeded. -/
abbrev delivered (kind : Packet → Bool) : Journal (D ⊕ Q) → List Packet :=
  passed kind JournalEntry.succeededPacket?

/-- The packets of a kind that were cancelled. -/
abbrev dropped (kind : Packet → Bool) : Journal (D ⊕ Q) → List Packet :=
  passed kind JournalEntry.cancelledPacket?

/-- Nothing of a kind was cancelled, or no identifier was given twice. -/
def Clear (kind : Packet → Bool) (journal : Journal (D ⊕ Q)) : Prop :=
  dropped kind journal = [] ∨ journal.Distinct

theorem passed_cons_of_none (nothing : event entry = none) :
    passed kind event (entry :: journal) = passed kind event journal := by
  simp [passed, nothing]

theorem passed_cons_of_idle (idle : underway? kind journal = none) :
    passed kind event (entry :: journal) = passed kind event journal := by
  simp [passed, idle]

theorem passed_cons_of_underway {packet : Packet} (happens : event entry = some packet)
    (underway : underway? kind journal = some tx) :
    passed kind event (entry :: journal) = packet :: passed kind event journal := by
  simp only [passed, happens, underway]
  rfl

theorem underway?_of_neutral (neutral : entry.IsNeutral) :
    underway? kind (entry :: journal) = underway? kind journal := by
  cases entry <;> first | rfl | exact absurd neutral id

theorem owed?_of_neutral (neutral : entry.IsNeutral) :
    owed? kind (entry :: journal) = owed? kind journal := by
  cases entry <;> first | rfl | exact absurd neutral id

theorem unfinished?_of_neutral (neutral : entry.IsNeutral) :
    unfinished? kind (entry :: journal) = unfinished? kind journal := by
  rw [unfinished?, underway?_of_neutral neutral, owed?_of_neutral neutral, unfinished?]

/-- While something is under way, nothing is owed. -/
theorem owed?_of_underway (underway : underway? kind journal = some tx) :
    owed? kind journal = none := by
  induction journal with
  | nil => rfl
  | cons entry earlier ih =>
      cases entry with
      | accepted author other =>
          cases author with
          | inl device =>
              cases ofKind : kind other.packet with
              | true => simp only [owed?, ofKind, if_true]
              | false => simp [underway?, ofKind] at underway
          | inr second => contradiction
      | settled other | cancelled other => contradiction
      | _ => exact ih underway

theorem unfinished?_of_idle (idle : underway? kind journal = none) :
    unfinished? kind journal = owed? kind journal := by
  simp only [unfinished?, idle, Option.map_none, Option.none_or]

theorem unfinished?_of_owed {packet : Packet} (owed : owed? kind journal = some packet) :
    unfinished? kind journal = some packet := by
  cases underway : underway? kind journal with
  | none => rw [unfinished?_of_idle underway, owed]
  | some tx =>
      rw [owed?_of_underway underway] at owed
      contradiction

/-- A cancelled packet is unfinished as before. -/
theorem unfinished?_cancelled (tx : Transmission) :
    unfinished? kind (.cancelled tx :: journal) = unfinished? kind journal :=
  Option.none_or

theorem free_of_neutral (neutral : entry.IsNeutral) :
    free (entry :: journal) = free journal := by
  cases entry <;> first | rfl | exact absurd neutral id

theorem ids_of_neutral (neutral : entry.IsNeutral) : ids (entry :: journal) = ids journal := by
  cases entry <;> first | rfl | exact absurd neutral id

/-- What is under way was accepted. -/
theorem mem_ids_of_underway (underway : underway? kind journal = some tx) :
    tx.id ∈ ids journal := by
  induction journal with
  | nil => contradiction
  | cons entry earlier ih =>
      cases entry with
      | accepted author other =>
          cases author with
          | inl device =>
              simp only [underway?] at underway
              split at underway
              · cases underway
                exact List.mem_cons_self
              · contradiction
          | inr second => contradiction
      | settled other | cancelled other => contradiction
      | _ => exact ih underway

theorem Distinct.of_cons (distinct : Distinct (entry :: journal)) : Distinct journal := by
  unfold Distinct ids at distinct ⊢
  rw [List.filterMap_cons] at distinct
  cases accepted : entry.acceptedId? with
  | none => simpa [accepted] using distinct
  | some id =>
      rw [accepted] at distinct
      exact (List.nodup_cons.mp distinct).2

theorem Distinct.of_suffix {later : Journal (D ⊕ Q)} (distinct : Distinct later)
    (suffix : journal <:+ later) : Distinct journal :=
  List.Nodup.sublist (suffix.sublist.filterMap _) distinct

theorem Clear.of_cons (clear : Clear kind (entry :: journal)) : Clear kind journal := by
  rcases clear with undisturbed | distinct
  · exact Or.inl (List.append_eq_nil_iff.mp undisturbed).2
  · exact Or.inr distinct.of_cons

theorem Clear.of_suffix {later : Journal (D ⊕ Q)} (clear : Clear kind later)
    (suffix : journal <:+ later) : Clear kind journal := by
  rcases suffix with ⟨news, rfl⟩
  induction news with
  | nil => exact clear
  | cons entry rest ih => exact ih clear.of_cons

end Sorts

end Journal

/-! ## Custody -/

open Journal

/-- What the identifier that a device remembers says.  While a transmission of the device
is under way, it is the occupant of the bus and the one that is remembered.  Otherwise
what is remembered was cancelled, and is not mistaken for the occupant. -/
structure Custody (kind : Packet → Bool) (address : Address) (occupant : Option Transmission)
    (journal : Journal (D ⊕ Q)) (held : Option UInt32) : Prop where
  underway : ∀ tx, underway? kind journal = some tx →
    held = some tx.id ∧ tx.recipient = address ∧ ∃ status, occupant = some { tx with status }
  stale : ∀ id, held = some id → underway? kind journal = none →
    dropped kind journal ≠ [] ∧ id ∈ ids journal ∧ ∀ tx, occupant = some tx → tx.id ≠ id
  free : free journal = true → occupant = none

namespace Custody

variable {kind : Packet → Bool} {address : Address} {occupant : Option Transmission}
  {journal : Journal (D ⊕ Q)} {held : Option UInt32} {tx : Transmission}
  {entry : JournalEntry (D ⊕ Q)}

theorem start (occupant : Option Transmission) :
    Custody kind address occupant ([] : Journal (D ⊕ Q)) none where
  underway := by simp [underway?]
  stale := by simp
  free := by simp [Journal.free]

/-- Nothing is under way while the bus is free. -/
theorem idle_of_free (custody : Custody kind address none journal held) :
    underway? kind journal = none := by
  cases underway : underway? kind journal with
  | none => rfl
  | some tx =>
      rcases custody.underway tx underway with ⟨-, -, status, occupied⟩
      contradiction

/-- Nothing is under way while the bus is occupied by what is addressed elsewhere. -/
theorem idle_of_elsewhere (custody : Custody kind address (some tx) journal held)
    (elsewhere : tx.recipient ≠ address) : underway? kind journal = none := by
  cases underway : underway? kind journal with
  | none => rfl
  | some other =>
      rcases custody.underway other underway with ⟨-, recipient, status, occupied⟩
      cases occupied
      exact absurd recipient elsewhere

/-- What is under way is the occupant. -/
theorem of_underway (custody : Custody kind address (some tx) journal held)
    {other : Transmission} (underway : underway? kind journal = some other) :
    held = some tx.id ∧ tx.packet = other.packet ∧ tx.recipient = address := by
  rcases custody.underway other underway with ⟨remembered, recipient, status, occupied⟩
  cases occupied
  exact ⟨remembered, rfl, recipient⟩

/-- While nothing is under way, the occupant is not what is remembered. -/
theorem held_ne (custody : Custody kind address (some tx) journal held)
    (idle : underway? kind journal = none) : held ≠ some tx.id := by
  rintro remembered
  exact (custody.stale tx.id remembered idle).2.2 tx rfl rfl

/-- While nothing was cancelled and nothing is under way, nothing is remembered. -/
theorem held_eq_none (custody : Custody kind address occupant journal held)
    (idle : underway? kind journal = none) (undisturbed : dropped kind journal = []) :
    held = none := by
  cases remembered : held with
  | none => rfl
  | some id => exact absurd undisturbed (custody.stale id remembered idle).1

theorem neutral (custody : Custody kind address occupant journal held)
    (neutral : entry.IsNeutral) : Custody kind address occupant (entry :: journal) held where
  underway := by
    rw [underway?_of_neutral neutral]
    exact custody.underway
  stale := by
    have kept : dropped kind (entry :: journal) = dropped kind journal := by
      apply passed_cons_of_none
      cases entry <;> first | rfl | exact absurd neutral id
    rw [underway?_of_neutral neutral, ids_of_neutral neutral, kept]
    exact custody.stale
  free := by
    rw [free_of_neutral neutral]
    exact custody.free

/-- What is remembered may be forgotten while nothing is under way. -/
theorem forget (custody : Custody kind address occupant journal held)
    (idle : underway? kind journal = none) : Custody kind address occupant journal none where
  underway := by simp [idle]
  stale := by simp
  free := custody.free

/-- Something else is accepted. -/
theorem accept_other (custody : Custody kind address none journal held)
    {author : D ⊕ Q} (other : underway? kind (.accepted author tx :: journal) = none)
    (clear : Clear kind (.accepted author tx :: journal)) :
    Custody kind address (some tx) (.accepted author tx :: journal) held where
  underway := by simp [other]
  stale := by
    rintro id remembered -
    rcases custody.stale id remembered custody.idle_of_free with ⟨disturbed, given, -⟩
    constructor
    · exact fun undisturbed => disturbed (List.append_eq_nil_iff.mp undisturbed).2
    constructor
    · exact List.mem_cons_of_mem _ given
    · rintro _ ⟨⟩ same
      -- Only a cancelled identifier is stale, and it was given before.
      rcases clear with undisturbed | distinct
      · exact disturbed (List.append_eq_nil_iff.mp undisturbed).2
      · exact (List.nodup_cons.mp distinct).1 (same ▸ given)
  free := by simp [Journal.free]

/-- A transmission of the device is accepted, and remembered. -/
theorem accept_own (device : D)
    (ofKind : kind tx.packet = true) (recipient : tx.recipient = address) :
    Custody kind address (some tx) (.accepted (.inl device) tx :: journal) (some tx.id) where
  underway := by
    rintro other underway
    simp only [underway?, ofKind, if_true, Option.some.injEq] at underway
    subst underway
    exact ⟨rfl, recipient, tx.status, rfl⟩
  stale := by simp [underway?, ofKind]
  free := by simp [Journal.free]

/-- The occupant is cancelled. -/
theorem cancel (custody : Custody kind address (some tx) journal held) :
    Custody kind address none (.cancelled tx :: journal) held where
  underway := by simp [underway?]
  stale := by
    rintro id remembered -
    cases underway : underway? kind journal with
    | none =>
        rcases custody.stale id remembered underway with ⟨disturbed, given, -⟩
        rw [dropped, passed_cons_of_idle underway]
        exact ⟨disturbed, given, by simp⟩
    | some other =>
        rcases custody.underway other underway with ⟨own, -, -⟩
        rw [own] at remembered
        cases remembered
        have given : other.id ∈ ids journal := mem_ids_of_underway underway
        rw [dropped, passed_cons_of_underway rfl underway]
        exact ⟨by simp, given, by simp⟩
  free := by simp

/-- The occupant goes out. -/
theorem send (custody : Custody kind address (some tx) journal held) (status : Status) :
    Custody kind address (some { tx with status }) (.sent { tx with status } :: journal) held := by
  have gone : Custody kind address (some { tx with status }) journal held := {
    underway := by
      rintro other underway
      rcases custody.underway other underway with ⟨remembered, recipient, former, occupied⟩
      cases occupied
      exact ⟨remembered, recipient, status, rfl⟩
    stale := by
      rintro id remembered idle
      rcases custody.stale id remembered idle with ⟨disturbed, given, differs⟩
      constructor
      · exact disturbed
      constructor
      · exact given
      · rintro _ ⟨⟩
        exact differs tx rfl
    free := by
      rintro isFree
      have impossible := custody.free isFree
      contradiction }
  exact gone.neutral trivial

/-- The occupant ends, and what is remembered of a transmission of the device is
forgotten. -/
theorem settle (custody : Custody kind address (some tx) journal held) {later : Option UInt32}
    (resolved : ∀ other, underway? kind journal = some other → later = none)
    (kept : underway? kind journal = none → later = held) (ended : Transmission) :
    Custody kind address none (.settled ended :: journal) later where
  underway := by simp [underway?]
  stale := by
    rintro id remembered -
    cases underway : underway? kind journal with
    | none =>
        rw [kept underway] at remembered
        rcases custody.stale id remembered underway with ⟨disturbed, given, -⟩
        rw [dropped, passed_cons_of_none rfl]
        exact ⟨disturbed, given, by simp⟩
    | some other =>
        rw [resolved other underway] at remembered
        contradiction
  free := by simp

/-- The transmission of the device ends, and is forgotten. -/
theorem conclude_own (custody : Custody kind address (some tx) journal held)
    {other : Transmission} (underway : underway? kind journal = some other)
    (peripheral : D ⊕ Q) (ended : Transmission) :
    Custody kind address none (.conclusion peripheral ended :: .settled ended :: journal) none := by
  have settled : Custody kind address none (.settled ended :: journal) none := by
    apply custody.settle
    · simp
    · simp [underway]
  exact settled.neutral (JournalEntry.isNeutral_conclusion peripheral ended)

/-- Something else ends. -/
theorem settle_other (custody : Custody kind address (some tx) journal held)
    (idle : underway? kind journal = none) (ended : Transmission) :
    Custody kind address none (.settled ended :: journal) held := by
  apply custody.settle
  · simp [idle]
  · simp

end Custody

end MapleBus
