import MapleBus.Proofs.PlayerBus.Stages

/-!
# The course of a transmission

After its submission was accepted, a transmission waits, is cancelled or goes
out; the peripheral at its address is told of the start right when the wire took
it, and of the end right after the outcome was harvested, before anybody works
in that cycle.  If the peripheral is unplugged while its transmission is on the
wire, the transmission drifts until it ends.  A journal is the courses of its
transmissions one after the other: a submission is accepted only once the course
before it is over.  Of a transmission that was not addressed to the peripheral
it was accepted from, nothing is said.
-/

namespace MapleBus

/-! ## Courses -/

namespace JournalEntry

variable {P : Type}

/-- An entry that tells of no transmission. -/
def IsQuiet : JournalEntry P → Prop
  | .cycle _ | .began _ | .refused _ _ _ | .attached _ | .detached _ => True
  | _ => False

/-- The entry of a submission that was accepted. -/
def IsAcceptance : JournalEntry P → Prop
  | .accepted _ _ => True
  | _ => False

theorem IsQuiet.not_isAcceptance {entry : JournalEntry P} (quiet : entry.IsQuiet) :
    ¬ entry.IsAcceptance := by
  cases entry <;> first | exact id | exact False.elim quiet

theorem not_isAcceptance_conclusion (peripheral : P) (tx : Transmission) :
    ¬ (conclusion peripheral tx).IsAcceptance := by
  unfold conclusion
  cases tx.status.failure? <;> exact id

end JournalEntry

section Entries

variable {P : Type} [Peripheral P]

/-- An entry that tells of no transmission, nor of anybody who comes or goes at an
address. -/
def JournalEntry.Spares (address : Address) : JournalEntry P → Prop
  | .cycle _ | .began _ | .refused _ _ _ => True
  | .attached peripheral | .detached peripheral => Peripheral.address peripheral ≠ address
  | _ => False

theorem JournalEntry.Spares.isQuiet {address : Address} {entry : JournalEntry P}
    (spares : entry.Spares address) : entry.IsQuiet := by
  cases entry <;> trivial

/-- How far a transmission has come. -/
inductive Fate where
  /-- It is pending. -/
  | waiting
  /-- It is on the wire, and the peripheral it was accepted from is plugged in. -/
  | underway
  /-- It is on the wire, and the peripheral it was accepted from is gone. -/
  | adrift
  /-- It was cancelled, or it has ended. -/
  | closed
  /-- It is addressed to somebody else than the peripheral it was accepted from. -/
  | elsewhere
  deriving DecidableEq

/-- What is written down about a transmission from its acceptance on, newest first,
until it has come this far. -/
inductive Course (tx : Transmission) : Fate → Journal P → Prop where
  | waiting (since : Journal P) (spares : ∀ entry ∈ since, entry.Spares tx.recipient) :
      Course tx .waiting since
  | cancelled {before : Journal P} (waiting : Course tx .waiting before) (since : Journal P)
      (quiet : ∀ entry ∈ since, entry.IsQuiet) :
      Course tx .closed (since ++ .cancelled tx :: before)
  /-- The wire takes it, and the peripheral at its address is told at once. -/
  | underway {before : Journal P} (waiting : Course tx .waiting before) (peripheral : P)
      (here : Peripheral.address peripheral = tx.recipient) (since : Journal P)
      (spares : ∀ entry ∈ since, entry.Spares tx.recipient) :
      Course tx .underway
        (since ++ .started peripheral { tx with status := .sent } ::
          .sent { tx with status := .sent } :: before)
  /-- Its outcome is harvested first thing in a cycle, and the peripheral at its address
  is told at once. -/
  | ended {before : Journal P} (underway : Course tx .underway before) (peripheral : P)
      (here : Peripheral.address peripheral = tx.recipient) (status : Status)
      (terminal : status.isTerminal = true) (now : UInt64) (since : Journal P)
      (quiet : ∀ entry ∈ since, entry.IsQuiet) :
      Course tx .closed
        (since ++ .conclusion peripheral { tx with status } :: .settled { tx with status } ::
          .cycle now :: before)
  /-- The peripheral at its address is unplugged. -/
  | adrift {before : Journal P} (underway : Course tx .underway before) (peripheral : P)
      (here : Peripheral.address peripheral = tx.recipient) (since : Journal P)
      (quiet : ∀ entry ∈ since, entry.IsQuiet) :
      Course tx .adrift (since ++ .detached peripheral :: before)
  /-- Its outcome is harvested, and nobody is at its address. -/
  | lost {before : Journal P} (adrift : Course tx .adrift before) (status : Status)
      (terminal : status.isTerminal = true) (now : UInt64) (since : Journal P)
      (quiet : ∀ entry ∈ since, entry.IsQuiet) :
      Course tx .closed (since ++ .settled { tx with status } :: .cycle now :: before)
  /-- Its outcome is harvested, and somebody else at its address is told. -/
  | mislaid {before : Journal P} (adrift : Course tx .adrift before) (peripheral : P)
      (here : Peripheral.address peripheral = tx.recipient) (status : Status)
      (terminal : status.isTerminal = true) (now : UInt64) (since : Journal P)
      (quiet : ∀ entry ∈ since, entry.IsQuiet) :
      Course tx .closed
        (since ++ .conclusion peripheral { tx with status } :: .settled { tx with status } ::
          .cycle now :: before)
  /-- Nothing is said of it. -/
  | elsewhere (since : Journal P) (others : ∀ entry ∈ since, ¬ entry.IsAcceptance) :
      Course tx .elsewhere since

/-- A journal is a sequence of courses.  The index is the transmission accepted last
and how far it has come. -/
inductive Told : Journal P → Option (Transmission × Fate) → Prop where
  /-- Nothing was accepted so far. -/
  | nothing (journal : Journal P) (quiet : ∀ entry ∈ journal, entry.IsQuiet) :
      Told journal none
  /-- A transmission was accepted after the course before it was over. -/
  | course {earlier later : Journal P} {last : Option (Transmission × Fate)}
      {tx : Transmission} {fate : Fate} (told : Told earlier last)
      (closed : ∀ former, last = some former → former.2 = .closed ∨ former.2 = .elsewhere)
      (author : P) (own : Peripheral.address author = tx.recipient ↔ fate ≠ .elsewhere)
      (pending : tx.status = .pending) (course : Course tx fate later) :
      Told (later ++ .accepted author tx :: earlier) (some (tx, fate))

namespace Course

variable {tx : Transmission} {journal : Journal P} {entry : JournalEntry P}

/-- A transmission that drifts or is over is not affected by what tells of no
transmission. -/
theorem quiet {fate : Fate} (course : Course tx fate journal) (quiet : entry.IsQuiet)
    (loose : fate = .adrift ∨ fate = .closed) : Course tx fate (entry :: journal) := by
  cases course with
  | waiting since spares => simp at loose
  | underway waiting peripheral here since spares => simp at loose
  | elsewhere since others => simp at loose
  | cancelled waiting since quietSince =>
      exact .cancelled waiting (entry :: since) (List.forall_mem_cons.mpr ⟨quiet, quietSince⟩)
  | ended underway peripheral here status terminal now since quietSince =>
      exact .ended underway peripheral here status terminal now (entry :: since)
        (List.forall_mem_cons.mpr ⟨quiet, quietSince⟩)
  | adrift underway peripheral here since quietSince =>
      exact .adrift underway peripheral here (entry :: since)
        (List.forall_mem_cons.mpr ⟨quiet, quietSince⟩)
  | lost adrift status terminal now since quietSince =>
      exact .lost adrift status terminal now (entry :: since)
        (List.forall_mem_cons.mpr ⟨quiet, quietSince⟩)
  | mislaid adrift peripheral here status terminal now since quietSince =>
      exact .mislaid adrift peripheral here status terminal now (entry :: since)
        (List.forall_mem_cons.mpr ⟨quiet, quietSince⟩)

/-- No transmission is affected by what also spares the peripheral at its address. -/
theorem spared {fate : Fate} (course : Course tx fate journal)
    (spares : entry.Spares tx.recipient) : Course tx fate (entry :: journal) := by
  cases fate with
  | waiting =>
      cases course with
      | waiting since sparesSince =>
          exact .waiting (entry :: journal) (List.forall_mem_cons.mpr ⟨spares, sparesSince⟩)
  | underway =>
      cases course with
      | underway waiting peripheral here since sparesSince =>
          exact .underway waiting peripheral here (entry :: since)
            (List.forall_mem_cons.mpr ⟨spares, sparesSince⟩)
  | adrift => exact course.quiet spares.isQuiet (Or.inl rfl)
  | closed => exact course.quiet spares.isQuiet (Or.inr rfl)
  | elsewhere =>
      cases course with
      | elsewhere since others =>
          exact .elsewhere (entry :: journal)
            (List.forall_mem_cons.mpr ⟨spares.isQuiet.not_isAcceptance, others⟩)

end Course

namespace Told

variable {tx : Transmission} {journal : Journal P} {entry : JournalEntry P}
  {current : Option (Transmission × Fate)}

/-- What continues the course of the transmission accepted last continues the
journal. -/
theorem extend {fate later : Fate} (told : Told journal (some (tx, fate))) (news : Journal P)
    (ownTo : fate ≠ .elsewhere ↔ later ≠ .elsewhere)
    (continues : ∀ {course : Journal P}, Course tx fate course →
      Course tx later (news ++ course)) : Told (news ++ journal) (some (tx, later)) := by
  cases told with
  | course earlier closed author own pending course =>
      rw [← List.append_assoc]
      exact .course earlier closed author (own.trans ownTo) pending (continues course)

/-- Anything but an acceptance may be written while nothing is said of the transmission
accepted last. -/
theorem wander (told : Told journal (some (tx, .elsewhere))) (news : Journal P)
    (others : ∀ entry ∈ news, ¬ entry.IsAcceptance) :
    Told (news ++ journal) (some (tx, .elsewhere)) := by
  apply told.extend news Iff.rfl
  rintro course elsewhere
  cases elsewhere with
  | elsewhere since othersSince =>
      exact .elsewhere (news ++ course) (List.forall_mem_append.mpr ⟨others, othersSince⟩)

/-- Whether an entry leaves the transmission accepted last alone. -/
def Spares (current : Option (Transmission × Fate)) (entry : JournalEntry P) : Prop :=
  match current with
  | none | some (_, .adrift) | some (_, .closed) | some (_, .elsewhere) => entry.IsQuiet
  | some (tx, .waiting) | some (tx, .underway) => entry.Spares tx.recipient

theorem push (told : Told journal current) (spares : Spares current entry) :
    Told (entry :: journal) current := by
  rcases current with _ | ⟨tx, fate⟩
  · cases told with
    | nothing _ quiet =>
        exact .nothing (entry :: journal) (List.forall_mem_cons.mpr ⟨spares, quiet⟩)
  · cases fate with
    | waiting | underway =>
        exact told.extend [entry] Iff.rfl fun course => course.spared spares
    | adrift => exact told.extend [entry] Iff.rfl fun course => course.quiet spares (Or.inl rfl)
    | closed => exact told.extend [entry] Iff.rfl fun course => course.quiet spares (Or.inr rfl)
    | elsewhere => exact told.wander [entry] (by simpa using spares.not_isAcceptance)

/-- What tells neither of transmissions nor of plugging leaves every transmission
alone. -/
theorem spares_of_forall (spares : ∀ address, entry.Spares address) : Spares current entry := by
  rcases current with _ | ⟨tx, fate⟩
  · exact (spares ⟨0⟩).isQuiet
  · cases fate with
    | waiting | underway => exact spares tx.recipient
    | adrift | closed | elsewhere => exact (spares ⟨0⟩).isQuiet

end Told

/-! ## The journal and the bus -/

/-- The occupant of the bus is the transmission accepted last, as far as it has come.
Until its course is over or it drifts, a peripheral is at its address. -/
def Stands (current : Option (Transmission × Fate)) (occupant : Option Transmission)
    (addresses : List Address) : Prop :=
  match current with
  | none | some (_, .closed) => occupant = none
  | some (tx, .waiting) =>
      occupant = some tx ∧ tx.status = .pending ∧ tx.recipient ∈ addresses
  | some (tx, .underway) =>
      occupant = some { tx with status := .sent } ∧ tx.recipient ∈ addresses
  | some (tx, .adrift) => occupant = some { tx with status := .sent }
  | some (_, .elsewhere) => True

namespace Stands

variable {tx : Transmission} {current : Option (Transmission × Fate)}
  {addresses : List Address}

/-- While the bus is free, the course before is over. -/
theorem closed_of_free (stands : Stands current none addresses) :
    ∀ former, current = some former → former.2 = .closed ∨ former.2 = .elsewhere := by
  rintro ⟨former, fate⟩ rfl
  cases fate with
  | closed => exact Or.inl rfl
  | elsewhere => exact Or.inr rfl
  | waiting | underway => exact absurd stands.1 (by simp)
  | adrift => exact absurd stands (by simp [Stands])

/-- A pending occupant was accepted last, and waits if it is addressed to the
peripheral it was accepted from. -/
theorem waiting_of_pending (stands : Stands current (some tx) addresses)
    (pending : tx.status = .pending) :
    (current = some (tx, .waiting) ∧ tx.recipient ∈ addresses) ∨
      ∃ former, current = some (former, .elsewhere) := by
  rcases current with _ | ⟨former, fate⟩
  · simp [Stands] at stands
  · cases fate with
    | waiting =>
        obtain ⟨same, -, here⟩ := stands
        cases Option.some.inj same
        exact Or.inl ⟨rfl, here⟩
    | underway =>
        rw [Option.some.inj stands.1] at pending
        contradiction
    | adrift =>
        rw [Option.some.inj stands] at pending
        contradiction
    | closed => simp [Stands] at stands
    | elsewhere => exact Or.inr ⟨former, rfl⟩

/-- An occupant on the wire was accepted last, and is underway or drifts if it is
addressed to the peripheral it was accepted from. -/
theorem flying_of_sent (stands : Stands current (some tx) addresses)
    (sent : tx.status = .sent) :
    (∃ origin : Transmission, tx = { origin with status := .sent } ∧
      ((current = some (origin, .underway) ∧ origin.recipient ∈ addresses) ∨
        current = some (origin, .adrift))) ∨
      ∃ former, current = some (former, .elsewhere) := by
  rcases current with _ | ⟨former, fate⟩
  · simp [Stands] at stands
  · cases fate with
    | waiting =>
        obtain ⟨same, pending, -⟩ := stands
        rw [← Option.some.inj same, sent] at pending
        contradiction
    | underway => exact Or.inl ⟨former, Option.some.inj stands.1, Or.inl ⟨rfl, stands.2⟩⟩
    | adrift => exact Or.inl ⟨former, Option.some.inj stands, Or.inr rfl⟩
    | closed => simp [Stands] at stands
    | elsewhere => exact Or.inr ⟨former, rfl⟩

end Stands

/-- The journal tells courses, and the bus stands where the last one does. -/
def Narrates (occupant : Option Transmission) (journal : Journal P)
    (addresses : List Address) : Prop :=
  ∃ current, Told journal current ∧ Stands current occupant addresses

namespace Narrates

variable {tx : Transmission} {occupant : Option Transmission} {journal : Journal P}
  {addresses : List Address} {entry : JournalEntry P}

theorem push (narrates : Narrates occupant journal addresses)
    (spares : ∀ address, entry.Spares address) :
    Narrates occupant (entry :: journal) addresses := by
  obtain ⟨current, told, stands⟩ := narrates
  exact ⟨current, told.push (Told.spares_of_forall spares), stands⟩

/-- A pending occupant is dropped. -/
theorem cancel (narrates : Narrates (some tx) journal addresses)
    (pending : tx.status = .pending) :
    Narrates none (.cancelled tx :: journal) addresses := by
  obtain ⟨current, told, stands⟩ := narrates
  rcases stands.waiting_of_pending pending with ⟨rfl, -⟩ | ⟨former, rfl⟩
  · refine ⟨some (tx, .closed), told.extend [.cancelled tx] (by simp) ?_, rfl⟩
    rintro course waiting
    exact .cancelled waiting [] (List.forall_mem_nil _)
  · exact ⟨some (former, .elsewhere),
      told.wander [.cancelled tx] (by simp [JournalEntry.IsAcceptance]), trivial⟩

/-- A submission of somebody who is plugged in is accepted. -/
theorem accept (narrates : Narrates none journal addresses) (author : P)
    (present : Peripheral.address author ∈ addresses) (pending : tx.status = .pending) :
    Narrates (some tx) (.accepted author tx :: journal) addresses := by
  obtain ⟨current, told, stands⟩ := narrates
  by_cases own : Peripheral.address author = tx.recipient
  · have course : Course tx .waiting ([] : Journal P) := .waiting [] (List.forall_mem_nil _)
    exact ⟨some (tx, .waiting),
      .course told stands.closed_of_free author (by simp [own]) pending course,
      rfl, pending, own ▸ present⟩
  · have course : Course tx .elsewhere ([] : Journal P) := .elsewhere [] (List.forall_mem_nil _)
    exact ⟨some (tx, .elsewhere),
      .course told stands.closed_of_free author (by simp [own]) pending course, trivial⟩

/-- The requests of somebody who is plugged in. -/
theorem request {rule : Packet → Prop} {author : P}
    {former later : Option Transmission × Journal P}
    (narrates : Narrates former.1 former.2 addresses)
    (present : Peripheral.address author ∈ addresses)
    (request : Request rule author former later) : Narrates later.1 later.2 addresses := by
  cases request with
  | refused tx packet journal => exact narrates.push fun _ => trivial
  | accepted tx journal pending follows => exact narrates.accept author present pending
  | cancelled tx journal pending => exact narrates.cancel pending

theorem requests {rule : Packet → Prop} {author : P}
    {former later : Option Transmission × Journal P}
    (narrates : Narrates former.1 former.2 addresses)
    (present : Peripheral.address author ∈ addresses)
    (requests : Relation.ReflTransGen (Request rule author) former later) :
    Narrates later.1 later.2 addresses := by
  induction requests with
  | refl => exact narrates
  | tail _ next ih => exact ih.request present next

/-- A pending occupant goes out, and the peripheral at its address is told. -/
theorem launch (narrates : Narrates (some tx) journal addresses)
    (pending : tx.status = .pending) (peripheral : P)
    (here : Peripheral.address peripheral = tx.recipient) :
    Narrates (some { tx with status := .sent })
      (.started peripheral { tx with status := .sent } :: .sent { tx with status := .sent } ::
        journal) addresses := by
  obtain ⟨current, told, stands⟩ := narrates
  let news : Journal P :=
    [.started peripheral { tx with status := .sent }, .sent { tx with status := .sent }]
  rcases stands.waiting_of_pending pending with ⟨rfl, present⟩ | ⟨former, rfl⟩
  · refine ⟨some (tx, .underway), told.extend news (by simp) ?_, rfl, present⟩
    rintro course waiting
    exact .underway waiting peripheral here [] (List.forall_mem_nil _)
  · exact ⟨some (former, .elsewhere),
      told.wander news (by simp [news, JournalEntry.IsAcceptance]), trivial⟩

/-- A pending occupant goes out while nobody is at its address, so it was not addressed
to the peripheral it was accepted from. -/
theorem slip (narrates : Narrates (some tx) journal addresses)
    (pending : tx.status = .pending) (nobody : tx.recipient ∉ addresses) :
    Narrates (some { tx with status := .sent }) (.sent { tx with status := .sent } :: journal)
      addresses := by
  obtain ⟨current, told, stands⟩ := narrates
  rcases stands.waiting_of_pending pending with ⟨rfl, present⟩ | ⟨former, rfl⟩
  · exact absurd present nobody
  · exact ⟨some (former, .elsewhere),
      told.wander [.sent { tx with status := .sent }] (by simp [JournalEntry.IsAcceptance]),
      trivial⟩

/-- An occupant on the wire ends, and the peripheral at its address is told. -/
theorem conclude (narrates : Narrates (some tx) journal addresses)
    (sent : tx.status = .sent) {status : Status} (terminal : status.isTerminal = true)
    (now : UInt64) (peripheral : P) (here : Peripheral.address peripheral = tx.recipient) :
    Narrates none
      (.conclusion peripheral { tx with status } :: .settled { tx with status } ::
        .cycle now :: journal) addresses := by
  obtain ⟨current, told, stands⟩ := narrates
  let news : Journal P :=
    [.conclusion peripheral { tx with status }, .settled { tx with status }, .cycle now]
  rcases stands.flying_of_sent sent with ⟨origin, rfl, ⟨rfl, -⟩ | rfl⟩ | ⟨former, rfl⟩
  · refine ⟨some (origin, .closed), told.extend news (by simp) ?_, rfl⟩
    rintro course underway
    exact .ended underway peripheral here status terminal now [] (List.forall_mem_nil _)
  · refine ⟨some (origin, .closed), told.extend news (by simp) ?_, rfl⟩
    rintro course adrift
    exact .mislaid adrift peripheral here status terminal now [] (List.forall_mem_nil _)
  · refine ⟨some (former, .elsewhere), told.wander news ?_, trivial⟩
    refine List.forall_mem_cons.mpr ⟨JournalEntry.not_isAcceptance_conclusion _ _, ?_⟩
    simp [JournalEntry.IsAcceptance]

/-- An occupant on the wire ends, and nobody is at its address. -/
theorem lose (narrates : Narrates (some tx) journal addresses)
    (sent : tx.status = .sent) {status : Status} (terminal : status.isTerminal = true)
    (now : UInt64) (nobody : tx.recipient ∉ addresses) :
    Narrates none (.settled { tx with status } :: .cycle now :: journal) addresses := by
  obtain ⟨current, told, stands⟩ := narrates
  let news : Journal P := [.settled { tx with status }, .cycle now]
  rcases stands.flying_of_sent sent with ⟨origin, rfl, ⟨rfl, present⟩ | rfl⟩ | ⟨former, rfl⟩
  · exact absurd present nobody
  · refine ⟨some (origin, .closed), told.extend news (by simp) ?_, rfl⟩
    rintro course adrift
    exact .lost adrift status terminal now [] (List.forall_mem_nil _)
  · exact ⟨some (former, .elsewhere),
      told.wander news (by simp [news, JournalEntry.IsAcceptance]), trivial⟩

/-- More peripherals may be plugged in. -/
theorem mono (narrates : Narrates occupant journal addresses) {more : List Address}
    (kept : ∀ address ∈ addresses, address ∈ more) : Narrates occupant journal more := by
  obtain ⟨current, told, stands⟩ := narrates
  refine ⟨current, told, ?_⟩
  rcases current with _ | ⟨tx, fate⟩
  · exact stands
  · cases fate with
    | waiting => exact ⟨stands.1, stands.2.1, kept _ stands.2.2⟩
    | underway => exact ⟨stands.1, kept _ stands.2⟩
    | adrift | closed | elsewhere => exact stands

/-- Somebody is plugged in at a free address. -/
theorem attach (narrates : Narrates occupant journal addresses) (peripheral : P)
    (free : Peripheral.address peripheral ∉ addresses) :
    Narrates occupant (.attached peripheral :: journal) addresses := by
  obtain ⟨current, told, stands⟩ := narrates
  have elsewhere : ∀ tx : Transmission, tx.recipient ∈ addresses →
      Peripheral.address peripheral ≠ tx.recipient := by
    rintro tx present same
    exact free (same ▸ present)
  refine ⟨current, told.push ?_, stands⟩
  rcases current with _ | ⟨tx, fate⟩
  · trivial
  · cases fate with
    | waiting => exact elsewhere tx stands.2.2
    | underway => exact elsewhere tx stands.2
    | adrift | closed | elsewhere => trivial

/-- Somebody is unplugged to whom nothing pending is addressed.  What is addressed to
them on the wire drifts from now on. -/
theorem detach (narrates : Narrates occupant journal addresses) (peripheral : P)
    (kept : ∀ tx, occupant = some tx → tx.status = .pending →
      Peripheral.address peripheral ≠ tx.recipient) :
    Narrates occupant (.detached peripheral :: journal)
      (addresses.filter fun address => address ≠ Peripheral.address peripheral) := by
  obtain ⟨current, told, stands⟩ := narrates
  have remains : ∀ address ∈ addresses, Peripheral.address peripheral ≠ address →
      address ∈ addresses.filter fun address => address ≠ Peripheral.address peripheral := by
    rintro address mem elsewhere
    exact List.mem_filter.mpr ⟨mem, by simpa using elsewhere.symm⟩
  rcases current with _ | ⟨tx, fate⟩
  · exact ⟨none, told.push trivial, stands⟩
  · cases fate with
    | waiting =>
        obtain ⟨occupied, pending, present⟩ := stands
        have elsewhere := kept tx occupied pending
        exact ⟨some (tx, .waiting), told.push elsewhere, occupied, pending,
          remains _ present elsewhere⟩
    | underway =>
        obtain ⟨occupied, present⟩ := stands
        by_cases here : Peripheral.address peripheral = tx.recipient
        · refine ⟨some (tx, .adrift), told.extend [.detached peripheral] (by simp) ?_, occupied⟩
          rintro course underway
          exact .adrift underway peripheral here [] (List.forall_mem_nil _)
        · exact ⟨some (tx, .underway), told.push here, occupied, remains _ present here⟩
    | adrift => exact ⟨some (tx, .adrift), told.push trivial, stands⟩
    | closed => exact ⟨some (tx, .closed), told.push trivial, stands⟩
    | elsewhere => exact ⟨some (tx, .elsewhere), told.push trivial, stands⟩

/-- Several are unplugged to whom nothing pending is addressed. -/
theorem detachAll (narrates : Narrates occupant journal addresses) (removed : List P)
    (kept : ∀ tx, occupant = some tx → tx.status = .pending →
      ∀ peripheral ∈ removed, Peripheral.address peripheral ≠ tx.recipient) :
    Narrates occupant (removed.map .detached ++ journal)
      (addresses.filter fun address => address ∉ removed.map Peripheral.address) := by
  induction removed with
  | nil =>
      apply narrates.mono
      simp
  | cons peripheral rest ih =>
      have others := ih fun tx occupied pending other mem =>
        kept tx occupied pending other (List.mem_cons_of_mem _ mem)
      have last := others.detach peripheral fun tx occupied pending =>
        kept tx occupied pending peripheral List.mem_cons_self
      apply last.mono
      rintro address mem
      simp only [List.mem_filter, List.map_cons, List.mem_cons, decide_eq_true_eq] at mem ⊢
      exact ⟨mem.1.1, not_or.mpr ⟨mem.2, mem.1.2⟩⟩

end Narrates

end Entries

end MapleBus
