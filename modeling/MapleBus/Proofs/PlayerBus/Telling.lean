import MapleBus.Proofs.PlayerBus.Following
import MapleBus.Proofs.PlayerBus.Reports

/-!
# Tales of a device and its handle

A device that is plugged in is also used through its handle, at any time: between the
cycles, between the callback of a cycle and the programs, and after them.  A tale is the
journal of such a run with the calls put in where they were made.  It is written beside
the run and never read by it.  What the turns of the device and the calls keep of a tale,
it keeps in every run.
-/

namespace MapleBus

/-! ## Tales -/

/-- What is told of a run: an entry of the journal, or a call that finds the device in some
state. -/
inductive Record (D Q C : Type) where
  | entry (entry : JournalEntry (D ⊕ Q))
  | called (device : D) (call : C)

/-- What is told of a run, newest first. -/
abbrev Tale (D Q C : Type) : Type := List (Record D Q C)

variable {D Q C W : Type}

/-- The device as an entry about it shows it. -/
def JournalEntry.device? : JournalEntry (D ⊕ Q) → Option D
  | .failed (.inl device) _ _ | .completed (.inl device) _ _ | .began (.inl device)
  | .accepted (.inl device) _ | .refused (.inl device) _ _ | .started (.inl device) _ =>
      some device
  | _ => none

namespace Record

/-- The entry of the journal that is told. -/
def entry? : Record D Q C → Option (JournalEntry (D ⊕ Q))
  | .entry written => some written
  | .called _ _ => none

/-- The device as a record about it shows it. -/
def device? : Record D Q C → Option D
  | .entry written => written.device?
  | .called device _ => some device

/-- The end that the device is told of. -/
def outcome? : Record D Q C → Option Status
  | .entry (.failed (.inl _) failure _) => some (.failed failure)
  | .entry (.completed (.inl _) reply _) => some (.succeeded reply)
  | _ => none

end Record

namespace Tale

/-- The journal that is told. -/
def journal (tale : Tale D Q C) : Journal (D ⊕ Q) :=
  tale.filterMap Record.entry?

/-- The time of the cycle that began last. -/
def clock? : Tale D Q C → Option UInt64
  | [] => none
  | .entry (.cycle now) :: _ => some now
  | _ :: earlier => clock? earlier

/-- The transmission of the device that was accepted last, until the device is told of its
end. -/
def flying? : Tale D Q C → Option Transmission
  | [] => none
  | .entry (.accepted (.inl _) tx) :: _ => some tx
  | .entry (.failed (.inl _) _ _) :: _ | .entry (.completed (.inl _) _ _) :: _ => none
  | _ :: earlier => flying? earlier

/-- How the transmission in flight ends, if the device is told of its end. -/
def ending? (record : Record D Q C) (earlier : Tale D Q C) : Option Status := do
  let _ ← earlier.flying?
  record.outcome?

/-- Tell entries of a journal. -/
def tell (news : Journal (D ⊕ Q)) (tale : Tale D Q C) : Tale D Q C :=
  news.map .entry ++ tale

/-- Something holds of every record and of what was told before it. -/
def Always (rule : Record D Q C → Tale D Q C → Prop) (tale : Tale D Q C) : Prop :=
  ∀ record earlier, record :: earlier <:+ tale → rule record earlier

section Laws

variable {news : Journal (D ⊕ Q)} {tale : Tale D Q C} {record : Record D Q C}
  {rule : Record D Q C → Tale D Q C → Prop}

theorem always_nil : Always rule [] := by
  rintro record earlier suffix
  exact absurd (List.suffix_nil.mp suffix) (List.cons_ne_nil _ _)

theorem Always.cons (always : tale.Always rule) (next : rule record tale) :
    Always rule (record :: tale) := by
  rintro other earlier suffix
  rcases List.suffix_cons_iff.mp suffix with whole | before
  · cases whole
    exact next
  · exact always other earlier before

/-- Told entries of which something holds, whatever is told of the news before them. -/
theorem Always.tell (always : tale.Always rule)
    (next : ∀ entry ∈ news, ∀ newer, rule (.entry entry) (Tale.tell newer tale)) :
    (Tale.tell news tale).Always rule := by
  induction news with
  | nil => exact always
  | cons entry rest ih =>
      have before := ih fun other mem => next other (List.mem_cons_of_mem _ mem)
      exact before.cons (next entry List.mem_cons_self rest)

theorem Always.called (always : tale.Always rule) (devices : List D) (call : C)
    (next : ∀ device earlier, rule (.called device call) earlier) :
    Always rule (devices.map (.called · call) ++ tale) := by
  induction devices with
  | nil => exact always
  | cons device rest ih => exact ih.cons (next device _)

theorem journal_tell : (tell news tale).journal = news ++ tale.journal := by
  simp [tell, journal, List.filterMap_map, Function.comp_def, Record.entry?]

theorem tell_append (newer : Journal (D ⊕ Q)) :
    tell (newer ++ news) tale = tell newer (tell news tale) := by
  simp [tell]

/-- Only the beginning of a cycle tells the time. -/
theorem clock?_tell (quiet : ∀ entry ∈ news, ∀ now, entry ≠ .cycle now) :
    (tell news tale).clock? = tale.clock? := by
  induction news with
  | nil => rfl
  | cons entry rest ih =>
      have others := ih fun other mem => quiet other (List.mem_cons_of_mem _ mem)
      have noCycle := quiet entry List.mem_cons_self
      cases entry with
      | cycle now => exact absurd rfl (noCycle now)
      | _ => exact others

/-- Calls tell no time. -/
theorem clock?_called (devices : List D) (call : C) :
    clock? (devices.map (.called · call) ++ tale) = tale.clock? := by
  induction devices with
  | nil => rfl
  | cons device rest ih => exact ih

end Laws

end Tale

/-- An entry that is no submission of the device and no callback of an end. -/
def JournalEntry.IsAside : JournalEntry (D ⊕ Q) → Prop
  | .accepted (.inl _) _ | .failed (.inl _) _ _ | .completed (.inl _) _ _ => False
  | _ => True

theorem JournalEntry.IsForeign.isAside {entry : JournalEntry (D ⊕ Q)} (foreign : entry.IsForeign) :
    entry.IsAside ∧ entry.device? = none := by
  cases entry with
  | failed peripheral | completed peripheral | began peripheral | accepted peripheral
  | refused peripheral | started peripheral | attached peripheral | detached peripheral =>
      cases peripheral with
      | inl device => contradiction
      | inr other => exact ⟨trivial, rfl⟩
  | _ => exact ⟨trivial, rfl⟩

theorem Tale.flying?_of_aside {entry : JournalEntry (D ⊕ Q)} (aside : entry.IsAside)
    (tale : Tale D Q C) : flying? (.entry entry :: tale) = tale.flying? := by
  cases entry with
  | accepted peripheral | failed peripheral | completed peripheral =>
      cases peripheral with
      | inl device => contradiction
      | inr other => rfl
  | _ => rfl

theorem Record.outcome?_of_aside {entry : JournalEntry (D ⊕ Q)} (aside : entry.IsAside) :
    outcome? (.entry entry : Record D Q C) = none := by
  cases entry with
  | failed peripheral | completed peripheral =>
      cases peripheral with
      | inl device => contradiction
      | inr other => rfl
  | _ => rfl

namespace Tale

variable {tale : Tale D Q C} {record : Record D Q C}

theorem ending?_of_no_end (none : record.outcome? = none) : ending? record tale = .none := by
  rw [ending?, none]
  cases tale.flying? <;> rfl

/-- While nothing is in flight, nothing of the device ends. -/
theorem ending?_of_idle (idle : tale.flying? = none) : ending? record tale = none := by
  rw [ending?, idle]
  rfl

theorem ending?_of_flying {own : Transmission} (flying : tale.flying? = some own) :
    ending? record tale = record.outcome? := by
  rw [ending?, flying]
  rfl

/-- Only the callback of an end tells of one. -/
theorem outcome?_of_ends {status : Status} (ends : ending? record tale = some status) :
    record.outcome? = some status := by
  rcases Option.bind_eq_some_iff.mp ends with ⟨own, -, told⟩
  exact told

/-- A submission is no end. -/
theorem apart_of_ends {entry : JournalEntry (D ⊕ Q)} {status : Status}
    (ends : ending? (.entry entry) tale = some status) :
    ∀ author tx, entry ≠ .accepted (.inl author) tx := by
  rintro author tx rfl
  cases outcome?_of_ends ends

/-- After an end nothing is in flight. -/
theorem flying?_of_ends {status : Status} (ends : ending? record tale = some status) :
    flying? (record :: tale) = none := by
  have told := outcome?_of_ends ends
  unfold Record.outcome? at told
  split at told
  · rfl
  · rfl
  · contradiction

end Tale

theorem Tale.flying?_conclusion (device : D) (tx : Transmission) (tale : Tale D Q C) :
    flying? (.entry (.conclusion (.inl device) tx) :: tale) = none := by
  unfold JournalEntry.conclusion
  cases tx.status.failure? <;> rfl

namespace PlayerBus

/-! ## Runs with calls -/

/-- A session with the tale of its run. -/
structure Telling (D Q W C : Type) where
  session : Session (D ⊕ Q) W
  tale : Tale D Q C := []

/-- What happens in a run with calls. -/
inductive Move (D Q W C : Type) where
  /-- The device is called through its handle. -/
  | call (call : C)
  | occur (occurrence : Occurrence (D ⊕ Q) W)
  /-- A cycle with calls in it: some after the callbacks of ends, and some after the
  programs. -/
  | cycle (now : UInt64) (arrivals : List (List Signal)) (early late : List C)

namespace Telling

variable (serve : C → D → D)

/-- Go on, and tell what is written down on the way. -/
def goOn (telling : Telling D Q W C) (next : Session (D ⊕ Q) W) : Telling D Q W C where
  session := next
  tale := .tell (next.journal.take (next.journal.length - telling.session.journal.length))
    telling.tale

/-- Going on tells the news. -/
theorem goOn_eq {telling : Telling D Q W C} {next : Session (D ⊕ Q) W} {news : Journal (D ⊕ Q)}
    (grown : next.journal = news ++ telling.session.journal) :
    telling.goOn next = { session := next, tale := .tell news telling.tale } := by
  simp [goOn, grown]

/-- Call whatever device is plugged in. -/
def call (telling : Telling D Q W C) (call : C) : Telling D Q W C where
  session :=
    { telling.session with
      bus :=
        { telling.session.bus with
          peripherals := telling.session.bus.peripherals.map (Sum.map (serve call) id) } }
  tale := (telling.session.bus.peripherals.filterMap Sum.getLeft?).map (.called · call) ++
    telling.tale

def calls (telling : Telling D Q W C) (calls : List C) : Telling D Q W C :=
  calls.foldl (call serve) telling

theorem clock?_calls (telling : Telling D Q W C) (calls : List C) :
    (telling.calls serve calls).tale.clock? = telling.tale.clock? := by
  induction calls generalizing telling with
  | nil => rfl
  | cons first rest ih => exact (ih (telling.call serve first)).trans (Tale.clock?_called _ _)

variable [Peripheral D] [Peripheral Q] [Wire W]

/-- A cycle with calls between its parts. -/
def cycle (telling : Telling D Q W C) (now : UInt64) (arrivals : List (List Signal))
    (early late : List C) : Telling D Q W C :=
  let settled := telling.goOn ((telling.session.hear (arrivals.headD [])).settle now)
  let called := settled.calls serve early
  let worked := called.session.work now arrivals.tail
  let finished := (called.goOn worked.1).calls serve late
  finished.goOn (finished.session.hear (worked.2.headD [])).launch

def perform (telling : Telling D Q W C) : Move D Q W C → Telling D Q W C
  | .call made => telling.call serve made
  | .occur (.task now arrivals) => telling.cycle serve now arrivals [] []
  | .occur occurrence => telling.goOn (telling.session.occur occurrence)
  | .cycle now arrivals early late => telling.cycle serve now arrivals early late

def after (telling : Telling D Q W C) : List (Move D Q W C) → Telling D Q W C
  | [] => telling
  | move :: rest => (telling.perform serve move).after rest

/-- What happens to a session in a telling is what happens to it without. -/
theorem session_occur (telling : Telling D Q W C) (occurrence : Occurrence (D ⊕ Q) W) :
    (telling.perform serve (.occur occurrence)).session = telling.session.occur occurrence := by
  cases occurrence with
  | task now arrivals =>
      simp only [perform, cycle, calls, goOn, List.foldl_nil, Session.occur, Session.task_eq,
        Session.offering]
  | _ => simp only [perform, goOn]

/-- A call is a change of the device from outside. -/
theorem session_call (telling : Telling D Q W C) (made : C) :
    (telling.perform serve (.call made)).session =
      telling.session.occur (.influence (Sum.map (serve made) id)) :=
  rfl

/-- A run begins to be told. -/
def opened (bus : PlayerBus (D ⊕ Q) W) : Telling D Q W C where
  session := .opened bus

/-- What is told of a bus that hosts a device from the time on when it was plugged in,
whatever happened to the bus before.  From then on the device is changed by calls only. -/
inductive Recounts (newcomer : D) : Telling D Q W C → Prop where
  | intro {settings : Settings} {wire : W} {bus joined : PlayerBus (D ⊕ Q) W}
      {prelude : List (Occurrence (D ⊕ Q) W)} {moves : List (Move D Q W C)}
      (created : create settings wire = .ok bus)
      (nobody : ((Session.opened bus).after prelude).bus.peripherals.filterMap
        Sum.getLeft? = [])
      (joins : (((Session.opened bus).after prelude).bus.attach (.inl newcomer)).value =
        .ok joined)
      (within : ∀ change, .occur (.influence change) ∈ moves → Within Eq change)
      (stays : Stays ((opened joined).after serve moves).session.journal) :
      Recounts newcomer ((opened joined).after serve moves)

end Telling

end PlayerBus

end MapleBus
