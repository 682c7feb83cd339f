import MapleBus.Proofs.PlayerBus.Told

/-!
# What is written when

The entries that each part of a session adds to the journal: delivering adds callbacks,
a program adds its requests after the entry of its beginning, and a cycle adds nobody
who comes or goes.
-/

namespace MapleBus

variable {P W : Type}

namespace JournalEntry

/-- A peripheral is told of something. -/
def IsCallback : JournalEntry P → Prop
  | .failed _ _ _ | .completed _ _ _ | .started _ _ => True
  | _ => False

variable [Peripheral P]

theorem isCallback_of_callee {entry : JournalEntry P} {peripheral renewed : P}
    (calls : entry.callee? = some (peripheral, renewed)) : entry.IsCallback := by
  cases entry <;> trivial

/-- A callback leaves a peripheral at its address. -/
theorem address_callee (stationary : Stationary P) {entry : JournalEntry P}
    {peripheral renewed : P} (calls : entry.callee? = some (peripheral, renewed)) :
    Peripheral.address renewed = Peripheral.address peripheral := by
  cases entry with
  | failed other failure tx =>
      cases calls
      exact stationary.failed peripheral failure tx
  | completed other reply tx =>
      cases calls
      exact stationary.completed peripheral reply tx
  | started other tx =>
      cases calls
      exact stationary.started peripheral tx
  | _ => contradiction

end JournalEntry

/-- A program that stays at an address submits packets to this address only. -/
theorem Endpoint.StaysAt.obeys_recipient {α : Type} {address : Address} {condition : α → Prop}
    {program : Endpoint α} (stays : program.StaysAt address condition) :
    program.Obeys (fun packet => packet.recipient = address) condition := by
  induction program with
  | done result => exact stays
  | schedule packet expectsReply next ih => exact ⟨stays.1, fun answer => ih _ (stays.2 answer)⟩
  | status handle next ih | cancel handle next ih | cancelByRecipient recipient next ih
  | countRecipients recipient next ih | isIdle next ih =>
      exact fun answer => ih _ (stays answer)
  | note entry next ih => exact ih stays

namespace PlayerBus

variable [Peripheral P]

/-- Telling of an event changes neither the settings nor the wire. -/
theorem deliverEvent_apart (bus : PlayerBus P W) (event : Event) :
    (bus.deliverEvent event).value.settings = bus.settings ∧
      (bus.deliverEvent event).value.wire = bus.wire := by
  unfold deliverEvent
  cases event.kind with
  | started =>
      cases bus.scheduler.get? event.handle with
      | none => exact ⟨rfl, rfl⟩
      | some tx => exact ⟨rfl, rfl⟩
  | failed | completed =>
      cases bus.scheduler.release event.handle with
      | mk released scheduler =>
          cases released with
          | none => exact ⟨rfl, rfl⟩
          | some tx => exact ⟨rfl, rfl⟩

namespace Session

/-- Only callbacks are written down, and settings and wire stay as they are. -/
structure Calls (former later : Session P W) : Prop where
  settings : later.bus.settings = former.bus.settings
  wire : later.bus.wire = former.bus.wire
  news : ∃ news, later.journal = news ++ former.journal ∧ ∀ entry ∈ news, entry.IsCallback

namespace Calls

theorem refl {P W : Type} (session : Session P W) : Calls session session where
  settings := rfl
  wire := rfl
  news := ⟨[], rfl, List.forall_mem_nil _⟩

theorem trans {P W : Type} {former between later : Session P W}
    (first : Calls former between) (second : Calls between later) : Calls former later where
  settings := second.settings.trans first.settings
  wire := second.wire.trans first.wire
  news := by
    obtain ⟨older, split, olderTell⟩ := first.news
    obtain ⟨newer, splitAgain, newerTell⟩ := second.news
    refine ⟨newer ++ older, ?_, List.forall_mem_append.mpr ⟨newerTell, olderTell⟩⟩
    rw [splitAgain, split, List.append_assoc]

end Calls

theorem calls_deliverEvent (session : Session P W) (event : Event) :
    Calls session (session.deliverEvent event) := by
  obtain ⟨settings, wire⟩ := deliverEvent_apart session.bus event
  have told := peripherals_deliverEvent session.bus event
  refine ⟨settings, wire, ?_⟩
  rw [deliverEvent]
  cases called : session.bus.callback? event with
  | none => exact ⟨[], rfl, List.forall_mem_nil _⟩
  | some entry =>
      rw [called] at told
      obtain ⟨front, peripheral, renewed, back, calls, -⟩ := told
      exact ⟨[entry], rfl,
        List.forall_mem_singleton.mpr (JournalEntry.isCallback_of_callee calls)⟩

theorem calls_deliverEvents (session : Session P W) (events : List Event) :
    Calls session (session.deliverEvents events) := by
  induction events generalizing session with
  | nil => exact Calls.refl session
  | cons event rest ih => exact (calls_deliverEvent session event).trans (ih _)

theorem calls_deliver (session : Session P W) : Calls session session.deliver := by
  obtain ⟨settings, wire, news⟩ :=
    calls_deliverEvents session.quieted session.bus.scheduler.events
  rw [deliver_eq]
  exact ⟨settings, wire, news⟩

/-- Nothing but the peripherals' state and the account of transmissions changes, and only
callbacks are written down. -/
structure Tells (former later : Session P W) : Prop extends Calls former later where
  addresses : later.bus.addresses = former.bus.addresses

theorem addresses_deliverEvent (stationary : Stationary P) (session : Session P W)
    (event : Event) : (session.deliverEvent event).bus.addresses = session.bus.addresses := by
  have told := peripherals_deliverEvent session.bus event
  change (session.bus.deliverEvent event).value.addresses = _
  cases called : session.bus.callback? event with
  | none =>
      rw [called] at told
      exact congrArg (List.map Peripheral.address) told
  | some entry =>
      rw [called] at told
      obtain ⟨front, peripheral, renewed, back, calls, -, -, split, changed⟩ := told
      rw [PlayerBus.addresses, PlayerBus.addresses, changed, split]
      simp only [List.map_append, List.map_cons, JournalEntry.address_callee stationary calls]

theorem addresses_deliverEvents (stationary : Stationary P) (session : Session P W)
    (events : List Event) :
    (session.deliverEvents events).bus.addresses = session.bus.addresses := by
  induction events generalizing session with
  | nil => rfl
  | cons event rest ih => exact (ih _).trans (addresses_deliverEvent stationary session event)

theorem tells_deliver (stationary : Stationary P) (session : Session P W) :
    Tells session session.deliver where
  toCalls := calls_deliver session
  addresses := by
    rw [deliver_eq]
    exact addresses_deliverEvents stationary session.quieted session.bus.scheduler.events

end Session

end PlayerBus

end MapleBus
