import MapleBus.Proofs.Exchange.Course
import MapleBus.Proofs.Scheduler.InStep
import Mathlib.Data.List.Infix

/-!
# Every exchange ends by its own signals

From the moment a frame is handed to the wire until the outcome is harvested,
the completion cell follows the signals of this one exchange.  Whatever other
operations come between, and whatever earlier exchanges left in the storage of
the cell, the result is what these signals decide.
-/

namespace MapleBus.Scheduler

open Exchange

variable {scheduler : Scheduler} {handle : Handle} {tx : Transmission} {own : List Signal}

/-- The signals an operation raises by itself. -/
def Operation.signals : Operation → List Signal
  | .signal raised => [raised]
  | _ => []

/-- No servicing in a run settles the exchange behind a handle. -/
def StaysOpen (scheduler : Scheduler) (handle : Handle) (operations : List Operation) : Prop :=
  ∀ earlier, earlier ++ [.service] <+: operations →
    (scheduler.after (earlier ++ [.service])).status? handle = some .sent

/-- The cell refuses the signals that an exchange has no use for once its own
signals have been heard, and they leave no trace in its storage. -/
def RefusesLate (cell : Completion) (expectsReply : Bool) (own : List Signal) : Prop :=
  ∀ signal : Signal,
    (decided expectsReply own).isSome ∨ (expectsReply = false ∧ signal.concernsReply) →
      (cell.signal signal).1 = false ∧ (cell.signal signal).2.registers = cell.registers

/-- A cell that follows an exchange refuses its late signals. -/
theorem refusesLate_of_follows {cell : Completion} {expectsReply : Bool}
    (follows : cell.registers.Follows expectsReply own) :
    RefusesLate cell expectsReply own := by
  have refused : ∀ signal, cell.registers.receive signal = (false, cell.registers) →
      (cell.signal signal).1 = false ∧ (cell.signal signal).2.registers = cell.registers := by
    intro signal received
    rw [Completion.fst_signal, Completion.registers_signal, received]
    exact ⟨rfl, rfl⟩
  rintro signal (ended | ⟨rfl, reply⟩)
  · obtain ⟨status, ended⟩ := Option.isSome_iff_exists.mp ended
    exact refused signal (follows.receive_of_decided ended signal)
  · exact refused signal (follows.receive_unexpected reply)

/-- A transmission is on the wire, and the cell follows its exchange through
exactly these signals. -/
structure Aloft (scheduler : Scheduler) (handle : Handle) (tx : Transmission)
    (own : List Signal) : Prop where
  inStep : scheduler.InStep
  present : scheduler.table.entry handle.slot = some { tx with status := .sent }
  id_eq : tx.id = handle.id
  follows : scheduler.completion.registers.Follows tx.expectsReply own

/-- A dispatch that succeeds sends the transmission that was pending. -/
theorem of_dispatched {W : Type} [Wire W] {wire : W}
    (found : scheduler.get? handle = some tx)
    (dispatched : (scheduler.dispatch wire).value.1 = some handle) :
    scheduler.table.find? (fun tx => tx.status.isPending) = some (handle, tx) ∧
      (offer wire tx).result = .ok () := by
  cases search : scheduler.table.find? (fun tx => tx.status.isPending) with
  | none =>
      rw [dispatch_of_no_pending search] at dispatched
      contradiction
  | some result =>
      obtain ⟨sentHandle, sentTx⟩ := result
      cases answer : (offer wire sentTx).result with
      | error refusal =>
          rw [dispatch_of_refusal search answer] at dispatched
          contradiction
      | ok _ =>
          rw [dispatch_of_acceptance search answer] at dispatched
          have sameHandle : sentHandle = handle := Option.some.inj dispatched
          obtain ⟨atSlot, -⟩ := Table.get?_eq_some_iff.mp found
          obtain ⟨sentAtSlot, -, -⟩ := Table.of_find?_eq_some search
          rw [sameHandle, atSlot] at sentAtSlot
          rw [Option.some.inj sentAtSlot, sameHandle]
          exact ⟨rfl, answer⟩

namespace Aloft

/-- A transmission that is handed to the wire starts its exchange with the
signals of the attempt. -/
theorem of_dispatch {W : Type} [Wire W] {wire : W} (inStep : scheduler.InStep)
    (found : scheduler.get? handle = some tx)
    (dispatched : (scheduler.dispatch wire).value.1 = some handle) :
    Aloft (scheduler.dispatch wire).value.2.1 handle tx (offer wire tx).signals where
  inStep := inStep.dispatch wire
  present := by
    obtain ⟨search, accepted⟩ := of_dispatched found dispatched
    rw [dispatch_of_acceptance search accepted]
    exact Table.entry_put_same
  id_eq := (Table.get?_eq_some_iff.mp found).2
  follows := by
    obtain ⟨search, accepted⟩ := of_dispatched found dispatched
    have heard := Completion.Registers.registers_signals
      (scheduler.completion.arm tx.expectsReply).callOut (offer wire tx).signals
    rw [dispatch_of_acceptance search accepted]
    change (scheduler.engage wire tx).registers.Follows _ _
    rw [engage, heard]
    exact Completion.Registers.Follows.hear_arm scheduler.completion.registers _ _

/-- A step that keeps the entry and does not touch the cell's storage. -/
theorem of_same_registers {next : Scheduler} (aloft : Aloft scheduler handle tx own)
    (inStep : next.InStep)
    (present : next.table.entry handle.slot = some { tx with status := .sent })
    (registers : next.completion.registers = scheduler.completion.registers) :
    Aloft next handle tx own where
  inStep := inStep
  present := present
  id_eq := aloft.id_eq
  follows := by
    rw [registers]
    exact aloft.follows

theorem signal (aloft : Aloft scheduler handle tx own) (signal : Signal) :
    Aloft (scheduler.signal signal).2 handle tx (own ++ [signal]) where
  inStep := aloft.inStep.signal signal
  present := aloft.present
  id_eq := aloft.id_eq
  follows := aloft.follows.receive signal

theorem release (aloft : Aloft scheduler handle tx own) (other : Handle) :
    Aloft (scheduler.release other).2 handle tx own := by
  have inStep := aloft.inStep.release other
  rcases release_cases scheduler other with ⟨gone, found, terminal, released⟩ | ⟨-, kept⟩
  · rw [released] at inStep ⊢
    have elsewhere : handle.slot ≠ other.slot := by
      intro same
      have atSlot := (Table.get?_eq_some_iff.mp found).1
      rw [← same, aloft.present] at atSlot
      rw [← Option.some.inj atSlot] at terminal
      contradiction
    refine aloft.of_same_registers inStep ?_ rfl
    exact (Table.entry_vacate_of_ne elsewhere).trans aloft.present
  · rw [kept]
    exact aloft

/-- While the signals decide nothing, there is nothing to harvest. -/
theorem phase_ne_done (aloft : Aloft scheduler handle tx own)
    (undecided : decided tx.expectsReply own = none) :
    scheduler.completion.phase ≠ .done := by
  change scheduler.completion.registers.phase ≠ .done
  rw [aloft.follows.phase_of_undecided undecided]
  split <;> simp

/-- What the signals decided is what the cell says of the transmission. -/
theorem ruling_eq (aloft : Aloft scheduler handle tx own) {status : Status}
    (ended : decided tx.expectsReply own = some status) :
    scheduler.completion.phase = .done ∧
      (scheduler.ruling { tx with status := .sent }).1 = status := by
  obtain ⟨done, verdict⟩ := aloft.follows.done_of_decided status ended
  rw [Completion.Registers.verdict, aloft.follows.expects] at verdict
  exact ⟨done, verdict⟩

/-- Servicing gives the transmission the end that its signals decided, if they
have decided one. -/
theorem entry_service (aloft : Aloft scheduler handle tx own) :
    scheduler.service.value.table.entry handle.slot =
      some { tx with status := (decided tx.expectsReply own).getD .sent } := by
  cases decision : decided tx.expectsReply own with
  | none =>
      obtain ⟨lock, served⟩ := service_of_waiting (aloft.phase_ne_done decision)
      rw [served]
      exact aloft.present
  | some status =>
      obtain ⟨done, ruled⟩ := aloft.ruling_eq decision
      have found := aloft.inStep.find?_sent aloft.present rfl
      rw [service_of_outcome done found, ruled]
      exact Table.entry_put_same

theorem get?_service (aloft : Aloft scheduler handle tx own) :
    scheduler.service.value.get? handle =
      some { tx with status := (decided tx.expectsReply own).getD .sent } :=
  Table.get?_eq_some_iff.mpr ⟨aloft.entry_service, aloft.id_eq⟩

/-- A transmission that servicing leaves on the wire was not decided. -/
theorem undecided_of_sent (aloft : Aloft scheduler handle tx own)
    (flying : scheduler.service.value.status? handle = some .sent) :
    decided tx.expectsReply own = none := by
  cases decision : decided tx.expectsReply own with
  | none => rfl
  | some status =>
      obtain ⟨done, ruled⟩ := aloft.ruling_eq decision
      have terminal : status.isTerminal = true := by
        rw [← ruled]
        exact InStep.isTerminal_verdict _ _ _
      rw [status?, aloft.get?_service, decision] at flying
      have sent : status = .sent := Option.some.inj flying
      exact absurd sent (Status.isTerminal_iff.mp terminal).2

/-- Short of settling it, no operation but a signal touches an exchange on the
wire. -/
theorem perform_of_quiet (aloft : Aloft scheduler handle tx own) {operation : Operation}
    (unsettled : operation = .service →
      scheduler.service.value.status? handle = some .sent)
    (quiet : operation.signals = []) :
    Aloft (scheduler.perform operation).value handle tx own := by
  have inStep := aloft.inStep.perform operation
  have outstanding : Status.sent.isOutstanding = true := rfl
  cases operation with
  | signal _ => contradiction
  | schedule packet expectsReply =>
      have refused := schedule_of_outstanding
        (aloft.inStep.outstanding?_eq_some aloft.present outstanding) packet expectsReply
      simp only [Scheduler.perform, Logged.value_map, refused] at inStep ⊢
      exact aloft.of_same_registers inStep aloft.present rfl
  | dispatch wire =>
      have untouched :=
        dispatch_of_no_pending (aloft.inStep.no_pending_of_sent aloft.present rfl) wire
      simp only [Scheduler.perform, untouched]
      exact aloft
  | service =>
      have undecided := aloft.undecided_of_sent (unsettled rfl)
      obtain ⟨lock, served⟩ := service_of_waiting (aloft.phase_ne_done undecided)
      simp only [Scheduler.perform, served] at inStep ⊢
      exact aloft.of_same_registers inStep aloft.present rfl
  | release other => exact aloft.release other
  | nextEvent =>
      simp only [Scheduler.perform, nextEvent_eq] at inStep ⊢
      exact aloft.of_same_registers inStep aloft.present rfl
  | cancel _ | cancelByRecipient _ | cancelAll =>
      refine aloft.of_same_registers inStep ?_ rfl
      exact entry_removePending_of_not_pending aloft.present (by simp)
  | askArmed => exact aloft.of_same_registers inStep aloft.present rfl

/-- The cell hears of nothing but the signals. -/
theorem perform (aloft : Aloft scheduler handle tx own) {operation : Operation}
    (unsettled : operation = .service →
      scheduler.service.value.status? handle = some .sent) :
    Aloft (scheduler.perform operation).value handle tx (own ++ operation.signals) := by
  cases heard : operation.signals with
  | nil =>
      rw [List.append_nil]
      exact aloft.perform_of_quiet unsettled heard
  | cons raised rest =>
      cases operation with
      | signal signal =>
          obtain ⟨rfl, rfl⟩ := List.cons.inj heard
          exact aloft.signal signal
      | _ => contradiction

/-- Over a run that does not settle it, the exchange goes on by the signals of the
run. -/
theorem after (aloft : Aloft scheduler handle tx own) {later : List Operation}
    (stays : scheduler.StaysOpen handle later) :
    Aloft (scheduler.after later) handle tx (own ++ later.flatMap Operation.signals) := by
  induction later generalizing scheduler own with
  | nil => simpa using aloft
  | cons operation rest ih =>
      have first : operation = .service →
          scheduler.service.value.status? handle = some .sent := by
        rintro rfl
        exact stays [] (by simp)
      have others : (scheduler.perform operation).value.StaysOpen handle rest := by
        intro earlier initial
        exact stays (operation :: earlier) (List.cons_prefix_cons.mpr ⟨rfl, initial⟩)
      have flown := ih (aloft.perform first) others
      rwa [List.append_assoc, ← List.flatMap_cons] at flown

end Aloft

/-- Whatever happened on the bus before, a transmission that is handed to the
wire ends as the signals of its own exchange decide, and what they leave
undecided stays open.  Signals that come too late, during the attempt to
transmit or after it, are refused and change nothing. -/
theorem service_decides {W : Type} [Wire W] (before : List Operation) (wire : W)
    (handle : Handle) (tx : Transmission)
    (found : (Scheduler.after {} before).get? handle = some tx)
    (dispatched : ((Scheduler.after {} before).dispatch wire).value.1 = some handle)
    (later : List Operation)
    (stays : ((Scheduler.after {} before).dispatch wire).value.2.1.StaysOpen handle later) :
    let attempted := (offer wire tx).signals
    let own := attempted ++ later.flatMap Operation.signals
    let current := ((Scheduler.after {} before).dispatch wire).value.2.1.after later
    current.service.value.get? handle =
        some { tx with status := (decided tx.expectsReply own).getD .sent } ∧
      RefusesLate current.completion tx.expectsReply own ∧
      ∀ heard, heard <+: attempted →
        RefusesLate
          (((Scheduler.after {} before).completion.arm tx.expectsReply).signals heard)
          tx.expectsReply heard := by
  have launched := Aloft.of_dispatch (InStep.after before) found dispatched
  have current := launched.after stays
  constructor
  · exact current.get?_service
  · constructor
    · exact refusesLate_of_follows current.follows
    · intro heard _
      apply refusesLate_of_follows
      rw [Completion.Registers.registers_signals]
      exact Completion.Registers.Follows.hear_arm _ _ _

/-- A query whose reply is garbled, and the same query again. -/
def garbledThenAgain : List Operation :=
  [ .schedule query true, .dispatch PromptWire.mk, .signal (.replyReceived [1, 2, 3]),
    .service, .schedule query true ]

/-- A reply that can be read after some waiting, and a signal that comes too
late. -/
def answeredTooOften : List Operation :=
  [.service, .signal (.replyReceived query.encode), .cancelAll, .signal .readFailed]

/-- The second query ends with its own reply. -/
theorem service_decides_second_query :
    (((Scheduler.after {} garbledThenAgain).dispatch PromptWire.mk).value.2.1.after
        answeredTooOften).service.value.get? ⟨1, 2⟩ =
      some
        { id := 2
          packet := query
          expectsReply := true
          status := .succeeded (some query) } := by
  have flying : ∀ earlier ∈ answeredTooOften.inits,
      (((Scheduler.after {} garbledThenAgain).dispatch PromptWire.mk).value.2.1.after
        earlier).status? ⟨1, 2⟩ = some .sent := by
    decide +kernel
  have stays : StaysOpen
      ((Scheduler.after {} garbledThenAgain).dispatch PromptWire.mk).value.2.1 ⟨1, 2⟩
      answeredTooOften := by
    intro earlier initial
    exact flying (earlier ++ [Operation.service]) ((List.mem_inits _ _).mpr initial)
  have decides := service_decides garbledThenAgain PromptWire.mk ⟨1, 2⟩
    { id := 2, packet := query, expectsReply := true } (by decide +kernel)
    (by decide +kernel) answeredTooOften stays
  have own :
      decided true ([.writeComplete] ++ answeredTooOften.flatMap Operation.signals) =
        some (.succeeded (some query)) := by
    decide +kernel
  rw [decides.1]
  exact congrArg (fun status => some (Transmission.mk 2 query true (status.getD .sent))) own

end MapleBus.Scheduler
