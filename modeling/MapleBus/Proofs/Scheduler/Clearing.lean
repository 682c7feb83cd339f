import MapleBus.Proofs.Scheduler.InStep

/-!
# Dropping all pending work

Cancelling everything takes the pending transmissions out of the table and turns the event
queue over once, so that the events of what the table no longer knows are dropped.  The
queue is turned over within its capacity, which no operation exceeds: in every run the
other events keep their order, and none is lost for want of room.
-/

namespace MapleBus

/-- Appending keeps a queue within its capacity. -/
theorem Event.length_enqueue_le {queue : List Event} (fits : queue.length ≤ queueCapacity)
    (event : Event) : (enqueue queue event).value.length ≤ queueCapacity := by
  unfold enqueue
  split
  next room =>
    simp only [Logged.value_pure, List.length_append, List.length_singleton]
    exact room
  next full =>
    have notEmpty : 0 < queueCapacity := by decide
    simp only [Logged.value_bind, Logged.value_pure, List.length_append, List.length_tail,
      List.length_singleton]
    omega

namespace Scheduler

variable {scheduler : Scheduler}

/-! ## The queue keeps to its capacity -/

/-- No more events wait than there is room for. -/
def Roomy (scheduler : Scheduler) : Prop :=
  scheduler.events.length ≤ Event.queueCapacity

namespace Roomy

theorem schedule (roomy : scheduler.Roomy) (packet : Packet) (expectsReply : Bool) :
    (scheduler.schedule packet expectsReply).value.2.Roomy := by
  cases busy : scheduler.outstanding? with
  | some _ =>
      rw [schedule_of_outstanding busy]
      exact roomy
  | none =>
      cases free : scheduler.table.free? with
      | none =>
          rw [schedule_of_full busy free]
          exact roomy
      | some _ =>
          rw [schedule_of_free busy free]
          exact roomy

theorem dispatch {W : Type} [Wire W] (roomy : scheduler.Roomy) (wire : W) :
    (scheduler.dispatch wire).value.2.1.Roomy := by
  cases search : scheduler.table.find? (fun tx => tx.status.isPending) with
  | none =>
      rw [dispatch_of_no_pending search]
      exact roomy
  | some found =>
      obtain ⟨handle, tx⟩ := found
      cases answer : (offer wire tx).result with
      | error refusal =>
          rw [dispatch_of_refusal search answer]
          exact roomy
      | ok _ =>
          rw [dispatch_of_acceptance search answer]
          exact Event.length_enqueue_le roomy _

theorem service (roomy : scheduler.Roomy) (inStep : scheduler.InStep) :
    scheduler.service.value.Roomy := by
  by_cases done : scheduler.completion.phase = .done
  · obtain ⟨handle, tx, found⟩ := inStep.find?_of_done done
    rw [service_of_outcome done found]
    exact Event.length_enqueue_le roomy _
  · obtain ⟨lock, served⟩ := service_of_waiting done
    rw [served]
    exact roomy

end Roomy

/-! ## Turning the queue over -/

/-- A queue within its capacity loses exactly the events of what is no longer known, and
nothing is noted. -/
theorem cancelAll_of_roomy (roomy : scheduler.Roomy) :
    let remaining := (scheduler.removePending fun _ => true).2
    scheduler.cancelAll =
      pure ((scheduler.removePending fun _ => true).1,
        { remaining with
          events := scheduler.events.filter fun event =>
            (remaining.get? event.handle).isSome }) := by
  intro remaining
  have turned := Event.turn_length (fun event => (remaining.get? event.handle).isSome) roomy
  have opened : scheduler.cancelAll = do
      let events ← Event.turn (fun event => (remaining.get? event.handle).isSome)
        scheduler.events.length scheduler.events
      return ((scheduler.removePending fun _ => true).1, { remaining with events }) := rfl
  rw [opened, turned]
  rfl

namespace Roomy

theorem cancelAll (roomy : scheduler.Roomy) : scheduler.cancelAll.value.2.Roomy := by
  rw [cancelAll_of_roomy roomy]
  exact Nat.le_trans (List.length_filter_le _ _) roomy

/-- Every operation keeps the queue within its capacity. -/
theorem perform (roomy : scheduler.Roomy) (inStep : scheduler.InStep) (operation : Operation) :
    (scheduler.perform operation).value.Roomy := by
  cases operation with
  | schedule packet expectsReply => exact roomy.schedule packet expectsReply
  | dispatch wire => exact roomy.dispatch wire
  | service => exact roomy.service inStep
  | nextEvent =>
      change scheduler.nextEvent.2.events.length ≤ _
      rw [nextEvent_eq, List.length_tail]
      exact Nat.le_trans (Nat.sub_le _ _) roomy
  | release handle =>
      rcases release_cases scheduler handle with ⟨_, -, -, released⟩ | ⟨-, kept⟩
      · rw [Scheduler.perform, released]
        exact roomy
      · rw [Scheduler.perform, kept]
        exact roomy
  | cancelAll => exact roomy.cancelAll
  | cancel _ | cancelByRecipient _ | signal _ | askArmed => exact roomy

theorem after (operations : List Operation) : (Scheduler.after {} operations).Roomy := by
  have kept : (Scheduler.after {} operations).InStep ∧ (Scheduler.after {} operations).Roomy :=
    after_induction (motive := fun scheduler => scheduler.InStep ∧ scheduler.Roomy)
      ⟨InStep.empty, Nat.zero_le _⟩
      (fun ⟨inStep, roomy⟩ operation =>
        ⟨inStep.perform operation, roomy.perform inStep operation⟩)
      operations
  exact kept.2

end Roomy

/-! ## What is dropped and what stays -/

/-- What cancelling everything does. -/
structure Clears (scheduler : Scheduler) : Prop where
  /-- The answer is the number of pending entries. -/
  counts : scheduler.cancelAll.value.1 = scheduler.table.count fun tx => tx.status.isPending
  /-- Exactly the pending entries are gone. -/
  entries : ∀ slot, scheduler.cancelAll.value.2.table.entry slot =
    (scheduler.table.entry slot).filter fun tx => !tx.status.isPending
  /-- An entry on the wire or at its end stays as it is, in its slot. -/
  spares : ∀ slot tx, scheduler.table.entry slot = some tx → tx.status ≠ .pending →
    scheduler.cancelAll.value.2.table.entry slot = some tx
  /-- Exactly the events go whose handle no longer resolves. -/
  events : scheduler.cancelAll.value.2.events = scheduler.events.filter fun event =>
    (scheduler.cancelAll.value.2.get? event.handle).isSome
  /-- No event lacks room, so there is nothing to warn of. -/
  silent : scheduler.cancelAll.entries = []
  /-- Besides the table and the queue only a counter changes. -/
  nothing_else : scheduler.cancelAll.value.2 =
    { scheduler with
      table := scheduler.cancelAll.value.2.table
      events := scheduler.cancelAll.value.2.events
      counters := scheduler.counters.countCancelled
        (UInt32.ofNat scheduler.cancelAll.value.1) }

/-- After every run, also one in which entries were released before their events were
taken, cancelling everything drops the pending entries and the events of what is not in the
table, and leaves all else as it was. -/
theorem clears_after (operations : List Operation) :
    (Scheduler.after {} operations).Clears := by
  have roomy := Roomy.after operations
  generalize Scheduler.after {} operations = scheduler at roomy ⊢
  have cleared := cancelAll_of_roomy roomy
  have all : (fun tx : Transmission => tx.status.isPending && true) =
      fun tx => tx.status.isPending :=
    funext fun tx => Bool.and_true _
  constructor
  · rw [cleared, ← all]
    rfl
  · intro slot
    rw [cleared]
    have removed :
        (scheduler.removePending fun _ => true).2.table.entry slot =
          (scheduler.table.entry slot).filter fun tx => !(tx.status.isPending && true) :=
      entry_removePending
    simp only [Bool.and_true] at removed
    exact removed
  · intro slot tx present notPending
    rw [cleared]
    exact entry_removePending_of_not_pending present notPending
  · rw [cleared]
    rfl
  · rw [cleared]
    rfl
  · rw [cleared]
    rfl

/-- A transmission ended and was released, and its events were not taken: they go, and the
start of the next one stays. -/
example :
    (Scheduler.after {}
      [ .schedule query false, .dispatch PromptWire.mk, .service, .release ⟨0, 1⟩,
        .schedule query true, .dispatch PromptWire.mk, .cancelAll ]).events.map
        (fun event => (event.handle, event.kind)) =
      [(⟨0, 2⟩, .started)] := by
  decide +kernel

end Scheduler

end MapleBus
