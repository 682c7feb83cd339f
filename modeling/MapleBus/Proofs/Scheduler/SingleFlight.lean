import MapleBus.Proofs.Scheduler.InStep

/-!
# One exchange at a time

What a scheduler guarantees between any two operations of any run: one
transmission at most occupies the bus, the wire is left alone while an
exchange is on it, signals and outcomes concern that exchange, and new work is
accepted exactly when nothing occupies the bus and there is room.
-/

namespace MapleBus.Scheduler

variable {scheduler : Scheduler} {handle : Handle} {tx : Transmission}

/-- The note of an outcome that speaks of no transmission. -/
def strayOutcomeNote : String :=
  "completion with nothing in flight, ignoring"

/-- The guarantees of a scheduler between two operations. -/
structure SingleFlight (scheduler : Scheduler) : Prop where
  /-- At most one entry is pending or on the wire. -/
  outstanding_le_one : scheduler.table.count (fun tx => tx.status.isOutstanding) ≤ 1
  /-- The cell is in use exactly while some entry is on the wire. -/
  busy_iff_sent :
    scheduler.completion.phase ≠ .idle ↔
      0 < scheduler.table.count (fun tx => tx.status.isSent)
  /-- While an exchange is on the wire, nothing is handed to any wire. -/
  no_transmit_while_sent : ∀ {W : Type} [Wire W] (wire : W),
    0 < scheduler.table.count (fun tx => tx.status.isSent) →
      scheduler.dispatch wire = pure (none, scheduler, wire)
  /-- The cell is free when a frame is handed to a wire, so the signals raised
  meanwhile find the cell armed for that frame alone. -/
  idle_before_transmit : ∀ handle tx,
    scheduler.table.find? (fun tx => tx.status.isPending) = some (handle, tx) →
      scheduler.completion.phase = .idle
  /-- A signal is accepted only while an exchange is on the wire. -/
  sent_of_signal : ∀ signal, (scheduler.signal signal).1 = true →
    0 < scheduler.table.count (fun tx => tx.status.isSent)
  /-- An outcome that is harvested ends the exchange on the wire at once. -/
  service_settles : ∀ outcome,
    (scheduler.completion.harvest scheduler.receiveBuffer).1.1 = some outcome →
      ∃ handle tx status,
        scheduler.table.find? (fun tx => tx.status.isSent) = some (handle, tx) ∧
        status.isTerminal = true ∧
        scheduler.service.value.table =
          scheduler.table.put handle.slot { tx with status }
  /-- No outcome is without a transmission. -/
  no_stray_outcome :
    ∀ entry ∈ scheduler.service.entries, entry.message ≠ strayOutcomeNote
  /-- Work is accepted exactly when nothing occupies the bus and there is
  room. -/
  schedule_accepts_iff : ∀ packet expectsReply,
    (∃ handle, (scheduler.schedule packet expectsReply).value.1 = .ok handle) ↔
      scheduler.table.count (fun tx => tx.status.isOutstanding) = 0 ∧
        ∃ slot, scheduler.table.entry slot = none
  /-- A refusal changes nothing, except that being busy is counted. -/
  schedule_refuses : ∀ packet expectsReply refusal,
    (scheduler.schedule packet expectsReply).value.1 = .error refusal →
      (refusal = .busBusy ∧
        (scheduler.schedule packet expectsReply).value.2 =
          { scheduler with counters := scheduler.counters.countRejectedBusy }) ∨
      (refusal = .tableFull ∧
        (scheduler.schedule packet expectsReply).value.2 = scheduler)

namespace InStep

/-- A scheduler in step never meets an outcome that speaks of no
transmission. -/
theorem no_stray_outcome (inStep : scheduler.InStep) :
    ∀ entry ∈ scheduler.service.entries, entry.message ≠ strayOutcomeNote := by
  intro entry noted
  by_cases done : scheduler.completion.phase = .done
  · obtain ⟨handle, tx, found⟩ := inStep.find?_of_done done
    rw [service_eq_settle done found] at noted
    rcases mem_entries_settle noted with ⟨-, message⟩ | ⟨-, message⟩ | ⟨event, appended⟩
    · rw [message]
      decide
    · rw [message]
      decide
    · rw [Event.message_of_mem_enqueue appended]
      decide
  · obtain ⟨lock, served⟩ := service_of_waiting done
    rw [served] at noted
    simp at noted

/-- A scheduler in step settles the exchange on the wire with every outcome it
harvests. -/
theorem service_settles (inStep : scheduler.InStep) {outcome : Outcome}
    (harvest : (scheduler.completion.harvest scheduler.receiveBuffer).1.1 = some outcome) :
    ∃ handle tx status,
      scheduler.table.find? (fun tx => tx.status.isSent) = some (handle, tx) ∧
      status.isTerminal = true ∧
      scheduler.service.value.table =
        scheduler.table.put handle.slot { tx with status } := by
  have done : scheduler.completion.phase = .done := by
    by_contra waiting
    rw [Completion.fst_harvest, Completion.Registers.harvest_of_waiting waiting] at harvest
    contradiction
  obtain ⟨handle, tx, found⟩ := inStep.find?_of_done done
  refine ⟨handle, tx, (scheduler.ruling tx).1, found, isTerminal_verdict _ _ _, ?_⟩
  rw [service_of_outcome done found]

theorem idle_of_search (inStep : scheduler.InStep)
    (search : scheduler.table.find? (fun tx => tx.status.isPending) = some (handle, tx)) :
    scheduler.completion.phase = .idle := by
  obtain ⟨present, -, isPending⟩ := Table.of_find?_eq_some search
  exact inStep.idle_of_pending present (Status.isPending_iff.mp isPending)

/-- While an exchange is on the wire, a scheduler in step hands nothing to
it. -/
theorem dispatch_of_sent {W : Type} [Wire W] (inStep : scheduler.InStep)
    (sent : 0 < scheduler.table.count fun tx => tx.status.isSent) (wire : W) :
    scheduler.dispatch wire = pure (none, scheduler, wire) := by
  obtain ⟨slot, tx, present, isSent⟩ := Table.count_pos_iff.mp sent
  exact dispatch_of_no_pending
    (inStep.no_pending_of_sent present (Status.isSent_iff.mp isSent)) wire

end InStep

theorem schedule_accepts_iff (scheduler : Scheduler) (packet : Packet)
    (expectsReply : Bool) :
    (∃ handle, (scheduler.schedule packet expectsReply).value.1 = .ok handle) ↔
      scheduler.table.count (fun tx => tx.status.isOutstanding) = 0 ∧
        ∃ slot, scheduler.table.entry slot = none := by
  rw [Table.count_eq_zero_iff, ← outstanding?_eq_none_iff]
  cases busy : scheduler.outstanding? with
  | some handle => simp [schedule_of_outstanding busy]
  | none =>
      cases free : scheduler.table.free? with
      | none =>
          have full := Table.free?_eq_none_iff.mp free
          simp [schedule_of_full busy free, full]
      | some slot =>
          have vacant := Table.entry_of_free?_eq_some free
          simp only [schedule_of_free busy free, true_and]
          exact ⟨fun _ => ⟨slot, vacant⟩, fun _ => ⟨_, rfl⟩⟩

theorem schedule_refuses (scheduler : Scheduler) {packet : Packet} {expectsReply : Bool}
    {refusal : BusError}
    (refused : (scheduler.schedule packet expectsReply).value.1 = .error refusal) :
    (refusal = .busBusy ∧
      (scheduler.schedule packet expectsReply).value.2 =
        { scheduler with counters := scheduler.counters.countRejectedBusy }) ∨
    (refusal = .tableFull ∧
      (scheduler.schedule packet expectsReply).value.2 = scheduler) := by
  cases busy : scheduler.outstanding? with
  | some handle =>
      rw [schedule_of_outstanding busy] at refused ⊢
      exact Or.inl ⟨(Except.error.inj refused).symm, rfl⟩
  | none =>
      cases free : scheduler.table.free? with
      | none =>
          rw [schedule_of_full busy free] at refused ⊢
          exact Or.inr ⟨(Except.error.inj refused).symm, rfl⟩
      | some slot =>
          rw [schedule_of_free busy free] at refused
          contradiction

/-- Whatever the order of its operations and of the wire's signals, a scheduler
has one exchange at a time. -/
theorem singleFlight_after (operations : List Operation) :
    SingleFlight (Scheduler.after {} operations) := by
  have inStep : (Scheduler.after {} operations).InStep := InStep.after operations
  exact {
    outstanding_le_one := inStep.single
    busy_iff_sent := inStep.busy_iff_sent
    no_transmit_while_sent := fun wire sent => inStep.dispatch_of_sent sent wire
    idle_before_transmit := fun _ _ search => inStep.idle_of_search search
    sent_of_signal := fun _ accepted =>
      inStep.busy_iff_sent.mp (Completion.Registers.phase_ne_idle_of_receive accepted)
    service_settles := fun _ harvest => inStep.service_settles harvest
    no_stray_outcome := inStep.no_stray_outcome
    schedule_accepts_iff := schedule_accepts_iff _
    schedule_refuses := fun _ _ _ refused => schedule_refuses _ refused
  }

end MapleBus.Scheduler
