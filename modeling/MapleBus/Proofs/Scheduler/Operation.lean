import MapleBus.Scheduler

/-!
# What each operation does to a scheduler

One equation for each way an operation can go.  They speak of the scheduler
alone, so later arguments split on the guard of an operation and never open
its definition.
-/

namespace MapleBus.Scheduler

variable {scheduler : Scheduler} {handle : Handle} {tx : Transmission} {slot : Slot}

/-! ## Searching -/

/-- A pending transmission that a search finds is known, and has not ended. -/
theorem known_of_pending
    (search : scheduler.table.find? (fun tx => tx.status.isPending) = some (handle, tx)) :
    scheduler.get? handle = some tx ∧ tx.status = .pending ∧
      tx.status.isTerminal = false := by
  obtain ⟨present, id, isPending⟩ := Table.of_find?_eq_some search
  have pending : tx.status = .pending := Status.isPending_iff.mp isPending
  exact ⟨Table.get?_eq_some_iff.mpr ⟨present, id⟩, pending, by rw [pending]; rfl⟩

/-- A transmission on the wire that a search finds is known, and has not
ended. -/
theorem known_of_sent
    (search : scheduler.table.find? (fun tx => tx.status.isSent) = some (handle, tx)) :
    scheduler.get? handle = some tx ∧ tx.status = .sent ∧
      tx.status.isTerminal = false := by
  obtain ⟨present, id, isSent⟩ := Table.of_find?_eq_some search
  have sent : tx.status = .sent := Status.isSent_iff.mp isSent
  exact ⟨Table.get?_eq_some_iff.mpr ⟨present, id⟩, sent, by rw [sent]; rfl⟩

/-! ## Accepting work -/

theorem outstanding?_eq_none_iff :
    scheduler.outstanding? = none ↔
      ∀ slot tx, scheduler.table.entry slot = some tx → tx.status.isOutstanding = false := by
  rw [outstanding?, Option.map_eq_none_iff, Table.find?_eq_none_iff]

theorem schedule_of_outstanding (busy : scheduler.outstanding? = some handle)
    (packet : Packet) (expectsReply : Bool) :
    (scheduler.schedule packet expectsReply).value =
      (.error .busBusy,
        { scheduler with counters := scheduler.counters.countRejectedBusy }) := by
  rw [schedule, busy]
  rfl

theorem schedule_of_full (quiet : scheduler.outstanding? = none)
    (full : scheduler.table.free? = none) (packet : Packet) (expectsReply : Bool) :
    (scheduler.schedule packet expectsReply).value = (.error .tableFull, scheduler) := by
  rw [schedule, quiet, full]
  rfl

/-- The transmission that is put into the table when work is accepted. -/
def newcomer (scheduler : Scheduler) (packet : Packet) (expectsReply : Bool) :
    Transmission :=
  { id := scheduler.nextId, packet, expectsReply }

theorem schedule_of_free (quiet : scheduler.outstanding? = none)
    (free : scheduler.table.free? = some slot) (packet : Packet) (expectsReply : Bool) :
    (scheduler.schedule packet expectsReply).value =
      (.ok ⟨slot, scheduler.nextId⟩,
        { scheduler with
          table := scheduler.table.put slot (scheduler.newcomer packet expectsReply)
          nextId := idAfter scheduler.nextId
          counters := scheduler.counters.countScheduled }) := by
  rw [schedule, quiet, free]
  rfl

theorem completion_schedule (packet : Packet) (expectsReply : Bool) :
    (scheduler.schedule packet expectsReply).value.2.completion = scheduler.completion := by
  cases busy : scheduler.outstanding? with
  | some _ => rw [schedule_of_outstanding busy]
  | none =>
      cases free : scheduler.table.free? with
      | none => rw [schedule_of_full busy free]
      | some _ => rw [schedule_of_free busy free]

/-! ## Sending -/

section Dispatch

variable {W : Type} [Wire W]

/-- Without a pending transmission the wire is not consulted. -/
theorem dispatch_of_no_pending
    (nothing : scheduler.table.find? (fun tx => tx.status.isPending) = none) (wire : W) :
    scheduler.dispatch wire = pure (none, scheduler, wire) := by
  rw [dispatch, nothing]

/-- What the wire makes of the frame of a transmission. -/
def offer (wire : W) (tx : Transmission) : Wire.Attempt W :=
  Wire.transmit wire tx.packet.encode tx.expectsReply

/-- The cell after the signals of an attempt to transmit. -/
def engage (scheduler : Scheduler) (wire : W) (tx : Transmission) : Completion :=
  (scheduler.completion.arm tx.expectsReply).callOut.signals (offer wire tx).signals

theorem dispatch_of_refusal {wire : W} {refusal : BusError}
    (pending : scheduler.table.find? (fun tx => tx.status.isPending) = some (handle, tx))
    (refused : (offer wire tx).result = .error refusal) :
    (scheduler.dispatch wire).value =
      (none, { scheduler with completion := (scheduler.engage wire tx).disarm },
        (offer wire tx).wire) := by
  rw [offer] at refused
  rw [dispatch, pending]
  simp only [Wire.call, refused]
  rfl

/-- The event that tells of a transmission's start. -/
def startOf (handle : Handle) (tx : Transmission) : Event :=
  { handle, recipient := tx.recipient, kind := .started }

theorem dispatch_of_acceptance {wire : W}
    (pending : scheduler.table.find? (fun tx => tx.status.isPending) = some (handle, tx))
    (accepted : (offer wire tx).result = .ok ()) :
    (scheduler.dispatch wire).value =
      (some handle,
        { scheduler with
          table := scheduler.table.put handle.slot { tx with status := .sent }
          completion := scheduler.engage wire tx
          counters := scheduler.counters.countDispatched
          events := (Event.enqueue scheduler.events (startOf handle tx)).value },
        (offer wire tx).wire) := by
  obtain ⟨-, isPending, -⟩ := known_of_pending pending
  rw [offer] at accepted
  rw [dispatch, pending]
  simp only [Wire.call, accepted, Transmission.markSent_of_pending isPending]
  rfl

end Dispatch

/-! ## Settling -/

/-- While the cell has no outcome, nothing but the lock is used. -/
theorem service_of_waiting (waiting : scheduler.completion.phase ≠ .done) :
    ∃ lock, scheduler.service =
      pure { scheduler with completion := { scheduler.completion with lock } } := by
  refine ⟨(scheduler.completion.harvest scheduler.receiveBuffer).2.lock, ?_⟩
  simp only [service, Completion.harvest, Completion.exclusively, Lock.guarded,
    Completion.Registers.harvest_of_waiting waiting]

/-- What the cell says about a transmission, and why its reply could not be
read. -/
def ruling (scheduler : Scheduler) (tx : Transmission) : Status × Option CodecError :=
  let registers := scheduler.completion.registers
  verdict tx.expectsReply registers.outcome (registers.reply.read registers.replyLength)

/-- The event that tells of a transmission's end. -/
def endOf (handle : Handle) (tx : Transmission) (status : Status) : Event :=
  { handle, recipient := tx.recipient, kind := endKind status }

/-- The counters after a ruling. -/
def countRuling (counters : Counters) (ruling : Status × Option CodecError) : Counters :=
  countEnd (if ruling.2.isSome then counters.countDecodeFailure else counters) ruling.1

/-- The scheduler once the outcome in its cell has been taken. -/
def harvested (scheduler : Scheduler) : Scheduler :=
  let harvest := scheduler.completion.harvest scheduler.receiveBuffer
  { scheduler with completion := harvest.2, receiveBuffer := harvest.1.2 }

/-- With an outcome in the cell, the exchange on the wire is settled. -/
theorem service_eq_settle (done : scheduler.completion.phase = .done)
    (sent : scheduler.table.find? (fun tx => tx.status.isSent) = some (handle, tx)) :
    scheduler.service =
      scheduler.harvested.settle handle tx scheduler.completion.registers.outcome := by
  have taken := Completion.Registers.harvest_of_done done scheduler.receiveBuffer
  simp only [service, harvested, Completion.harvest, Completion.exclusively, Lock.guarded,
    taken, sent]

/-- The harvested bytes are those of the cell, whatever the buffer held. -/
theorem verdict_harvested (done : scheduler.completion.phase = .done)
    (tx : Transmission) :
    verdict tx.expectsReply scheduler.completion.registers.outcome
        (scheduler.harvested.receiveBuffer.read
          scheduler.completion.registers.outcome.replyLength) =
      scheduler.ruling tx := by
  have taken := Completion.Registers.harvest_of_done done scheduler.receiveBuffer
  have copied := FrameBuffer.read_store_take scheduler.receiveBuffer
    scheduler.completion.registers.reply scheduler.completion.registers.replyLength
  simp only [harvested, Completion.fst_harvest, taken, Completion.Registers.outcome, copied]
  rfl

theorem service_of_outcome (done : scheduler.completion.phase = .done)
    (sent : scheduler.table.find? (fun tx => tx.status.isSent) = some (handle, tx)) :
    scheduler.service.value =
      { scheduler.harvested with
        table :=
          scheduler.table.put handle.slot { tx with status := (scheduler.ruling tx).1 }
        counters := countRuling scheduler.counters (scheduler.ruling tx)
        events :=
          (Event.enqueue scheduler.events
            (endOf handle tx (scheduler.ruling tx).1)).value } := by
  obtain ⟨-, isSent, -⟩ := known_of_sent sent
  have finished := Transmission.finish_of_sent isSent
  rw [service_eq_settle done sent]
  simp only [settle, verdict_harvested done, finished, Logged.value_bind]
  rfl

/-- Settling notes an unreadable reply, the end itself, and what appending its
event notes. -/
theorem mem_entries_settle {outcome : Outcome} {entry : Log.Entry}
    (noted : entry ∈ (scheduler.settle handle tx outcome).entries) :
    (entry.level = .debug ∧ entry.message = "reply did not decode") ∨
    (entry.level = .trace ∧ entry.message = "transmission settled") ∨
    ∃ event, entry ∈ (Event.enqueue scheduler.events event).entries := by
  unfold settle at noted
  generalize verdict tx.expectsReply outcome
    (scheduler.receiveBuffer.read outcome.replyLength) = ruling at noted
  obtain ⟨status, unreadable⟩ := ruling
  cases unreadable with
  | none =>
      simp only [push, Option.forM_eq_forM, Option.forM_none, Logged.entries_bind,
        Logged.entries_note, Logged.entries_pure, List.append_nil, List.mem_append,
        List.mem_singleton, List.not_mem_nil, false_or] at noted
      rcases noted with rfl | appended
      · exact Or.inr (Or.inl ⟨rfl, rfl⟩)
      · exact Or.inr (Or.inr ⟨_, appended⟩)
  | some cause =>
      simp only [push, Option.forM_eq_forM, Option.forM_some, Logged.entries_bind,
        Logged.entries_note, Logged.entries_pure, List.append_nil, List.mem_append,
        List.mem_singleton] at noted
      rcases noted with rfl | rfl | appended
      · exact Or.inl ⟨rfl, rfl⟩
      · exact Or.inr (Or.inl ⟨rfl, rfl⟩)
      · exact Or.inr (Or.inr ⟨_, appended⟩)

/-! ## Delivering and forgetting -/

theorem nextEvent_eq (scheduler : Scheduler) :
    scheduler.nextEvent =
      (scheduler.events.head?, { scheduler with events := scheduler.events.tail }) := by
  obtain ⟨table, events, completion, receiveBuffer, nextId, counters⟩ := scheduler
  cases events <;> rfl

/-- What has ended can be removed, and nothing else can. -/
theorem release_cases (scheduler : Scheduler) (handle : Handle) :
    (∃ tx, scheduler.get? handle = some tx ∧ tx.status.isTerminal = true ∧
      scheduler.release handle =
        (some tx, { scheduler with table := scheduler.table.vacate handle.slot })) ∨
    ((∀ tx, scheduler.get? handle = some tx → tx.status.isTerminal = false) ∧
      scheduler.release handle = (none, scheduler)) := by
  cases found : scheduler.get? handle with
  | none => simp [release, found]
  | some tx =>
      cases terminal : tx.status.isTerminal with
      | true =>
          have released : scheduler.release handle =
              (some tx, { scheduler with table := scheduler.table.vacate handle.slot }) := by
            simp [release, found, Option.filter_some, terminal]
          exact Or.inl ⟨tx, rfl, terminal, released⟩
      | false =>
          right
          constructor
          · rintro _ ⟨⟩
            exact terminal
          · simp [release, found, Option.filter_some, terminal]

theorem release_of_terminal (found : scheduler.get? handle = some tx)
    (terminal : tx.status.isTerminal = true) :
    scheduler.release handle =
      (some tx, { scheduler with table := scheduler.table.vacate handle.slot }) := by
  rcases release_cases scheduler handle with ⟨gone, goneFound, -, released⟩ | ⟨unended, -⟩
  · rw [found] at goneFound
    rw [released, Option.some.inj goneFound]
  · rw [unended tx found] at terminal
    contradiction

/-- What a cancellation removes is pending. -/
theorem entry_removePending {condition : Transmission → Bool} :
    (scheduler.removePending condition).2.table.entry slot =
      (scheduler.table.entry slot).filter fun tx => !(tx.status.isPending && condition tx) :=
  Table.entry_filter

theorem entry_of_entry_removePending {condition : Transmission → Bool}
    (present : (scheduler.removePending condition).2.table.entry slot = some tx) :
    scheduler.table.entry slot = some tx := by
  rw [entry_removePending, Option.filter_eq_some_iff] at present
  exact present.1

theorem entry_removePending_of_not_pending {condition : Transmission → Bool}
    (present : scheduler.table.entry slot = some tx) (notPending : tx.status ≠ .pending) :
    (scheduler.removePending condition).2.table.entry slot = some tx := by
  have spared : tx.status.isPending = false := by
    rw [← Bool.not_eq_true, Status.isPending_iff]
    exact notPending
  simp [entry_removePending, present, spared]

/-- A cancellation shows nothing that was not known. -/
theorem get?_of_get?_removePending {condition : Transmission → Bool}
    (found : (scheduler.removePending condition).2.get? handle = some tx) :
    scheduler.get? handle = some tx := by
  obtain ⟨present, id⟩ := Table.get?_eq_some_iff.mp found
  exact Table.get?_eq_some_iff.mpr ⟨entry_of_entry_removePending present, id⟩

/-- A cancellation leaves what is not pending. -/
theorem get?_removePending_of_not_pending {condition : Transmission → Bool}
    (found : scheduler.get? handle = some tx) (notPending : tx.status ≠ .pending) :
    (scheduler.removePending condition).2.get? handle = some tx := by
  obtain ⟨present, id⟩ := Table.get?_eq_some_iff.mp found
  exact Table.get?_eq_some_iff.mpr
    ⟨entry_removePending_of_not_pending present notPending, id⟩

end MapleBus.Scheduler
