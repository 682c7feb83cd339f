import MapleBus.Proofs.Scheduler.Run
import Mathlib.Tactic.ByContra

/-!
# Table and cell in step

At most one transmission occupies the bus, and the completion cell is in use
exactly while one is on the wire.  Each operation keeps this: the table gains
an occupant only when it has none, and the cell is armed for the very
transmission that is marked as sent.
-/

namespace MapleBus.Scheduler

/-- Table and cell agree on the exchange in flight, of which there is at most
one. -/
structure InStep (scheduler : Scheduler) : Prop where
  single : scheduler.table.count (fun tx => tx.status.isOutstanding) ≤ 1
  busy_iff_sent :
    scheduler.completion.phase ≠ .idle ↔
      0 < scheduler.table.count (fun tx => tx.status.isSent)

namespace InStep

variable {scheduler next : Scheduler} {slot other : Slot} {tx otherTx : Transmission}

/-! ## What agreement means for an occupant of the bus -/

theorem slot_eq (inStep : scheduler.InStep)
    (present : scheduler.table.entry slot = some tx)
    (outstanding : tx.status.isOutstanding = true)
    (otherPresent : scheduler.table.entry other = some otherTx)
    (otherOutstanding : otherTx.status.isOutstanding = true) : slot = other :=
  Table.count_le_one_iff.mp inStep.single slot other tx otherTx present outstanding
    otherPresent otherOutstanding

/-- Any two occupants of the bus are one. -/
theorem tx_eq (inStep : scheduler.InStep)
    (present : scheduler.table.entry slot = some tx)
    (outstanding : tx.status.isOutstanding = true)
    (otherPresent : scheduler.table.entry other = some otherTx)
    (otherOutstanding : otherTx.status.isOutstanding = true) : tx = otherTx := by
  have sameSlot : slot = other :=
    inStep.slot_eq present outstanding otherPresent otherOutstanding
  rw [sameSlot, otherPresent] at present
  exact (Option.some.inj present).symm

/-- A search among the occupants of the bus finds the one that qualifies. -/
theorem find?_eq_some (inStep : scheduler.InStep) {condition : Transmission → Bool}
    (narrow : ∀ tx, condition tx = true → tx.status.isOutstanding = true)
    (present : scheduler.table.entry slot = some tx) (holds : condition tx = true) :
    scheduler.table.find? condition = some (⟨slot, tx.id⟩, tx) :=
  Table.find?_eq_some_of_unique present holds fun _ found foundPresent foundHolds =>
    inStep.slot_eq foundPresent (narrow found foundHolds) present (narrow tx holds)

theorem find?_sent (inStep : scheduler.InStep)
    (present : scheduler.table.entry slot = some tx) (sent : tx.status = .sent) :
    scheduler.table.find? (fun tx => tx.status.isSent) = some (⟨slot, tx.id⟩, tx) := by
  apply inStep.find?_eq_some _ present (Status.isSent_iff.mpr sent)
  intro tx isSent
  exact Status.isOutstanding_iff.mpr (Or.inr (Status.isSent_iff.mp isSent))

theorem find?_pending (inStep : scheduler.InStep)
    (present : scheduler.table.entry slot = some tx) (pending : tx.status = .pending) :
    scheduler.table.find? (fun tx => tx.status.isPending) = some (⟨slot, tx.id⟩, tx) := by
  apply inStep.find?_eq_some _ present (Status.isPending_iff.mpr pending)
  intro tx isPending
  exact Status.isOutstanding_iff.mpr (Or.inl (Status.isPending_iff.mp isPending))

theorem outstanding?_eq_some (inStep : scheduler.InStep)
    (present : scheduler.table.entry slot = some tx)
    (outstanding : tx.status.isOutstanding = true) :
    scheduler.outstanding? = some ⟨slot, tx.id⟩ := by
  rw [outstanding?, inStep.find?_eq_some (fun _ holds => holds) present outstanding]
  rfl

/-- While one transmission is on the wire, none is pending. -/
theorem no_pending_of_sent (inStep : scheduler.InStep)
    (present : scheduler.table.entry slot = some tx) (sent : tx.status = .sent) :
    scheduler.table.find? (fun tx => tx.status.isPending) = none := by
  rw [Table.find?_eq_none_iff]
  intro other otherTx otherPresent
  cases isPending : otherTx.status.isPending with
  | false => rfl
  | true =>
      have otherPending : otherTx.status = .pending := Status.isPending_iff.mp isPending
      have same : tx = otherTx := inStep.tx_eq present
        (Status.isOutstanding_iff.mpr (Or.inr sent)) otherPresent
        (Status.isOutstanding_iff.mpr (Or.inl otherPending))
      rw [← same, sent] at otherPending
      contradiction

/-- The cell is in use exactly when some entry is on the wire. -/
theorem busy_iff (inStep : scheduler.InStep) :
    scheduler.completion.phase ≠ .idle ↔
      ∃ slot tx, scheduler.table.entry slot = some tx ∧ tx.status = .sent := by
  rw [inStep.busy_iff_sent, Table.count_pos_iff]
  simp only [Status.isSent_iff]

/-- While a transmission is pending, the cell is idle. -/
theorem idle_of_pending (inStep : scheduler.InStep)
    (present : scheduler.table.entry slot = some tx) (pending : tx.status = .pending) :
    scheduler.completion.phase = .idle := by
  by_contra busy
  obtain ⟨other, otherTx, otherPresent, sent⟩ := inStep.busy_iff.mp busy
  have nothing := inStep.no_pending_of_sent otherPresent sent
  rw [inStep.find?_pending present pending] at nothing
  contradiction

/-! ## Ways to keep in step -/

/-- Agreement in terms of the entries. -/
theorem of_entries
    (unique : ∀ slot other tx otherTx, scheduler.table.entry slot = some tx →
      tx.status.isOutstanding = true → scheduler.table.entry other = some otherTx →
      otherTx.status.isOutstanding = true → slot = other)
    (busy : scheduler.completion.phase ≠ .idle ↔
      ∃ slot tx, scheduler.table.entry slot = some tx ∧ tx.status = .sent) :
    scheduler.InStep where
  single := Table.count_le_one_iff.mpr unique
  busy_iff_sent := by
    rw [busy, Table.count_pos_iff]
    simp only [Status.isSent_iff]

/-- A change that gains no occupant of the bus, keeps what is on the wire and
neither starts nor ends the use of the cell. -/
theorem of_fewer (inStep : scheduler.InStep)
    (phase : next.completion.phase = .idle ↔ scheduler.completion.phase = .idle)
    (kept : ∀ slot tx, next.table.entry slot = some tx →
      tx.status.isOutstanding = true → scheduler.table.entry slot = some tx)
    (sentKept : ∀ slot tx, scheduler.table.entry slot = some tx →
      tx.status = .sent → next.table.entry slot = some tx) : next.InStep := by
  apply of_entries
  · intro slot other tx otherTx present outstanding otherPresent otherOutstanding
    exact inStep.slot_eq (kept slot tx present outstanding) outstanding
      (kept other otherTx otherPresent otherOutstanding) otherOutstanding
  · rw [Ne, phase, ← Ne, inStep.busy_iff]
    constructor
    · rintro ⟨slot, tx, present, sent⟩
      exact ⟨slot, tx, sentKept slot tx present sent, sent⟩
    · rintro ⟨slot, tx, present, sent⟩
      exact ⟨slot, tx, kept slot tx present (Status.isOutstanding_iff.mpr (Or.inr sent)), sent⟩

/-- A change that leaves the table alone and neither starts nor ends the use of
the cell. -/
theorem of_same_table (inStep : scheduler.InStep) (table : next.table = scheduler.table)
    (phase : next.completion.phase = .idle ↔ scheduler.completion.phase = .idle) :
    next.InStep := by
  apply inStep.of_fewer phase
  · intro slot tx present _
    rw [← table]
    exact present
  · intro slot tx present _
    rw [table]
    exact present

/-- A change that puts the only occupant of the bus into a slot. -/
theorem of_put (table : next.table = scheduler.table.put slot tx)
    (alone : ∀ other otherTx, other ≠ slot → scheduler.table.entry other = some otherTx →
      otherTx.status.isOutstanding = false)
    (busy : next.completion.phase ≠ .idle ↔ tx.status = .sent) : next.InStep := by
  have isSlot : ∀ place placeTx, next.table.entry place = some placeTx →
      placeTx.status.isOutstanding = true → place = slot := by
    intro place placeTx present outstanding
    by_contra ne
    rw [table, Table.entry_put_of_ne ne] at present
    rw [alone place placeTx ne present] at outstanding
    contradiction
  have atSlot : next.table.entry slot = some tx := by
    rw [table, Table.entry_put_same]
  apply of_entries
  · intro first second firstTx secondTx present outstanding otherPresent otherOutstanding
    rw [isSlot first firstTx present outstanding,
      isSlot second secondTx otherPresent otherOutstanding]
  · rw [busy]
    constructor
    · intro sent
      exact ⟨slot, tx, atSlot, sent⟩
    · rintro ⟨place, placeTx, present, sent⟩
      have placeEq : place = slot :=
        isSlot place placeTx present (Status.isOutstanding_iff.mpr (Or.inr sent))
      rw [placeEq, atSlot] at present
      rw [Option.some.inj present]
      exact sent

/-- The other entries are no occupants of the bus when one is. -/
theorem alone (inStep : scheduler.InStep)
    (present : scheduler.table.entry slot = some tx)
    (outstanding : tx.status.isOutstanding = true) :
    ∀ other otherTx, other ≠ slot → scheduler.table.entry other = some otherTx →
      otherTx.status.isOutstanding = false := by
  intro other otherTx ne otherPresent
  cases isOutstanding : otherTx.status.isOutstanding with
  | false => rfl
  | true =>
      exact absurd (inStep.slot_eq otherPresent isOutstanding present outstanding) ne

/-! ## What the operations keep -/

theorem empty : InStep {} := by
  apply of_entries
  · intro slot other tx otherTx present
    simp at present
  · simp [Completion.phase]

theorem schedule (inStep : scheduler.InStep) (packet : Packet) (expectsReply : Bool) :
    (scheduler.schedule packet expectsReply).value.2.InStep := by
  cases busy : scheduler.outstanding? with
  | some handle =>
      rw [schedule_of_outstanding busy]
      exact inStep.of_same_table rfl Iff.rfl
  | none =>
      cases free : scheduler.table.free? with
      | none =>
          rw [schedule_of_full busy free]
          exact inStep
      | some slot =>
          have vacant := outstanding?_eq_none_iff.mp busy
          rw [schedule_of_free busy free]
          apply of_put rfl
          · intro other otherTx _ present
            exact vacant other otherTx present
          · -- Nothing is on the wire, so the cell is idle, as it has to be.
            change scheduler.completion.phase ≠ .idle ↔ Status.pending = .sent
            rw [inStep.busy_iff]
            constructor
            · rintro ⟨other, otherTx, present, sent⟩
              have settled := vacant other otherTx present
              rw [sent] at settled
              contradiction
            · intro impossible
              contradiction

theorem dispatch {W : Type} [Wire W] (inStep : scheduler.InStep) (wire : W) :
    (scheduler.dispatch wire).value.2.1.InStep := by
  cases search : scheduler.table.find? (fun tx => tx.status.isPending) with
  | none =>
      rw [dispatch_of_no_pending search]
      exact inStep
  | some found =>
      obtain ⟨handle, tx⟩ := found
      obtain ⟨present, -, isPending⟩ := Table.of_find?_eq_some search
      have pending : tx.status = .pending := Status.isPending_iff.mp isPending
      cases answer : (offer wire tx).result with
      | error refusal =>
          rw [dispatch_of_refusal search answer]
          refine inStep.of_same_table rfl ?_
          simp [inStep.idle_of_pending present pending]
      | ok _ =>
          rw [dispatch_of_acceptance search answer]
          apply of_put rfl
          · exact inStep.alone present (Status.isOutstanding_iff.mpr (Or.inl pending))
          · simp [engage]

/-- An outcome finds the transmission it speaks of. -/
theorem find?_of_done (inStep : scheduler.InStep)
    (done : scheduler.completion.phase = .done) :
    ∃ handle tx, scheduler.table.find? (fun tx => tx.status.isSent) = some (handle, tx) := by
  have busy : scheduler.completion.phase ≠ .idle := by simp [done]
  obtain ⟨slot, tx, present, sent⟩ := inStep.busy_iff.mp busy
  exact ⟨⟨slot, tx.id⟩, tx, inStep.find?_sent present sent⟩

/-- Every ruling ends a transmission. -/
theorem isTerminal_verdict (expectsReply : Bool) (outcome : Outcome) (bytes : List UInt8) :
    (verdict expectsReply outcome bytes).1.isTerminal = true := by
  unfold verdict
  repeat' split
  all_goals rfl

theorem service (inStep : scheduler.InStep) : scheduler.service.value.InStep := by
  by_cases done : scheduler.completion.phase = .done
  · obtain ⟨handle, tx, found⟩ := inStep.find?_of_done done
    obtain ⟨present, -, isSent⟩ := Table.of_find?_eq_some found
    have sent : tx.status = .sent := Status.isSent_iff.mp isSent
    have terminal : (scheduler.ruling tx).1.isTerminal = true := isTerminal_verdict _ _ _
    rw [service_of_outcome done found]
    apply of_put rfl
    · exact inStep.alone present (Status.isOutstanding_iff.mpr (Or.inr sent))
    · have idle : scheduler.harvested.completion.phase = .idle := by
        change (scheduler.completion.registers.harvest scheduler.receiveBuffer).2.phase = _
        rw [Completion.Registers.harvest_of_done done]
        rfl
      constructor
      · intro busy
        exact absurd idle busy
      · intro stillSent
        exact absurd stillSent (Status.isTerminal_iff.mp terminal).2
  · obtain ⟨lock, served⟩ := service_of_waiting done
    rw [served]
    exact inStep.of_same_table rfl Iff.rfl

theorem release (inStep : scheduler.InStep) (handle : Handle) :
    (scheduler.release handle).2.InStep := by
  rcases release_cases scheduler handle with ⟨gone, found, terminal, released⟩ | ⟨-, kept⟩
  · obtain ⟨atSlot, -⟩ := Table.get?_eq_some_iff.mp found
    rw [released]
    refine inStep.of_fewer Iff.rfl ?_ ?_
    · intro slot tx present _
      by_cases same : slot = handle.slot
      · rw [same, Table.entry_vacate_same] at present
        contradiction
      · rwa [Table.entry_vacate_of_ne same] at present
    · intro slot tx present sent
      by_cases same : slot = handle.slot
      · rw [same, atSlot] at present
        rw [Option.some.inj present, sent] at terminal
        contradiction
      · rwa [Table.entry_vacate_of_ne same]
  · rw [kept]
    exact inStep

theorem removePending (inStep : scheduler.InStep) (condition : Transmission → Bool) :
    (scheduler.removePending condition).2.InStep := by
  refine inStep.of_fewer Iff.rfl ?_ ?_
  · intro slot tx present _
    exact entry_of_entry_removePending present
  · intro slot tx present sent
    exact entry_removePending_of_not_pending present (by simp [sent])

theorem cancelAll (inStep : scheduler.InStep) : scheduler.cancelAll.value.2.InStep :=
  (inStep.removePending fun _ => true).of_same_table rfl Iff.rfl

theorem signal (inStep : scheduler.InStep) (signal : Signal) :
    (scheduler.signal signal).2.InStep :=
  inStep.of_same_table rfl (Completion.phase_signal_eq_idle_iff _ signal)

/-- Every operation keeps table and cell in step. -/
theorem perform (inStep : scheduler.InStep) (operation : Operation) :
    (scheduler.perform operation).value.InStep := by
  cases operation with
  | schedule packet expectsReply => exact inStep.schedule packet expectsReply
  | dispatch wire => exact inStep.dispatch wire
  | service => exact inStep.service
  | nextEvent =>
      change scheduler.nextEvent.2.InStep
      rw [nextEvent_eq]
      exact inStep.of_same_table rfl Iff.rfl
  | release handle => exact inStep.release handle
  | cancel handle => exact inStep.removePending _
  | cancelByRecipient recipient => exact inStep.removePending _
  | cancelAll => exact inStep.cancelAll
  | signal signal => exact inStep.signal signal
  | askArmed => exact inStep.of_same_table rfl Iff.rfl

/-- Table and cell are in step after every run. -/
theorem after (operations : List Operation) : (Scheduler.after {} operations).InStep :=
  after_induction empty (fun inStep => inStep.perform) operations

end InStep

end MapleBus.Scheduler
