import MapleBus.Proofs.Scheduler.InStep

/-!
# Tidy schedulers

A scheduler is tidy when nothing waits to be told and everything it knows is
still outstanding.  Table and cell being in step, it then knows one
transmission at most, its occupant, and every operation can be said in terms
of the occupant alone.
-/

namespace MapleBus.Scheduler

/-- The first transmission in the table. -/
def occupant? (scheduler : Scheduler) : Option Transmission :=
  scheduler.table.toList.head?

/-- The pending transmissions that satisfy a condition. -/
def doomed (scheduler : Scheduler) (condition : Transmission → Bool) : List Transmission :=
  scheduler.table.toList.filter fun tx => tx.status.isPending && condition tx

/-- A way to cancel pending work. -/
inductive Cancellation where
  | single (handle : Handle)
  | addressedTo (recipient : Address)
  | everything
  deriving DecidableEq, Repr

/-- What a cancellation is meant for. -/
def Cancellation.concerns : Cancellation → Transmission → Bool
  | single handle, tx => tx.id == handle.id
  | addressedTo recipient, tx => tx.recipient == recipient
  | everything, _ => true

/-- Cancel pending work. -/
def withdraw (scheduler : Scheduler) : Cancellation → Scheduler
  | .single handle => (scheduler.cancel handle).2
  | .addressedTo recipient => (scheduler.cancelByRecipient recipient).2
  | .everything => scheduler.cancelAll.value.2

/-- Nothing waits to be told, and everything in the table is outstanding and in its
first place. -/
structure Tidy (scheduler : Scheduler) : Prop where
  inStep : scheduler.InStep
  events_eq_nil : scheduler.events = []
  outstanding : ∀ slot tx, scheduler.table.entry slot = some tx →
    tx.status.isOutstanding = true
  first : ∀ slot tx, scheduler.table.entry slot = some tx → slot = 0

namespace Tidy

variable {scheduler next : Scheduler} {slot : Slot} {handle : Handle} {tx : Transmission}

theorem empty : Tidy {} where
  inStep := InStep.empty
  events_eq_nil := rfl
  outstanding := by simp
  first := by simp

/-! ## The occupant -/

/-- Everything in the table counts as an occupant of the bus. -/
theorem length_le_one (tidy : scheduler.Tidy) : scheduler.table.toList.length ≤ 1 := by
  have all : scheduler.table.count (fun tx => tx.status.isOutstanding) =
      scheduler.table.toList.length := by
    rw [Table.count, List.countP_eq_length]
    intro tx mem
    obtain ⟨slot, present⟩ := Table.mem_toList_iff.mp mem
    exact tidy.outstanding slot tx present
  rw [← all]
  exact tidy.inStep.single

theorem toList_eq (tidy : scheduler.Tidy) :
    scheduler.table.toList = scheduler.occupant?.toList := by
  have short := tidy.length_le_one
  rw [occupant?]
  cases known : scheduler.table.toList with
  | nil => rfl
  | cons tx rest =>
      have nothing : rest = [] := by simpa [known] using short
      rw [nothing]
      rfl

theorem occupant?_eq_some_iff (tidy : scheduler.Tidy) :
    scheduler.occupant? = some tx ↔ ∃ slot, scheduler.table.entry slot = some tx := by
  rw [← Table.mem_toList_iff, tidy.toList_eq, Option.mem_toList]

theorem occupant?_of_entry (tidy : scheduler.Tidy)
    (present : scheduler.table.entry slot = some tx) : scheduler.occupant? = some tx :=
  tidy.occupant?_eq_some_iff.mpr ⟨slot, present⟩

theorem status_occupant (tidy : scheduler.Tidy) (occupied : scheduler.occupant? = some tx) :
    tx.status = .pending ∨ tx.status = .sent := by
  obtain ⟨slot, present⟩ := tidy.occupant?_eq_some_iff.mp occupied
  exact Status.isOutstanding_iff.mp (tidy.outstanding slot tx present)

theorem entry_eq_none (vacant : scheduler.occupant? = none) (slot : Slot) :
    scheduler.table.entry slot = none := by
  have nothing : scheduler.table.toList = [] := List.head?_eq_none_iff.mp vacant
  cases present : scheduler.table.entry slot with
  | none => rfl
  | some tx =>
      have mem := Table.mem_toList_iff.mpr ⟨slot, present⟩
      rw [nothing] at mem
      contradiction

theorem occupant?_of_empty (empty : ∀ slot, scheduler.table.entry slot = none) :
    scheduler.occupant? = none := by
  rw [occupant?, List.head?_eq_none_iff, List.eq_nil_iff_forall_not_mem]
  intro tx mem
  obtain ⟨slot, present⟩ := Table.mem_toList_iff.mp mem
  rw [empty] at present
  contradiction

/-- The doomed are the occupant, if it is pending and satisfies the condition. -/
theorem doomed_eq (tidy : scheduler.Tidy) (condition : Transmission → Bool) :
    scheduler.doomed condition =
      (scheduler.occupant?.filter fun tx => tx.status.isPending && condition tx).toList := by
  rw [doomed, tidy.toList_eq]
  cases scheduler.occupant? with
  | none => rfl
  | some tx =>
      rw [Option.filter_some, Option.toList_some, List.filter_cons, List.filter_nil]
      split <;> rfl

/-- Nothing waits to be told, so there is room for the next event. -/
theorem room (tidy : scheduler.Tidy) : scheduler.events.length < Event.queueCapacity := by
  rw [tidy.events_eq_nil]
  decide

/-- The status behind a handle to the first place is that of the occupant. -/
theorem status?_eq (tidy : scheduler.Tidy) (first : handle.slot = 0) :
    scheduler.status? handle =
      (scheduler.occupant?.filter fun tx => tx.id == handle.id).map Transmission.status := by
  have atFirst : scheduler.table.entry 0 = scheduler.occupant? := by
    apply Option.ext
    intro tx
    rw [tidy.occupant?_eq_some_iff]
    constructor
    · exact fun present => ⟨0, present⟩
    · rintro ⟨slot, present⟩
      rw [tidy.first slot tx present] at present
      exact present
  rw [status?, get?, Table.get?, first, atFirst]

/-- The transmission behind a handle to the first place is outstanding exactly while it
is the occupant. -/
theorem any_isOutstanding (tidy : scheduler.Tidy) (first : handle.slot = 0) :
    (scheduler.status? handle).any Status.isOutstanding =
      scheduler.occupant?.any fun tx => tx.id == handle.id := by
  rw [tidy.status?_eq first]
  cases occupied : scheduler.occupant? with
  | none => rfl
  | some tx =>
      obtain ⟨slot, present⟩ := tidy.occupant?_eq_some_iff.mp occupied
      have outstanding := tidy.outstanding slot tx present
      simp only [Option.filter_some, Option.any_some]
      split <;> simp_all

/-! ## Ways to stay tidy -/

/-- A change that leaves the table alone. -/
theorem of_same_table (tidy : scheduler.Tidy) (inStep : next.InStep)
    (events : next.events = []) (table : next.table = scheduler.table) : next.Tidy where
  inStep := inStep
  events_eq_nil := events
  outstanding := by
    rw [table]
    exact tidy.outstanding
  first := by
    rw [table]
    exact tidy.first

/-- A table that holds a single transmission, which is outstanding. -/
theorem of_single (inStep : next.InStep) (events : next.events = [])
    (present : next.table.entry 0 = some tx)
    (single : ∀ place other, next.table.entry place = some other → place = 0 ∧ other = tx)
    (outstanding : tx.status.isOutstanding = true) :
    next.Tidy ∧ next.occupant? = some tx := by
  have tidy : next.Tidy := {
    inStep
    events_eq_nil := events
    outstanding := by
      intro place other otherPresent
      rw [(single place other otherPresent).2]
      exact outstanding
    first := fun place other otherPresent => (single place other otherPresent).1 }
  exact ⟨tidy, tidy.occupant?_of_entry present⟩

/-- An empty table. -/
theorem of_empty (inStep : next.InStep) (events : next.events = [])
    (empty : ∀ slot, next.table.entry slot = none) : next.Tidy ∧ next.occupant? = none := by
  refine ⟨⟨inStep, events, ?_, ?_⟩, occupant?_of_empty empty⟩
  · simp [empty]
  · simp [empty]

/-- What is put in the first place is all there is. -/
theorem of_entry_put (tidy : scheduler.Tidy) {renewed other : Transmission} {place : Slot}
    (found : (scheduler.table.put 0 renewed).entry place = some other) :
    place = 0 ∧ other = renewed := by
  by_cases here : place = 0
  · rw [here, Table.entry_put_same] at found
    exact ⟨here, (Option.some.inj found).symm⟩
  · rw [Table.entry_put_of_ne here] at found
    exact absurd (tidy.first place other found) here

/-! ## Signals -/

theorem hear (tidy : scheduler.Tidy) (signals : List Signal) :
    (scheduler.hear signals).Tidy :=
  tidy.of_same_table
    (tidy.inStep.of_same_table rfl (Completion.phase_signals_eq_idle_iff _ signals))
    tidy.events_eq_nil rfl

theorem signal (tidy : scheduler.Tidy) (signal : Signal) : (scheduler.signal signal).2.Tidy :=
  tidy.of_same_table (tidy.inStep.signal signal) tidy.events_eq_nil rfl

/-! ## Submitting and cancelling -/

theorem outstanding?_of_occupied (tidy : scheduler.Tidy)
    (occupied : scheduler.occupant? = some tx) :
    ∃ handle, scheduler.outstanding? = some handle := by
  obtain ⟨slot, present⟩ := tidy.occupant?_eq_some_iff.mp occupied
  exact ⟨_, tidy.inStep.outstanding?_eq_some present (tidy.outstanding slot tx present)⟩

/-- While there is an occupant, work is refused because the bus is busy, and for
no other reason. -/
theorem schedule_of_occupied (tidy : scheduler.Tidy)
    (occupied : scheduler.occupant? = some tx) (packet : Packet) (expectsReply : Bool) :
    (scheduler.schedule packet expectsReply).value.1 = .error .busBusy ∧
      (scheduler.schedule packet expectsReply).value.2.Tidy ∧
      (scheduler.schedule packet expectsReply).value.2.occupant? = some tx := by
  have inStep := tidy.inStep.schedule packet expectsReply
  obtain ⟨handle, busy⟩ := tidy.outstanding?_of_occupied occupied
  rw [schedule_of_outstanding busy] at inStep ⊢
  exact ⟨rfl, tidy.of_same_table inStep tidy.events_eq_nil rfl, occupied⟩

/-- Without an occupant, work is accepted and becomes the occupant. -/
theorem schedule_of_vacant (tidy : scheduler.Tidy) (vacant : scheduler.occupant? = none)
    (packet : Packet) (expectsReply : Bool) :
    (scheduler.schedule packet expectsReply).value.1 = .ok ⟨0, scheduler.nextId⟩ ∧
      (scheduler.schedule packet expectsReply).value.2.Tidy ∧
      (scheduler.schedule packet expectsReply).value.2.occupant? =
        some (scheduler.newcomer packet expectsReply) := by
  have inStep := tidy.inStep.schedule packet expectsReply
  have entries := entry_eq_none vacant
  have quiet : scheduler.outstanding? = none := by
    rw [outstanding?_eq_none_iff]
    simp [entries]
  rw [schedule_of_free quiet (Table.free?_of_vacant (entries 0))] at inStep ⊢
  exact ⟨rfl, of_single inStep tidy.events_eq_nil Table.entry_put_same
    (fun _ _ present => tidy.of_entry_put present) rfl⟩

theorem removePending (tidy : scheduler.Tidy) (condition : Transmission → Bool) :
    (scheduler.removePending condition).2.Tidy where
  inStep := tidy.inStep.removePending condition
  events_eq_nil := tidy.events_eq_nil
  outstanding := fun slot tx present =>
    tidy.outstanding slot tx (entry_of_entry_removePending present)
  first := fun slot tx present => tidy.first slot tx (entry_of_entry_removePending present)

theorem occupant?_removePending (tidy : scheduler.Tidy) (condition : Transmission → Bool) :
    (scheduler.removePending condition).2.occupant? =
      scheduler.occupant?.filter fun tx => !(tx.status.isPending && condition tx) := by
  apply Option.ext
  intro tx
  rw [(tidy.removePending condition).occupant?_eq_some_iff, Option.filter_eq_some_iff,
    tidy.occupant?_eq_some_iff]
  simp only [entry_removePending, Option.filter_eq_some_iff, exists_and_right]

/-- Every cancellation of a tidy scheduler removes the pending transmissions it is meant
for. -/
theorem withdraw_eq (tidy : scheduler.Tidy) (cancellation : Cancellation) :
    scheduler.withdraw cancellation =
      (scheduler.removePending cancellation.concerns).2 := by
  cases cancellation with
  | single handle => rfl
  | addressedTo recipient => rfl
  | everything =>
      obtain ⟨table, events, completion, receiveBuffer, nextId, counters⟩ := scheduler
      have queue : events = [] := tidy.events_eq_nil
      subst queue
      rfl

/-! ## Settling -/

/-- An outcome in the cell is about the occupant. -/
theorem occupant_of_done (tidy : scheduler.Tidy) (done : scheduler.completion.phase = .done) :
    ∃ handle tx, scheduler.table.find? (fun tx => tx.status.isSent) = some (handle, tx) ∧
      scheduler.occupant? = some tx ∧ tx.status = .sent := by
  obtain ⟨handle, tx, found⟩ := tidy.inStep.find?_of_done done
  obtain ⟨present, -, isSent⟩ := Table.of_find?_eq_some found
  exact ⟨handle, tx, found, tidy.occupant?_of_entry present, Status.isSent_iff.mp isSent⟩

theorem service_of_waiting (tidy : scheduler.Tidy)
    (waiting : scheduler.completion.phase ≠ .done) :
    scheduler.service.value.Tidy ∧ scheduler.service.value.occupant? = scheduler.occupant? := by
  have inStep := tidy.inStep.service
  obtain ⟨lock, served⟩ := Scheduler.service_of_waiting waiting
  rw [served] at inStep ⊢
  exact ⟨tidy.of_same_table inStep tidy.events_eq_nil rfl, rfl⟩

/-- An outcome ends the occupant as the cell rules, only this end waits to be
told, and once the transmission is released nothing is left. -/
theorem service_of_done (tidy : scheduler.Tidy)
    (done : scheduler.completion.phase = .done)
    (found : scheduler.table.find? (fun tx => tx.status.isSent) = some (handle, tx)) :
    let status := (scheduler.ruling tx).1
    let told : Scheduler := { scheduler.service.value with events := [] }
    scheduler.service.value.events = [endOf handle tx status] ∧
      scheduler.service.value.get? handle = some { tx with status } ∧
      ∃ next, told.release handle = (some { tx with status }, next) ∧ next.Tidy ∧
        next.occupant? = none := by
  intro status told
  obtain ⟨known, -, -⟩ := known_of_sent found
  obtain ⟨present, id⟩ := Table.get?_eq_some_iff.mp known
  have served := service_of_outcome done found
  rw [Event.enqueue_of_room tidy.room, tidy.events_eq_nil] at served
  have table : scheduler.service.value.table =
      scheduler.table.put handle.slot { tx with status } := by
    rw [served]
  have events : scheduler.service.value.events = [endOf handle tx status] := by
    rw [served]
    rfl
  have ended : scheduler.service.value.get? handle = some { tx with status } :=
    Table.get?_eq_some_iff.mpr ⟨by rw [table, Table.entry_put_same], id⟩
  have terminal : status.isTerminal = true := InStep.isTerminal_verdict _ _ _
  have released : told.release handle = _ := release_of_terminal ended terminal
  have inStep : (told.release handle).2.InStep :=
    (tidy.inStep.service.of_same_table rfl Iff.rfl : told.InStep).release handle
  rw [released] at inStep
  refine ⟨events, ended, _, released, of_empty inStep rfl ?_⟩
  intro place
  change (scheduler.service.value.table.vacate handle.slot).entry place = none
  rw [table]
  by_cases here : place = handle.slot
  · rw [here]
    exact Table.entry_vacate_same
  · rw [Table.entry_vacate_of_ne here]
    cases other : (scheduler.table.put handle.slot { tx with status }).entry place with
    | none => rfl
    | some otherTx =>
        rw [Table.entry_put_of_ne here] at other
        exact absurd (tidy.inStep.slot_eq other (tidy.outstanding place otherTx other) present
          (tidy.outstanding handle.slot tx present)) here

/-! ## Sending -/

section Dispatch

variable {W : Type} [Wire W]

/-- What is pending is the occupant. -/
theorem occupant_of_pending (tidy : scheduler.Tidy)
    (search : scheduler.table.find? (fun tx => tx.status.isPending) = some (handle, tx)) :
    scheduler.occupant? = some tx ∧ tx.status = .pending := by
  obtain ⟨present, -, isPending⟩ := Table.of_find?_eq_some search
  exact ⟨tidy.occupant?_of_entry present, Status.isPending_iff.mp isPending⟩

theorem dispatch_of_refusal {wire : W} {refusal : BusError} (tidy : scheduler.Tidy)
    (search : scheduler.table.find? (fun tx => tx.status.isPending) = some (handle, tx))
    (refused : (offer wire tx).result = .error refusal) :
    (scheduler.dispatch wire).value.1 = none ∧ (scheduler.dispatch wire).value.2.1.Tidy ∧
      (scheduler.dispatch wire).value.2.1.occupant? = some tx := by
  have inStep := tidy.inStep.dispatch wire
  rw [Scheduler.dispatch_of_refusal search refused] at inStep ⊢
  exact ⟨rfl, tidy.of_same_table inStep tidy.events_eq_nil rfl,
    (tidy.occupant_of_pending search).1⟩

/-- What the wire takes is on the wire from then on, and only its start waits to be
told. -/
theorem dispatch_of_acceptance {wire : W} (tidy : scheduler.Tidy)
    (search : scheduler.table.find? (fun tx => tx.status.isPending) = some (handle, tx))
    (accepted : (offer wire tx).result = .ok ()) :
    let sent : Transmission := { tx with status := .sent }
    let dispatched := (scheduler.dispatch wire).value
    let told : Scheduler := { dispatched.2.1 with events := [] }
    dispatched.1 = some handle ∧ dispatched.2.1.events = [startOf handle tx] ∧
      dispatched.2.1.get? handle = some sent ∧ told.Tidy ∧ told.occupant? = some sent := by
  intro sent dispatched told
  obtain ⟨known, -, -⟩ := known_of_pending search
  obtain ⟨present, id⟩ := Table.get?_eq_some_iff.mp known
  have launched := Scheduler.dispatch_of_acceptance search accepted
  rw [Event.enqueue_of_room tidy.room, tidy.events_eq_nil] at launched
  have first : handle.slot = 0 := tidy.first handle.slot tx present
  have table : dispatched.2.1.table = scheduler.table.put 0 sent := by
    simp only [dispatched, launched, sent, first]
  have inStep : told.InStep := (tidy.inStep.dispatch wire).of_same_table rfl Iff.rfl
  have atFirst : dispatched.2.1.table.entry 0 = some sent := by
    rw [table, Table.entry_put_same]
  have atSlot : dispatched.2.1.table.entry handle.slot = some sent := by
    rw [first, atFirst]
  refine ⟨?_, ?_, Table.get?_eq_some_iff.mpr ⟨atSlot, id⟩, of_single inStep rfl atFirst ?_ rfl⟩
  · simp only [dispatched, launched]
  · simp only [dispatched, launched]
    rfl
  · intro place other otherPresent
    change dispatched.2.1.table.entry place = some other at otherPresent
    rw [table] at otherPresent
    exact tidy.of_entry_put otherPresent

end Dispatch

end Tidy

end MapleBus.Scheduler
