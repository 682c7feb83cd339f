import MapleBus.Proofs.PlayerBus.Tended
import MapleBus.Proofs.PlayerBus.Tenancy

/-!
# One cycle of a tended bus

What the parts of a cycle do to the seats of a bus: settling and telling, the
programs of the peripherals, sending and telling.  The peripherals are assumed
to stay at their addresses and to submit packets to themselves only.
-/

namespace MapleBus

/-- A program that submits packets to one address only, and whose result
satisfies a condition. -/
def Endpoint.StaysAt {α : Type} (address : Address) (condition : α → Prop) :
    Endpoint α → Prop
  | .done result => condition result
  | .schedule packet _ next =>
      packet.recipient = address ∧ ∀ answer, (next answer).StaysAt address condition
  | .status _ next => ∀ answer, (next answer).StaysAt address condition
  | .cancel _ next => ∀ answer, (next answer).StaysAt address condition
  | .cancelByRecipient _ next => ∀ answer, (next answer).StaysAt address condition
  | .countRecipients _ next => ∀ answer, (next answer).StaysAt address condition
  | .isIdle next => ∀ answer, (next answer).StaysAt address condition
  | .note _ next => next.StaysAt address condition

/-- Peripherals that keep their addresses and submit packets to themselves
only. -/
structure Steadfast (P : Type) [Peripheral P] : Prop where
  task : ∀ (peripheral : P) (now : UInt64),
    (Peripheral.task peripheral now).StaysAt (Peripheral.address peripheral) fun result =>
      Peripheral.address result = Peripheral.address peripheral
  started : ∀ (peripheral : P) (tx : Transmission),
    Peripheral.address (Peripheral.started peripheral tx).value = Peripheral.address peripheral
  failed : ∀ (peripheral : P) (failure : Failure) (tx : Transmission),
    Peripheral.address (Peripheral.failed peripheral failure tx).value =
      Peripheral.address peripheral
  completed : ∀ (peripheral : P) (reply : Option Packet) (tx : Transmission),
    Peripheral.address (Peripheral.completed peripheral reply tx).value =
      Peripheral.address peripheral

namespace Tended

variable {scheduler : Scheduler} {seats : List Seat}

/-- With an outcome in the cell, the exchange on the wire is settled, and only its
end waits to be told. -/
theorem service_of_done (tended : Tended scheduler seats)
    (done : scheduler.completion.phase = .done) :
    ∃ handle tx status,
      scheduler.table.find? (fun tx => tx.status.isSent) = some (handle, tx) ∧
      status.isTerminal = true ∧
      scheduler.service.value.table = scheduler.table.put handle.slot { tx with status } ∧
      scheduler.service.value.events = [Scheduler.endOf handle tx status] := by
  obtain ⟨handle, tx, found⟩ := tended.inStep.find?_of_done done
  have served := Scheduler.service_of_outcome done found
  rw [Event.enqueue_of_room tended.room, tended.events_eq_nil] at served
  refine ⟨handle, tx, (scheduler.ruling tx).1, found,
    Scheduler.InStep.isTerminal_verdict _ _ _, ?_, ?_⟩
  · rw [served]
  · rw [served]
    rfl

/-- A transmission that the wire takes is marked as sent, and only its start waits
to be told. -/
theorem dispatch_of_acceptance {W : Type} [Wire W] {wire : W} {handle : Handle}
    {tx : Transmission} (tended : Tended scheduler seats)
    (search : scheduler.table.find? (fun tx => tx.status.isPending) = some (handle, tx))
    (accepted : (Scheduler.offer wire tx).result = .ok ()) :
    (scheduler.dispatch wire).value.2.1.table =
        scheduler.table.put handle.slot { tx with status := .sent } ∧
      (scheduler.dispatch wire).value.2.1.events = [Scheduler.startOf handle tx] := by
  have sent := Scheduler.dispatch_of_acceptance search accepted
  rw [Event.enqueue_of_room tended.room, tended.events_eq_nil] at sent
  constructor
  · rw [sent]
  · rw [sent]
    rfl

end Tended

namespace Endpoint

variable {P : Type}

/-- What accepting a submission and cancelling keep, a program that stays at its
address keeps, and its result satisfies the condition. -/
theorem keepDiary_induction {program : Endpoint P} {address : Address} {condition : P → Prop}
    (stays : program.StaysAt address condition) {invariant : Scheduler → Diary → Prop}
    (submit : ∀ {scheduler diary packet} expectsReply, packet.recipient = address →
      invariant scheduler diary →
        match (scheduler.schedule packet expectsReply).value with
        | (.ok handle, next) =>
            invariant next (.submitted { id := handle.id, packet, expectsReply } :: diary)
        | (.error _, next) => invariant next diary)
    (cancel : ∀ {scheduler diary} condition, invariant scheduler diary →
      invariant (scheduler.removePending condition).2 diary)
    {scheduler : Scheduler} {diary : Diary} (start : invariant scheduler diary) :
    invariant ((program.keepDiary diary).run scheduler).value.2
        ((program.keepDiary diary).run scheduler).value.1.diary ∧
      condition ((program.keepDiary diary).run scheduler).value.1.peripheral := by
  induction program generalizing scheduler diary with
  | done peripheral => exact ⟨start, stays⟩
  | schedule packet expectsReply next ih =>
      have submitted := submit expectsReply stays.1 start
      simp only [keepDiary, value_run_schedule]
      revert submitted
      generalize (scheduler.schedule packet expectsReply).value = result
      intro submitted
      obtain ⟨answer, afterwards⟩ := result
      cases answer with
      | error refusal => exact ih (.error refusal) (stays.2 _) submitted
      | ok handle => exact ih (.ok handle) (stays.2 _) submitted
  | status handle next ih => exact ih _ (stays _) start
  | cancel handle next ih => exact ih _ (stays _) (cancel _ start)
  | cancelByRecipient recipient next ih => exact ih _ (stays _) (cancel _ start)
  | countRecipients recipient next ih => exact ih _ (stays _) start
  | isIdle next ih => exact ih _ (stays _) start
  | note entry next ih => exact ih stays start

variable {program : Endpoint P} {address : Address} {condition : P → Prop}

/-- A program only continues the diary. -/
theorem suffix_keepDiary (stays : program.StaysAt address condition) (diary : Diary)
    (scheduler : Scheduler) :
    diary <:+ ((program.keepDiary diary).run scheduler).value.1.diary := by
  let continued : Scheduler → Diary → Prop := fun _ later => diary <:+ later
  have start : continued scheduler diary := List.suffix_refl diary
  refine (keepDiary_induction stays ?_ ?_ start).1
  · intro scheduler later packet expectsReply _ grown
    rcases (scheduler.schedule packet expectsReply).value with ⟨_ | handle, next⟩
    · exact grown
    · exact grown.trans (List.suffix_cons _ _)
  · intro _ _ _ grown
    exact grown

/-- A program writes nothing but submissions, which are always one's own. -/
theorem isOwn_keepDiary (stays : program.StaysAt address condition) {diary : Diary}
    (own : diary.IsOwn) (scheduler : Scheduler) :
    ((program.keepDiary diary).run scheduler).value.1.diary.IsOwn := by
  let written : Scheduler → Diary → Prop := fun _ later => later.IsOwn
  have start : written scheduler diary := own
  refine (keepDiary_induction stays ?_ ?_ start).1
  · intro scheduler later packet expectsReply _ laterOwn
    rcases (scheduler.schedule packet expectsReply).value with ⟨_ | handle, next⟩ <;>
      exact laterOwn
  · intro _ _ _ laterOwn
    exact laterOwn

/-- A program that stays at the address of a seat keeps the bus tended. -/
theorem tended_keepDiary (stays : program.StaysAt address condition) {scheduler : Scheduler}
    {before after : List Seat} {diary : Diary}
    (tended : Tended scheduler (before ++ ⟨address, diary⟩ :: after)) :
    Tended ((program.keepDiary diary).run scheduler).value.2
        (before ++
          ⟨address, ((program.keepDiary diary).run scheduler).value.1.diary⟩ :: after) ∧
      condition ((program.keepDiary diary).run scheduler).value.1.peripheral := by
  let seated : Scheduler → Diary → Prop := fun scheduler diary =>
    Tended scheduler (before ++ ⟨address, diary⟩ :: after)
  have start : seated scheduler diary := tended
  apply keepDiary_induction stays _ _ start
  · intro scheduler diary packet expectsReply own tended
    exact Tended.schedule tended own expectsReply
  · intro scheduler diary condition tended
    exact Tended.removePending tended condition

end Endpoint

namespace Diarist

variable {P : Type} [Peripheral P]

/-- The seat a peripheral occupies. -/
def seat (diarist : Diarist P) : Seat where
  address := Peripheral.address diarist
  diary := diarist.diary

/-- The seats of peripherals, in order. -/
def seats (diarists : List (Diarist P)) : List Seat :=
  diarists.map seat

theorem addresses_seats (diarists : List (Diarist P)) :
    (seats diarists).map Seat.address = diarists.map Peripheral.address := by
  rw [seats, List.map_map]
  rfl

end Diarist

namespace PlayerBus

open Diarist

variable {P W : Type} [Peripheral P]

/-- The program of one peripheral keeps the bus tended. -/
theorem tended_task (steadfast : Steadfast P) (now : UInt64) {diarist : Diarist P}
    {scheduler : Scheduler} {before after : List Seat}
    (tended : Tended scheduler (before ++ seat diarist :: after)) :
    Tended ((Peripheral.task diarist now).run scheduler).value.2
      (before ++ seat ((Peripheral.task diarist now).run scheduler).value.1 :: after) := by
  obtain ⟨ran, stayed⟩ :=
    Endpoint.tended_keepDiary (steadfast.task diarist.peripheral now) tended
  have place : seat ((Peripheral.task diarist now).run scheduler).value.1 =
      ⟨Peripheral.address diarist,
        ((Peripheral.task diarist now).run scheduler).value.1.diary⟩ :=
    congrArg (Seat.mk · _) stayed
  rw [place]
  exact ran

/-- The programs of a cycle keep the bus tended. -/
theorem tended_runTasks (steadfast : Steadfast P) (now : UInt64)
    {diarists : List (Diarist P)} {scheduler : Scheduler} {before : List Seat}
    (tended : Tended scheduler (before ++ seats diarists)) :
    Tended (runTasks now scheduler diarists).value.2
      (before ++ seats (runTasks now scheduler diarists).value.1) := by
  induction diarists generalizing scheduler before with
  | nil => exact tended
  | cons diarist rest ih =>
      have first := tended_task steadfast now tended
      rw [List.append_cons] at first
      have others := ih first
      rw [List.append_assoc] at others
      rw [value_runTasks_cons]
      exact others

/-- The programs of a cycle only continue the diaries. -/
theorem grow_runTasks (steadfast : Steadfast P) (now : UInt64)
    (diarists : List (Diarist P)) (scheduler : Scheduler) :
    Seat.Grow (seats diarists) (seats (runTasks now scheduler diarists).value.1) := by
  induction diarists generalizing scheduler with
  | nil => exact Seat.Grow.refl _
  | cons diarist rest ih =>
      have continued := Endpoint.suffix_keepDiary
        (steadfast.task diarist.peripheral now) diarist.diary scheduler
      rw [value_runTasks_cons]
      exact Seat.Grow.cons continued (ih _)

/-- What the programs of a cycle write is their own. -/
theorem allOwn_runTasks (steadfast : Steadfast P) (now : UInt64)
    {diarists : List (Diarist P)} (own : Seat.AllOwn (seats diarists))
    (scheduler : Scheduler) :
    Seat.AllOwn (seats (runTasks now scheduler diarists).value.1) := by
  induction diarists generalizing scheduler with
  | nil => exact own
  | cons diarist rest ih =>
      obtain ⟨first, others⟩ := List.forall_mem_cons.mp own
      rw [value_runTasks_cons]
      exact List.forall_mem_cons.mpr
        ⟨Endpoint.isOwn_keepDiary (steadfast.task diarist.peripheral now) first scheduler,
          ih others _⟩

/-- A callback that writes an entry and stays at its address. -/
def Writes (entry : DiaryEntry) (update : Diarist P → Logged (Diarist P)) : Prop :=
  ∀ diarist, seat (update diarist).value = (seat diarist).write entry

theorem writes_started (steadfast : Steadfast P) (tx : Transmission) :
    Writes (.started tx) fun diarist : Diarist P => Peripheral.started diarist tx := by
  intro diarist
  exact congrArg (Seat.mk · _) (steadfast.started diarist.peripheral tx)

theorem writes_conclude (steadfast : Steadfast P) (tx : Transmission) :
    Writes (.ended tx) fun diarist : Diarist P => conclude diarist tx := by
  intro diarist
  unfold conclude
  cases tx.status.failure? with
  | some failure => exact congrArg (Seat.mk · _) (steadfast.failed diarist.peripheral failure tx)
  | none => exact congrArg (Seat.mk · _) (steadfast.completed diarist.peripheral tx.reply? tx)

/-- Where no two peripherals share an address, a callback to the first one at an
address is a callback to all of them. -/
theorem seats_change {entry : DiaryEntry} {update : Diarist P → Logged (Diarist P)}
    (writes : Writes entry update) (address : Address) {diarists : List (Diarist P)}
    (nodup : ((seats diarists).map Seat.address).Nodup) :
    seats (change address update diarists).value.2 =
      Seat.writeAt address entry (seats diarists) := by
  induction diarists with
  | nil => rfl
  | cons diarist rest ih =>
      obtain ⟨fresh, restNodup⟩ := List.nodup_cons.mp nodup
      have place : (seat diarist).address = Peripheral.address diarist := rfl
      by_cases here : Peripheral.address diarist = address
      · have absent : address ∉ (seats rest).map Seat.address := by
          rw [← here]
          exact fresh
        rw [change_cons_of_eq here]
        calc
          seat (update diarist).value :: seats rest
            = (seat diarist).write entry :: seats rest := by rw [writes diarist]
          _ = (seat diarist).write entry :: Seat.writeAt address entry (seats rest) := by
            rw [Seat.writeAt_of_absent absent entry]
          _ = Seat.writeAt address entry (seat diarist :: seats rest) :=
            (Seat.writeAt_cons_of_eq (place.trans here) entry (seats rest)).symm
      · have elsewhere : (seat diarist).address ≠ address := here
        rw [change_cons_of_ne here]
        calc
          seat diarist :: seats (change address update rest).value.2
            = seat diarist :: Seat.writeAt address entry (seats rest) := by
              rw [ih restNodup]
          _ = Seat.writeAt address entry (seat diarist :: seats rest) :=
            (Seat.writeAt_cons_of_ne elsewhere entry (seats rest)).symm

/-! ## The parts of a cycle -/

section Parts

variable {bus : PlayerBus (Diarist P) W} {tx : Transmission}

/-- While the cell has no outcome, nothing is settled and nobody is told. -/
theorem settled_of_waiting (tended : Tended bus.scheduler (seats bus.peripherals))
    (waiting : bus.scheduler.completion.phase ≠ .done) :
    Tended bus.settled.scheduler (seats bus.settled.peripherals) ∧
      bus.settled.peripherals = bus.peripherals := by
  have inStep := tended.inStep.service
  obtain ⟨lock, served⟩ := Scheduler.service_of_waiting waiting
  rw [served] at inStep
  have quiet : bus.scheduler.service.value.events = [] := by
    rw [served]
    exact tended.events_eq_nil
  rw [settled, value_deliver_nil _ quiet, served]
  exact ⟨tended.of_same_table inStep rfl rfl, rfl⟩

/-- With an outcome in the cell, the exchange on the wire is settled, its end is
written down at the recipient's address, and it is forgotten. -/
theorem settled_of_done (steadfast : Steadfast P)
    (tended : Tended bus.scheduler (seats bus.peripherals))
    (done : bus.scheduler.completion.phase = .done) :
    ∃ handle tx status,
      bus.scheduler.table.find? (fun tx => tx.status.isSent) = some (handle, tx) ∧
      tx.status = .sent ∧
      Tended bus.settled.scheduler (seats bus.settled.peripherals) ∧
      seats bus.settled.peripherals =
        Seat.writeAt tx.recipient (.ended { tx with status }) (seats bus.peripherals) := by
  obtain ⟨handle, tx, status, found, terminal, table, queue⟩ := tended.service_of_done done
  obtain ⟨known, sent, -⟩ := Scheduler.known_of_sent found
  obtain ⟨present, id⟩ := Table.get?_eq_some_iff.mp known
  have quiet : Scheduler.InStep { bus.scheduler.service.value with events := [] } :=
    tended.inStep.service.of_same_table rfl Iff.rfl
  have ended : Scheduler.get? { bus.scheduler.service.value with events := [] } handle =
      some { tx with status } :=
    Table.get?_eq_some_iff.mpr ⟨by rw [table, Table.entry_put_same], id⟩
  have released := Scheduler.release_of_terminal ended terminal
  have releasedInStep := quiet.release handle
  rw [released] at releasedInStep
  obtain ⟨failures, told⟩ := value_deliverEvent_of_end
    { bus with scheduler := { bus.scheduler.service.value with events := [] } }
    (Scheduler.endOf handle tx status) (isTerminal_endKind status) released
  have delivered : bus.settled = _ := value_deliver_singleton _ queue
  have written := seats_change (writes_conclude steadfast { tx with status }) tx.recipient
    tended.addresses_nodup
  rw [delivered, told]
  refine ⟨handle, tx, status, found, sent,
    tended.of_empty releasedInStep rfl ?_ ?_, written⟩
  · intro place
    change (bus.scheduler.service.value.table.vacate handle.slot).entry place = none
    rw [table]
    exact tended.entry_vacate_put present _ place
  · exact (congrArg (List.map Seat.address) written).trans (Seat.addresses_writeAt _ _ _)

theorem tended_settled (steadfast : Steadfast P)
    (tended : Tended bus.scheduler (seats bus.peripherals)) :
    Tended bus.settled.scheduler (seats bus.settled.peripherals) := by
  by_cases done : bus.scheduler.completion.phase = .done
  · obtain ⟨handle, tx, status, -, -, result, -⟩ := settled_of_done steadfast tended done
    exact result
  · exact (settled_of_waiting tended done).1

theorem grow_settled (steadfast : Steadfast P)
    (tended : Tended bus.scheduler (seats bus.peripherals)) :
    Seat.Grow (seats bus.peripherals) (seats bus.settled.peripherals) := by
  by_cases done : bus.scheduler.completion.phase = .done
  · obtain ⟨handle, tx, status, -, -, -, written⟩ := settled_of_done steadfast tended done
    rw [written]
    exact Seat.grow_writeAt _ _ _
  · rw [(settled_of_waiting tended done).2]
    exact Seat.Grow.refl _

/-- An end that is not displaced is told to the peripheral whose transmission it
was. -/
theorem allOwn_settled (steadfast : Steadfast P)
    (tended : Tended bus.scheduler (seats bus.peripherals))
    (own : Seat.AllOwn (seats bus.peripherals))
    (placed : bus.scheduler.completion.phase = .done → ¬ bus.Displaced) :
    Seat.AllOwn (seats bus.settled.peripherals) := by
  by_cases done : bus.scheduler.completion.phase = .done
  · obtain ⟨handle, tx, status, found, sent, -, written⟩ :=
      settled_of_done steadfast tended done
    obtain ⟨present, -, -⟩ := Table.of_find?_eq_some found
    rw [written]
    apply Seat.allOwn_writeAt own
    intro place mem here
    obtain ⟨diarist, diaristMem, rfl⟩ := List.mem_map.mp mem
    have told : .started tx ∈ diarist.diary := by
      by_contra never
      exact placed done ⟨handle, tx, found, diarist, diaristMem, here, never⟩
    have onTheWire : { tx with status := .sent } = tx := by rw [← sent]
    rcases tended.sent_started handle.slot tx present sent _ mem here with blank | newest
    · change diarist.diary = [] at blank
      rw [blank] at told
      exact absurd told List.not_mem_nil
    · exact ⟨newest.trans (congrArg (some ∘ DiaryEntry.started) onTheWire.symm), own _ mem⟩
  · rw [(settled_of_waiting tended done).2]
    exact own

/-- The end of a displaced exchange is told to a peripheral that never submitted
it. -/
theorem not_allFounded_settled (steadfast : Steadfast P)
    (tended : Tended bus.scheduler (seats bus.peripherals))
    (done : bus.scheduler.completion.phase = .done) (displaced : bus.Displaced) :
    ¬ Seat.AllFounded (seats bus.settled.peripherals) := by
  intro founded
  obtain ⟨handle, tx, status, found, sent, -, written⟩ :=
    settled_of_done steadfast tended done
  obtain ⟨present, -, -⟩ := Table.of_find?_eq_some found
  obtain ⟨diarist, mem, here, never⟩ := (displaced_iff found).mp displaced
  have seated : seat diarist ∈ seats bus.peripherals := List.mem_map_of_mem mem
  have told : (seat diarist).write (.ended { tx with status }) ∈
      seats bus.settled.peripherals := by
    rw [written]
    exact Seat.mem_writeAt seated here _
  have submitted : .submitted { tx with status := .pending } ∈ diarist.diary :=
    (founded _ told).1
  rcases tended.sent_started handle.slot tx present sent _ seated here with blank | newest
  · change diarist.diary = [] at blank
    rw [blank] at submitted
    exact List.not_mem_nil submitted
  · exact never (List.mem_of_head? newest)

/-- What the wire takes is on the wire from then on, and its start is written down
at the recipient's address. -/
theorem launched_of_acceptance [Wire W] (steadfast : Steadfast P)
    (tended : Tended bus.scheduler (seats bus.peripherals)) {handle : Handle}
    (search :
      bus.scheduler.table.find? (fun tx => tx.status.isPending) = some (handle, tx))
    (accepted : (Scheduler.offer bus.wire tx).result = .ok ()) :
    Tended bus.launched.scheduler (seats bus.launched.peripherals) ∧
      seats bus.launched.peripherals =
        Seat.writeAt tx.recipient (.started { tx with status := .sent })
          (seats bus.peripherals) := by
  obtain ⟨table, queue⟩ := tended.dispatch_of_acceptance search accepted
  obtain ⟨known, -, -⟩ := Scheduler.known_of_pending search
  obtain ⟨present, id⟩ := Table.get?_eq_some_iff.mp known
  have quiet :
      Scheduler.InStep { (bus.scheduler.dispatch bus.wire).value.2.1 with events := [] } :=
    (tended.inStep.dispatch bus.wire).of_same_table rfl Iff.rfl
  have found :
      Scheduler.get? { (bus.scheduler.dispatch bus.wire).value.2.1 with events := [] } handle =
        some { tx with status := .sent } :=
    Table.get?_eq_some_iff.mpr ⟨by rw [table, Table.entry_put_same], id⟩
  have delivered : bus.launched = _ := value_deliver_singleton _ queue
  have told := value_deliverEvent_of_start
    { bus with
      scheduler := { (bus.scheduler.dispatch bus.wire).value.2.1 with events := [] }
      wire := (bus.scheduler.dispatch bus.wire).value.2.2 }
    (Scheduler.startOf handle tx) rfl found
  have written := seats_change (writes_started steadfast { tx with status := .sent })
    tx.recipient tended.addresses_nodup
  rw [delivered, told]
  refine ⟨Tended.of_single { tx with status := .sent } quiet rfl ?_ rfl ?_ ?_ ?_, written⟩
  · intro place other otherPresent
    change (bus.scheduler.dispatch bus.wire).value.2.1.table.entry place = _ at otherPresent
    rw [table] at otherPresent
    exact tended.eq_of_entry_put present otherPresent
  · have addresses := (congrArg (List.map Seat.address) written).trans
      (Seat.addresses_writeAt _ _ _)
    exact addresses.symm ▸ tended.addresses_nodup
  · intro pending
    contradiction
  · intro _ seat mem address
    have writtenMem := written ▸ mem
    rcases Seat.of_mem_writeAt writtenMem with
      ⟨former, -, ⟨-, rfl⟩ | ⟨elsewhere, rfl⟩⟩
    · exact Or.inr rfl
    · exact absurd address elsewhere

/-- Either nothing goes out and nobody is told, or the pending transmission goes
out and its start is written down. -/
theorem launched_cases [Wire W] (steadfast : Steadfast P)
    (tended : Tended bus.scheduler (seats bus.peripherals)) :
    Tended bus.launched.scheduler (seats bus.launched.peripherals) ∧
      (seats bus.launched.peripherals = seats bus.peripherals ∨
        ∃ slot tx, bus.scheduler.table.entry slot = some tx ∧ tx.status = .pending ∧
          seats bus.launched.peripherals =
            Seat.writeAt tx.recipient (.started { tx with status := .sent })
              (seats bus.peripherals)) := by
  have inStep := tended.inStep.dispatch bus.wire
  cases search : bus.scheduler.table.find? (fun tx => tx.status.isPending) with
  | none =>
      have untouched := Scheduler.dispatch_of_no_pending search bus.wire
      have delivered : bus.launched = _ := value_deliver_nil _ (by
        rw [untouched]
        exact tended.events_eq_nil)
      rw [delivered, untouched]
      exact ⟨tended, Or.inl rfl⟩
  | some result =>
      obtain ⟨handle, tx⟩ := result
      cases answer : (Scheduler.offer bus.wire tx).result with
      | error refusal =>
          have refused := Scheduler.dispatch_of_refusal search answer
          have delivered : bus.launched = _ := value_deliver_nil _ (by
            rw [refused]
            exact tended.events_eq_nil)
          rw [refused] at inStep
          rw [delivered, refused]
          exact ⟨tended.of_same_table inStep rfl rfl, Or.inl rfl⟩
      | ok _ =>
          obtain ⟨present, -, isPending⟩ := Table.of_find?_eq_some search
          obtain ⟨onTheWire, written⟩ := launched_of_acceptance steadfast tended search answer
          exact ⟨onTheWire,
            Or.inr ⟨handle.slot, tx, present, Status.isPending_iff.mp isPending, written⟩⟩

theorem grow_launched [Wire W] (steadfast : Steadfast P)
    (tended : Tended bus.scheduler (seats bus.peripherals)) :
    Seat.Grow (seats bus.peripherals) (seats bus.launched.peripherals) := by
  rcases (launched_cases steadfast tended).2 with same | ⟨slot, tx, -, -, written⟩
  · rw [same]
    exact Seat.Grow.refl _
  · rw [written]
    exact Seat.grow_writeAt _ _ _

/-- A transmission that goes out was submitted by the peripheral that is told of
its start. -/
theorem allOwn_launched [Wire W] (steadfast : Steadfast P)
    (tended : Tended bus.scheduler (seats bus.peripherals))
    (own : Seat.AllOwn (seats bus.peripherals)) :
    Seat.AllOwn (seats bus.launched.peripherals) := by
  rcases (launched_cases steadfast tended).2 with
    same | ⟨slot, tx, present, pending, written⟩
  · rw [same]
    exact own
  · rw [written]
    apply Seat.allOwn_writeAt own
    intro seat mem here
    obtain ⟨owner, ownerMem, address, newest⟩ :=
      tended.pending_submitted slot tx present pending
    have submitted : { tx with status := .pending } = tx := by rw [← pending]
    rw [← tended.seat_eq ownerMem mem (address.trans here.symm)]
    exact ⟨newest.trans (congrArg (some ∘ DiaryEntry.submitted) submitted.symm),
      own owner ownerMem⟩

theorem tended_worked (steadfast : Steadfast P) (now : UInt64)
    (tended : Tended bus.scheduler (seats bus.peripherals)) :
    Tended (bus.worked now).scheduler (seats (bus.worked now).peripherals) := by
  have start : Tended bus.scheduler ([] ++ seats bus.peripherals) := tended
  exact tended_runTasks steadfast now start

/-- A cycle keeps the bus tended. -/
theorem tended_cycle [Wire W] (steadfast : Steadfast P) (now : UInt64)
    (tended : Tended bus.scheduler (seats bus.peripherals)) :
    Tended (bus.task now).value.scheduler (seats (bus.task now).value.peripherals) := by
  have settled := tended_settled steadfast tended
  rw [value_task]
  exact (launched_cases steadfast (tended_worked steadfast now settled)).1

/-- After the outcome was harvested, a cycle only continues the diaries. -/
theorem grow_of_settled [Wire W] (steadfast : Steadfast P) (now : UInt64)
    (tended : Tended bus.scheduler (seats bus.peripherals)) :
    Seat.Grow (seats bus.settled.peripherals) (seats (bus.task now).value.peripherals) := by
  have settled := tended_settled steadfast tended
  have worked := tended_worked steadfast now settled
  have grown : Seat.Grow (seats bus.settled.peripherals)
      (seats (bus.settled.worked now).peripherals) :=
    grow_runTasks steadfast now bus.settled.peripherals bus.settled.scheduler
  rw [value_task]
  exact grown.trans (grow_launched steadfast worked)

theorem grow_cycle [Wire W] (steadfast : Steadfast P) (now : UInt64)
    (tended : Tended bus.scheduler (seats bus.peripherals)) :
    Seat.Grow (seats bus.peripherals) (seats (bus.task now).value.peripherals) :=
  (grow_settled steadfast tended).trans (grow_of_settled steadfast now tended)

/-- In a cycle that settles no displaced exchange, everybody is told of their own
transmissions only. -/
theorem allOwn_cycle [Wire W] (steadfast : Steadfast P) (now : UInt64)
    (tended : Tended bus.scheduler (seats bus.peripherals))
    (own : Seat.AllOwn (seats bus.peripherals))
    (placed : bus.scheduler.completion.phase = .done → ¬ bus.Displaced) :
    Seat.AllOwn (seats (bus.task now).value.peripherals) := by
  have settled := tended_settled steadfast tended
  have settledOwn := allOwn_settled steadfast tended own placed
  have workedOwn : Seat.AllOwn (seats (bus.settled.worked now).peripherals) :=
    allOwn_runTasks steadfast now settledOwn bus.settled.scheduler
  rw [value_task]
  exact allOwn_launched steadfast (tended_worked steadfast now settled) workedOwn

/-- In a cycle that settles a displaced exchange, somebody is told of a
transmission they never submitted. -/
theorem not_allFounded_cycle [Wire W] (steadfast : Steadfast P) (now : UInt64)
    (tended : Tended bus.scheduler (seats bus.peripherals))
    (done : bus.scheduler.completion.phase = .done) (displaced : bus.Displaced) :
    ¬ Seat.AllFounded (seats (bus.task now).value.peripherals) := by
  intro founded
  exact not_allFounded_settled steadfast tended done displaced
    (founded.of_grow (grow_of_settled steadfast now tended))

end Parts

end PlayerBus

end MapleBus
