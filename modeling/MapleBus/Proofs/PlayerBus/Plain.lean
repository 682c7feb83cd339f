import MapleBus.Proofs.PlayerBus.Diary
import MapleBus.Proofs.PlayerBus.Phases

/-!
# Diaries change nothing

Without its diaries a bus is a bus of plain peripherals.  Every operation does
to it what it does to the bus whose peripherals keep diaries, so what holds of
the plain parts of such a bus holds of every bus.
-/

namespace MapleBus

/-- Keeping a diary changes neither the result of a program nor what it asks of
the scheduler. -/
theorem Endpoint.value_run_keepDiary {P : Type} (program : Endpoint P) (diary : Diary)
    (scheduler : Scheduler) :
    ((program.keepDiary diary).run scheduler).value.1.peripheral =
        (program.run scheduler).value.1 ∧
      ((program.keepDiary diary).run scheduler).value.2 = (program.run scheduler).value.2 := by
  induction program generalizing scheduler diary with
  | done peripheral => exact ⟨rfl, rfl⟩
  | schedule packet expectsReply next ih =>
      simp only [keepDiary, value_run_schedule]
      generalize (scheduler.schedule packet expectsReply).value = result
      obtain ⟨answer, afterwards⟩ := result
      cases answer with
      | error refusal => exact ih (.error refusal) diary afterwards
      | ok handle => exact ih (.ok handle) _ afterwards
  | status handle next ih => exact ih _ diary scheduler
  | cancel handle next ih => exact ih _ diary _
  | cancelByRecipient recipient next ih => exact ih _ diary _
  | countRecipients recipient next ih => exact ih _ diary scheduler
  | isIdle next ih => exact ih _ diary scheduler
  | note entry next ih => exact ih diary scheduler

namespace PlayerBus

variable {P W : Type} [Peripheral P]

/-- The peripherals without their diaries. -/
def plainly (diarists : List (Diarist P)) : List P :=
  diarists.map Diarist.peripheral

/-- The bus without the diaries. -/
def plain (bus : PlayerBus (Diarist P) W) : PlayerBus P W :=
  { bus with peripherals := plainly bus.peripherals }

variable {bus : PlayerBus (Diarist P) W}

/-! ## Plugging -/

theorem addresses_plain (bus : PlayerBus (Diarist P) W) : bus.plain.addresses = bus.addresses := by
  rw [addresses, addresses, plain, plainly, List.map_map]
  rfl

theorem plainly_insert (diarist : Diarist P) (diarists : List (Diarist P)) :
    plainly (insert diarist diarists) = insert diarist.peripheral (plainly diarists) := by
  simp only [plainly, insert, List.map_append, List.map_cons]
  rw [List.takeWhile_map, List.dropWhile_map]
  rfl

theorem attach_plain (bus : PlayerBus (Diarist P) W) (diarist : Diarist P) :
    (bus.plain.attach diarist.peripheral).value = (bus.attach diarist).value.map plain := by
  have fault : bus.plain.attachFault? (Peripheral.address diarist.peripheral) =
      bus.attachFault? (Peripheral.address diarist) := by
    rw [attachFault?, addresses_plain]
    rfl
  rw [attach, attach, fault]
  cases bus.attachFault? (Peripheral.address diarist) with
  | some refusal => rfl
  | none =>
      simp only [Logged.value_bind, Logged.value_pure, Except.map, plain, plainly_insert]

theorem value_cancelWork_plainly (scheduler : Scheduler) (diarists : List (Diarist P)) :
    (cancelWork scheduler (plainly diarists)).value = (cancelWork scheduler diarists).value := by
  induction diarists generalizing scheduler with
  | nil => rfl
  | cons diarist rest ih => exact ih _

theorem detach_plain (bus : PlayerBus (Diarist P) W) (address : Address) :
    (bus.plain.detach address).value =
      (bus.detach address).value.map fun result => (plainly result.1, result.2.plain) := by
  rw [detach, detach, addresses_plain]
  cases bus.addresses.contains address with
  | false => rfl
  | true =>
      have leaving : ∀ leaves : P → Bool,
          (plainly bus.peripherals).filter leaves =
            plainly (bus.peripherals.filter fun diarist => leaves diarist.peripheral) := by
        intro leaves
        rw [plainly, List.filter_map]
        rfl
      simp only [if_true, Logged.value_bind, Logged.value_pure, Except.map, plain, leaving,
        value_cancelWork_plainly]
      rfl

/-- A newcomer has a blank diary. -/
def blank : PlugEvent P → PlugEvent (Diarist P)
  | .attached peripheral => .attached { peripheral }
  | .detached address => .detached address

theorem handle_plain (bus : PlayerBus (Diarist P) W) (event : PlugEvent P) :
    (bus.plain.handle event).value =
      (bus.handle (blank event)).value.map fun result => (plainly result.1, result.2.plain) := by
  cases event with
  | attached peripheral =>
      have same := attach_plain bus { peripheral }
      simp only [handle, blank, Logged.value_bind, Logged.value_pure, same]
      cases (bus.attach { peripheral }).value <;> rfl
  | detached address => exact detach_plain bus address

/-! ## Cycles -/

theorem value_change_plainly (address : Address) (update : P → Logged P)
    (write : Diarist P → Logged (Diarist P))
    (same : ∀ diarist, (write diarist).value.peripheral = (update diarist.peripheral).value)
    (diarists : List (Diarist P)) :
    (change address update (plainly diarists)).value =
      ((change address write diarists).value.1,
        plainly (change address write diarists).value.2) := by
  induction diarists with
  | nil => rfl
  | cons diarist rest ih =>
      have place : Peripheral.address diarist.peripheral = Peripheral.address diarist := rfl
      change (change address update (diarist.peripheral :: plainly rest)).value = _
      by_cases here : Peripheral.address diarist = address
      · rw [change, change, if_pos here, if_pos (place.trans here)]
        simp only [Logged.value_bind, Logged.value_pure, ← same]
        rfl
      · have elsewhere : ¬ Peripheral.address diarist.peripheral = address := here
        rw [change, change, if_neg here, if_neg elsewhere]
        simp only [Logged.value_bind, ih]
        rfl

theorem conclude_plain (tx : Transmission) (diarist : Diarist P) :
    (conclude diarist tx).value.peripheral = (conclude diarist.peripheral tx).value := by
  unfold conclude
  cases tx.status.failure? <;> rfl

theorem deliverEvent_plain (bus : PlayerBus (Diarist P) W) (event : Event) :
    (bus.plain.deliverEvent event).value = (bus.deliverEvent event).value.plain := by
  cases kind : event.kind with
  | started =>
      have same : bus.plain.scheduler.get? event.handle = bus.scheduler.get? event.handle := rfl
      simp only [deliverEvent, kind, same]
      cases bus.scheduler.get? event.handle with
      | none => rfl
      | some tx =>
          have told := value_change_plainly event.recipient (Peripheral.started · tx)
            (Peripheral.started · tx) (fun _ => rfl) bus.peripherals
          simp only [Logged.value_bind, Logged.value_pure, plain, told]
  | failed | completed =>
      have same :
          bus.plain.scheduler.release event.handle = bus.scheduler.release event.handle := rfl
      simp only [deliverEvent, kind, same]
      cases bus.scheduler.release event.handle with
      | mk released scheduler =>
          cases released with
          | none => rfl
          | some tx =>
              have told := value_change_plainly event.recipient (conclude · tx)
                (conclude · tx) (conclude_plain tx) bus.peripherals
              simp only [Logged.value_bind, Logged.value_pure, plain, told]

theorem deliverEvents_plain (bus : PlayerBus (Diarist P) W) (events : List Event) :
    (bus.plain.deliverEvents events).value = (bus.deliverEvents events).value.plain := by
  induction events generalizing bus with
  | nil => rfl
  | cons event rest ih =>
      simp only [deliverEvents, Logged.value_bind]
      rw [deliverEvent_plain, ih]

theorem deliver_plain (bus : PlayerBus (Diarist P) W) :
    bus.plain.deliver.value = bus.deliver.value.plain :=
  deliverEvents_plain { bus with scheduler := { bus.scheduler with events := [] } }
    bus.scheduler.events

theorem runTasks_plainly (now : UInt64) (scheduler : Scheduler)
    (diarists : List (Diarist P)) :
    (runTasks now scheduler (plainly diarists)).value =
      (plainly (runTasks now scheduler diarists).value.1,
        (runTasks now scheduler diarists).value.2) := by
  induction diarists generalizing scheduler with
  | nil => rfl
  | cons diarist rest ih =>
      obtain ⟨peripheral, afterwards⟩ := Endpoint.value_run_keepDiary
        (Peripheral.task diarist.peripheral now) diarist.diary scheduler
      change (runTasks now scheduler (diarist.peripheral :: plainly rest)).value = _
      simp only [value_runTasks_cons, ih, ← peripheral, ← afterwards]
      rfl

theorem settled_plain (bus : PlayerBus (Diarist P) W) :
    bus.plain.settled = bus.settled.plain :=
  deliver_plain { bus with scheduler := bus.scheduler.service.value }

theorem worked_plain (bus : PlayerBus (Diarist P) W) (now : UInt64) :
    bus.plain.worked now = (bus.worked now).plain := by
  have ran := runTasks_plainly now bus.scheduler bus.peripherals
  simp only [worked, plain, ran]

theorem launched_plain [Wire W] (bus : PlayerBus (Diarist P) W) :
    bus.plain.launched = bus.launched.plain :=
  deliver_plain
    { bus with
      scheduler := (bus.scheduler.dispatch bus.wire).value.2.1
      wire := (bus.scheduler.dispatch bus.wire).value.2.2 }

/-- A cycle of the plain bus. -/
theorem task_plain [Wire W] (bus : PlayerBus (Diarist P) W) (now : UInt64) :
    (bus.plain.task now).value = (bus.task now).value.plain := by
  rw [value_task, value_task, settled_plain, worked_plain, launched_plain]

end PlayerBus

end MapleBus
