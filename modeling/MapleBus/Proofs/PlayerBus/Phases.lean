import MapleBus.PlayerBus

/-!
# The phases of a cycle

A cycle settles what the wire reported and tells of it, lets the peripherals
work, and launches what is pending and tells of that.  While at most one event
waits, telling is a single callback.
-/

namespace MapleBus.PlayerBus

variable {P W : Type} [Peripheral P]

/-! ## Callbacks -/

theorem change_cons_of_eq {address : Address} {peripheral : P}
    (here : Peripheral.address peripheral = address) (update : P → Logged P) (rest : List P) :
    (change address update (peripheral :: rest)).value.2 = (update peripheral).value :: rest := by
  rw [change, if_pos here]
  rfl

theorem change_cons_of_ne {address : Address} {peripheral : P}
    (elsewhere : Peripheral.address peripheral ≠ address) (update : P → Logged P)
    (rest : List P) :
    (change address update (peripheral :: rest)).value.2 =
      peripheral :: (change address update rest).value.2 := by
  rw [change, if_neg elsewhere]
  rfl

theorem value_deliver_nil (bus : PlayerBus P W) (queue : bus.scheduler.events = []) :
    bus.deliver.value = bus := by
  obtain ⟨settings, ⟨table, events, completion, receiveBuffer, nextId, counters⟩, wire,
    peripherals, failures⟩ := bus
  cases queue
  rfl

theorem value_deliver_singleton (bus : PlayerBus P W) {event : Event}
    (queue : bus.scheduler.events = [event]) :
    bus.deliver.value =
      (deliverEvent { bus with scheduler := { bus.scheduler with events := [] } } event).value := by
  rw [deliver, queue]
  rfl

/-- A start is told to the first peripheral at the recipient's address. -/
theorem value_deliverEvent_of_start {tx : Transmission} (bus : PlayerBus P W)
    (event : Event) (start : event.kind = .started)
    (found : bus.scheduler.get? event.handle = some tx) :
    (bus.deliverEvent event).value =
      { bus with
        peripherals :=
          (change event.recipient (Peripheral.started · tx) bus.peripherals).value.2 } := by
  simp only [deliverEvent, start, found]
  rfl

/-- An end is told to the first peripheral at the recipient's address, and the
transmission is released. -/
theorem value_deliverEvent_of_end {tx : Transmission} {next : Scheduler}
    (bus : PlayerBus P W) (event : Event) (isEnd : event.kind.isTerminal = true)
    (released : bus.scheduler.release event.handle = (some tx, next)) :
    ∃ failures, (bus.deliverEvent event).value =
      { bus with
        scheduler := next
        failures
        peripherals := (change event.recipient (conclude · tx) bus.peripherals).value.2 } := by
  refine ⟨(account bus.failures event.recipient tx.status).value, ?_⟩
  cases kind : event.kind with
  | started =>
      rw [kind] at isEnd
      contradiction
  | failed | completed =>
      simp only [deliverEvent, kind, released]
      rfl

/-- The event of an end tells of no start. -/
theorem isTerminal_endKind (status : Status) : (Scheduler.endKind status).isTerminal = true := by
  cases status <;> rfl

/-! ## The phases -/

/-- The cycles of the peripherals in order while no signals arrive. -/
def runTasks (now : UInt64) (scheduler : Scheduler) (peripherals : List P) :
    Logged (List P × Scheduler) :=
  (fun (peripherals, traffic) => (peripherals, traffic.scheduler)) <$>
    performTasks now { scheduler } peripherals

theorem value_runTasks_cons (now : UInt64) (scheduler : Scheduler) (peripheral : P)
    (rest : List P) :
    (runTasks now scheduler (peripheral :: rest)).value =
      let ran := ((Peripheral.task peripheral now).run scheduler).value
      let others := (runTasks now ran.2 rest).value
      (ran.1 :: others.1, others.2) := by
  simp only [runTasks, performTasks, Logged.value_map, Logged.value_bind, Logged.value_pure,
    Endpoint.value_perform]

/-- Where no signals were to come, none are to come afterwards. -/
theorem value_performTasks (now : UInt64) (scheduler : Scheduler) (peripherals : List P) :
    (performTasks now { scheduler } peripherals).value =
      ((runTasks now scheduler peripherals).value.1,
        { scheduler := (runTasks now scheduler peripherals).value.2 }) := by
  induction peripherals generalizing scheduler with
  | nil => rfl
  | cons peripheral rest ih =>
      simp only [value_runTasks_cons, performTasks, Logged.value_bind, Logged.value_pure,
        Endpoint.value_perform, ih]

/-- The bus after its scheduler was serviced and the events told. -/
def settled (bus : PlayerBus P W) : PlayerBus P W :=
  (deliver { bus with scheduler := bus.scheduler.service.value }).value

/-- The bus after the programs of its peripherals. -/
def worked (bus : PlayerBus P W) (now : UInt64) : PlayerBus P W :=
  { bus with
    peripherals := (runTasks now bus.scheduler bus.peripherals).value.1
    scheduler := (runTasks now bus.scheduler bus.peripherals).value.2 }

/-- The bus after the pending transmission was offered to the wire and the events
told. -/
def launched [Wire W] (bus : PlayerBus P W) : PlayerBus P W :=
  let dispatched := (bus.scheduler.dispatch bus.wire).value
  (deliver { bus with scheduler := dispatched.2.1, wire := dispatched.2.2 }).value

@[simp]
theorem hear_nil {P W : Type} (bus : PlayerBus P W) : bus.hear [] = bus :=
  rfl

theorem value_settle (bus : PlayerBus P W) : bus.settle.value = bus.settled := by
  rw [settle, Logged.value_bind, settled]

theorem value_work (bus : PlayerBus P W) (now : UInt64) :
    (bus.work now []).value = (bus.worked now, []) := by
  simp only [worked, work, Logged.value_bind, Logged.value_pure, value_performTasks]

theorem value_launch [Wire W] (bus : PlayerBus P W) : bus.launch.value = bus.launched := by
  rw [launch, Logged.value_bind, launched]

/-- A cycle settles, works and launches. -/
theorem value_task [Wire W] (bus : PlayerBus P W) (now : UInt64) :
    (bus.task now).value = (bus.settled.worked now).launched := by
  simp only [task, cycle, List.headD_nil, List.tail_nil, hear_nil, Logged.value_bind,
    value_settle, value_work, value_launch]

end MapleBus.PlayerBus
