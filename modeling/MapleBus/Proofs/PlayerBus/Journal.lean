import MapleBus.Proofs.PlayerBus.Tenancy
import MapleBus.Proofs.Scheduler.Tidy

/-!
# Journals

A journal tells what happens on a bus, newest first: what the peripherals ask
of the scheduler and what they are told, what goes out, what is settled, and
who comes and goes.  It is written beside the operations of the bus and never
read by them.  A session is a bus with its journal; in a session signals may
also arrive in the middle of a cycle, before anything that is done in it.
-/

namespace MapleBus

/-- What is written down.  A peripheral is written down as it is before what
the entry speaks of. -/
inductive JournalEntry (P : Type) where
  /-- A cycle begins. -/
  | cycle (now : UInt64)
  /-- The outcome of a transmission was harvested. -/
  | settled (tx : Transmission)
  /-- A peripheral is told that a transmission failed. -/
  | failed (peripheral : P) (failure : Failure) (tx : Transmission)
  /-- A peripheral is told that a transmission succeeded. -/
  | completed (peripheral : P) (reply : Option Packet) (tx : Transmission)
  /-- The program of a peripheral begins. -/
  | began (peripheral : P)
  /-- A submission is accepted. -/
  | accepted (author : P) (tx : Transmission)
  /-- A submission is refused. -/
  | refused (author : P) (packet : Packet) (refusal : BusError)
  /-- A pending transmission is dropped. -/
  | cancelled (tx : Transmission)
  /-- The wire took a transmission. -/
  | sent (tx : Transmission)
  /-- A peripheral is told that a transmission went out. -/
  | started (peripheral : P) (tx : Transmission)
  /-- A peripheral is plugged in. -/
  | attached (peripheral : P)
  /-- A peripheral is unplugged. -/
  | detached (peripheral : P)

/-- The entries about a bus, newest first. -/
abbrev Journal (P : Type) : Type := List (JournalEntry P)

namespace JournalEntry

variable {P : Type}

/-- The callback that tells a peripheral of an end. -/
def conclusion (peripheral : P) (tx : Transmission) : JournalEntry P :=
  match tx.status.failure? with
  | some failure => .failed peripheral failure tx
  | none => .completed peripheral tx.reply? tx

/-- The peripheral that a callback is made to, and what becomes of it. -/
def callee? [Peripheral P] : JournalEntry P → Option (P × P)
  | .failed peripheral failure tx =>
      some (peripheral, (Peripheral.failed peripheral failure tx).value)
  | .completed peripheral reply tx =>
      some (peripheral, (Peripheral.completed peripheral reply tx).value)
  | .started peripheral tx => some (peripheral, (Peripheral.started peripheral tx).value)
  | _ => none

@[simp]
theorem callee?_started [Peripheral P] (peripheral : P) (tx : Transmission) :
    (started peripheral tx).callee? =
      some (peripheral, (Peripheral.started peripheral tx).value) :=
  rfl

@[simp]
theorem callee?_conclusion [Peripheral P] (peripheral : P) (tx : Transmission) :
    (conclusion peripheral tx).callee? =
      some (peripheral, (PlayerBus.conclude peripheral tx).value) := by
  unfold conclusion PlayerBus.conclude
  cases tx.status.failure? <;> rfl

end JournalEntry

/-! ## Programs -/

/-- What a program works on while its requests are written down. -/
structure Desk (P : Type) where
  scheduler : Scheduler
  /-- The signals still to come.  One batch arrives before each request. -/
  arrivals : List (List Signal) := []
  journal : Journal P := []

namespace Desk

variable {P : Type}

def write (desk : Desk P) (entry : JournalEntry P) : Desk P :=
  { desk with journal := entry :: desk.journal }

/-- The desk without what is written on it. -/
def traffic (desk : Desk P) : Traffic where
  scheduler := desk.scheduler
  arrivals := desk.arrivals

/-- The next batch of signals arrives. -/
def listen (desk : Desk P) : Desk P :=
  { desk with
    scheduler := desk.scheduler.hear (desk.arrivals.headD [])
    arrivals := desk.arrivals.tail }

/-- Submit a packet. -/
def submit (desk : Desk P) (author : P) (packet : Packet) (expectsReply : Bool) :
    Except BusError Handle × Desk P :=
  let (answer, scheduler) := (desk.scheduler.schedule packet expectsReply).value
  let entry : JournalEntry P :=
    match answer with
    | .ok handle => .accepted author { id := handle.id, packet, expectsReply }
    | .error refusal => .refused author packet refusal
  (answer, { desk with scheduler, journal := entry :: desk.journal })

/-- Drop the pending transmissions that satisfy a condition. -/
def remove (desk : Desk P) (condition : Transmission → Bool) : Desk P :=
  { desk with
    scheduler := (desk.scheduler.removePending condition).2
    journal := (desk.scheduler.doomed condition).map .cancelled ++ desk.journal }

end Desk

namespace Endpoint

variable {α P : Type}

/-- Run a program, and write down what it gets accepted, refused and
cancelled. -/
def play (author : P) (program : Endpoint α) (desk : Desk P) : α × Desk P :=
  match program with
  | done result => (result, desk)
  | schedule packet expectsReply next =>
      let (answer, desk) := desk.listen.submit author packet expectsReply
      (next answer).play author desk
  | status handle next =>
      let desk := desk.listen
      (next (desk.scheduler.status? handle)).play author desk
  | cancel handle next =>
      let desk := desk.listen
      (next (desk.scheduler.cancel handle).1).play author
        (desk.remove fun tx => tx.id == handle.id)
  | cancelByRecipient recipient next =>
      let desk := desk.listen
      (next (desk.scheduler.cancelByRecipient recipient).1).play author
        (desk.remove fun tx => tx.recipient == recipient)
  | countRecipients recipient next =>
      let desk := desk.listen
      (next (desk.scheduler.countRecipients recipient)).play author desk
  | isIdle next =>
      let desk := desk.listen
      (next desk.scheduler.isIdle).play author desk
  | note _ next => next.play author desk

/-- A program whose packets follow a rule, and whose result satisfies a
condition. -/
def Obeys (rule : Packet → Prop) (condition : α → Prop) : Endpoint α → Prop
  | done result => condition result
  | schedule packet _ next => rule packet ∧ ∀ answer, (next answer).Obeys rule condition
  | status _ next => ∀ answer, (next answer).Obeys rule condition
  | cancel _ next => ∀ answer, (next answer).Obeys rule condition
  | cancelByRecipient _ next => ∀ answer, (next answer).Obeys rule condition
  | countRecipients _ next => ∀ answer, (next answer).Obeys rule condition
  | isIdle next => ∀ answer, (next answer).Obeys rule condition
  | note _ next => next.Obeys rule condition

/-- What signals, submissions by the rule and cancellations keep, a program keeps,
and its result satisfies the condition. -/
theorem play_induction {rule : Packet → Prop} {condition : α → Prop} {author : P}
    {motive : Desk P → Prop} (listen : ∀ {desk}, motive desk → motive desk.listen)
    (submit : ∀ {desk packet} expectsReply, rule packet → motive desk →
      motive (desk.submit author packet expectsReply).2)
    (remove : ∀ {desk} condition, motive desk → motive (desk.remove condition))
    {program : Endpoint α} (obeys : program.Obeys rule condition) {desk : Desk P}
    (start : motive desk) :
    motive (program.play author desk).2 ∧ condition (program.play author desk).1 := by
  induction program generalizing desk with
  | done result => exact ⟨start, obeys⟩
  | schedule packet expectsReply next ih =>
      exact ih _ (obeys.2 _) (submit expectsReply obeys.1 (listen start))
  | status handle next ih => exact ih _ (obeys _) (listen start)
  | cancel handle next ih => exact ih _ (obeys _) (remove _ (listen start))
  | cancelByRecipient recipient next ih => exact ih _ (obeys _) (remove _ (listen start))
  | countRecipients recipient next ih => exact ih _ (obeys _) (listen start)
  | isIdle next ih => exact ih _ (obeys _) (listen start)
  | note entry next ih => exact ih obeys start

/-- A sequence works on the desk its first part leaves. -/
theorem play_bind {β : Type} (author : P) (program : Endpoint α) (rest : α → Endpoint β)
    (desk : Desk P) :
    (program >>= rest).play author desk =
      (rest (program.play author desk).1).play author (program.play author desk).2 := by
  induction program generalizing desk with
  | done result => rfl
  | schedule packet expectsReply next ih => exact ih _ _
  | status handle next ih | cancel handle next ih | cancelByRecipient recipient next ih
  | countRecipients recipient next ih | isIdle next ih => exact ih _ _
  | note entry next ih => exact ih desk

theorem play_submit (author : P) (packet : Packet) (expectsReply : Bool) (desk : Desk P) :
    (submit packet expectsReply).play author desk =
      desk.listen.submit author packet expectsReply :=
  rfl

/-- A change of the result changes nothing else. -/
theorem play_map {β : Type} (author : P) (change : α → β) (program : Endpoint α)
    (desk : Desk P) :
    (change <$> program).play author desk =
      (change (program.play author desk).1, (program.play author desk).2) :=
  play_bind author program (fun result => pure (change result)) desk

/-- What the parts of a sequence keep to, the sequence does. -/
theorem obeys_bind {β : Type} {rule : Packet → Prop} {condition : α → Prop}
    {outcome : β → Prop} {program : Endpoint α} (obeys : program.Obeys rule condition)
    {rest : α → Endpoint β}
    (next : ∀ result, condition result → (rest result).Obeys rule outcome) :
    (program >>= rest).Obeys rule outcome := by
  induction program with
  | done result => exact next result obeys
  | schedule packet expectsReply further ih =>
      exact ⟨obeys.1, fun answer => ih answer (obeys.2 answer)⟩
  | status handle further ih | cancel handle further ih | cancelByRecipient recipient further ih
  | countRecipients recipient further ih | isIdle further ih =>
      exact fun answer => ih answer (obeys answer)
  | note entry further ih => exact ih obeys

theorem obeys_map {β : Type} {rule : Packet → Prop} {condition : α → Prop}
    {outcome : β → Prop} {program : Endpoint α} (obeys : program.Obeys rule condition)
    {change : α → β} (suits : ∀ result, condition result → outcome (change result)) :
    (change <$> program).Obeys rule outcome :=
  obeys_bind obeys suits

/-- Every program follows the rule that allows everything. -/
theorem obeys_true (program : Endpoint α) : program.Obeys (fun _ => True) fun _ => True := by
  induction program with
  | done result => trivial
  | schedule packet expectsReply next ih => exact ⟨trivial, ih⟩
  | status handle next ih => exact ih
  | cancel handle next ih => exact ih
  | cancelByRecipient recipient next ih => exact ih
  | countRecipients recipient next ih => exact ih
  | isIdle next ih => exact ih
  | note entry next ih => exact ih

/-- A program that is written down does what it does without a journal. -/
theorem traffic_play (author : P) (program : Endpoint α) (desk : Desk P) :
    ((program.play author desk).1, (program.play author desk).2.traffic) =
      (program.perform desk.traffic).value := by
  induction program generalizing desk with
  | done result => rfl
  | schedule packet expectsReply next ih => exact ih _ _
  | status handle next ih | cancel handle next ih | cancelByRecipient recipient next ih
  | countRecipients recipient next ih | isIdle next ih => exact ih _ _
  | note entry next ih => exact ih desk

end Endpoint

namespace PlayerBus

variable {P W : Type} [Peripheral P]

/-- Run one cycle of each peripheral in order, and write down what they ask. -/
def playTasks (now : UInt64) : List P → Desk P → List P × Desk P
  | [], desk => ([], desk)
  | peripheral :: rest, desk =>
      let (peripheral, desk) :=
        (Peripheral.task peripheral now).play peripheral (desk.write (.began peripheral))
      let (rest, desk) := playTasks now rest desk
      (peripheral :: rest, desk)

/-- So do the programs of a cycle. -/
theorem traffic_playTasks (now : UInt64) (peripherals : List P) (desk : Desk P) :
    ((playTasks now peripherals desk).1, (playTasks now peripherals desk).2.traffic) =
      (performTasks now desk.traffic peripherals).value := by
  induction peripherals generalizing desk with
  | nil => rfl
  | cons peripheral rest ih =>
      let ran := (Peripheral.task peripheral now).play peripheral (desk.write (.began peripheral))
      have first : (ran.1, ran.2.traffic) =
          ((Peripheral.task peripheral now).perform desk.traffic).value :=
        Endpoint.traffic_play peripheral _ _
      have others := ih ran.2
      simp only [playTasks, performTasks, Logged.value_bind, Logged.value_pure, ← first, ← others]
      rfl

/-! ## Delivery -/

/-- The callback that delivering an event makes. -/
def callback? (bus : PlayerBus P W) (event : Event) : Option (JournalEntry P) :=
  match event.kind with
  | .started => do
      let tx ← bus.scheduler.get? event.handle
      let peripheral ← bus.peripheral? event.recipient
      return .started peripheral tx
  | .failed | .completed => do
      let tx ← (bus.scheduler.release event.handle).1
      let peripheral ← bus.peripheral? event.recipient
      return .conclusion peripheral tx

/-- The start of a transmission that is known calls back the first peripheral at
the recipient's address. -/
theorem callback?_of_start {tx : Transmission} (bus : PlayerBus P W) (event : Event)
    (start : event.kind = .started) (found : bus.scheduler.get? event.handle = some tx) :
    bus.callback? event = (bus.peripheral? event.recipient).map (.started · tx) := by
  simp only [callback?, start, found]
  cases bus.peripheral? event.recipient <;> rfl

/-- So does the end of a transmission that is released. -/
theorem callback?_of_end {tx : Transmission} {next : Scheduler} (bus : PlayerBus P W)
    (event : Event) (isEnd : event.kind.isTerminal = true)
    (released : bus.scheduler.release event.handle = (some tx, next)) :
    bus.callback? event = (bus.peripheral? event.recipient).map (.conclusion · tx) := by
  cases kind : event.kind with
  | started =>
      rw [kind] at isEnd
      contradiction
  | failed | completed =>
      simp only [callback?, kind, released]
      cases bus.peripheral? event.recipient <;> rfl

/-- A change affects the first peripheral at the address, if there is one. -/
theorem change_cases (address : Address) (update : P → Logged P) (peripherals : List P) :
    (∃ front peripheral back, peripherals = front ++ peripheral :: back ∧
      Peripheral.address peripheral = address ∧
      (∀ other ∈ front, Peripheral.address other ≠ address) ∧
      peripherals.find? (fun other => Peripheral.address other == address) = some peripheral ∧
      (change address update peripherals).value.2 =
        front ++ (update peripheral).value :: back) ∨
    ((∀ other ∈ peripherals, Peripheral.address other ≠ address) ∧
      peripherals.find? (fun other => Peripheral.address other == address) = none ∧
      (change address update peripherals).value.2 = peripherals) := by
  induction peripherals with
  | nil => exact Or.inr ⟨by simp, rfl, rfl⟩
  | cons first rest ih =>
      by_cases here : Peripheral.address first = address
      · refine Or.inl ⟨[], first, rest, rfl, here, by simp, by simp [here], ?_⟩
        exact change_cons_of_eq here update rest
      · have searched : (first :: rest).find? (fun other => Peripheral.address other == address) =
            rest.find? fun other => Peripheral.address other == address := by
          simp [here]
        rw [searched, change_cons_of_ne here]
        rcases ih with ⟨front, peripheral, back, rfl, there, before, found, changed⟩ |
          ⟨nobody, found, changed⟩
        · refine Or.inl ⟨first :: front, peripheral, back, rfl, there, ?_, found, ?_⟩
          · exact List.forall_mem_cons.mpr ⟨here, before⟩
          · rw [changed]
            rfl
        · refine Or.inr ⟨List.forall_mem_cons.mpr ⟨here, nobody⟩, found, ?_⟩
          rw [changed]

/-- The callback that is written down is the one that is made, and it is made to
the first peripheral at the recipient's address. -/
theorem peripherals_deliverEvent (bus : PlayerBus P W) (event : Event) :
    match bus.callback? event with
    | some entry => ∃ front peripheral renewed back,
        entry.callee? = some (peripheral, renewed) ∧
        Peripheral.address peripheral = event.recipient ∧
        (∀ other ∈ front, Peripheral.address other ≠ event.recipient) ∧
        bus.peripherals = front ++ peripheral :: back ∧
        (bus.deliverEvent event).value.peripherals = front ++ renewed :: back
    | none => (bus.deliverEvent event).value.peripherals = bus.peripherals := by
  cases kind : event.kind with
  | started =>
      cases known : bus.scheduler.get? event.handle with
      | none => simp [callback?, deliverEvent, kind, known]
      | some tx =>
          rcases change_cases event.recipient (Peripheral.started · tx) bus.peripherals with
            ⟨front, peripheral, back, split, here, before, found, changed⟩ |
            ⟨-, found, changed⟩
          · simp only [callback?, deliverEvent, kind, known, peripheral?, found]
            exact ⟨front, peripheral, _, back, rfl, here, before, split, changed⟩
          · simp only [callback?, deliverEvent, kind, known, peripheral?, found]
            exact changed
  | failed | completed =>
      cases released : bus.scheduler.release event.handle with
      | mk gone scheduler =>
          cases gone with
          | none => simp [callback?, deliverEvent, kind, released]
          | some tx =>
              rcases change_cases event.recipient (conclude · tx) bus.peripherals with
                ⟨front, peripheral, back, split, here, before, found, changed⟩ |
                ⟨-, found, changed⟩
              · simp only [callback?, deliverEvent, kind, released, peripheral?, found]
                exact ⟨front, peripheral, _, back, JournalEntry.callee?_conclusion _ _, here,
                  before, split, changed⟩
              · simp only [callback?, deliverEvent, kind, released, peripheral?, found]
                exact changed

end PlayerBus

namespace Scheduler

/-- The transmission that servicing settles, as it is then. -/
def settled? (scheduler : Scheduler) : Option Transmission :=
  if scheduler.completion.phase = .done then do
    let (handle, _) ← scheduler.table.find? fun tx => tx.status.isSent
    scheduler.service.value.get? handle
  else
    none

/-- What is harvested is the ruling on the occupant. -/
theorem settled?_of_done {scheduler : Scheduler} (tidy : scheduler.Tidy) {handle : Handle}
    {tx : Transmission} (done : scheduler.completion.phase = .done)
    (found : scheduler.table.find? (fun tx => tx.status.isSent) = some (handle, tx)) :
    scheduler.settled? = some { tx with status := (scheduler.ruling tx).1 } := by
  rw [settled?, if_pos done, found]
  exact (tidy.service_of_done done found).2.1

theorem settled?_of_waiting {scheduler : Scheduler}
    (waiting : scheduler.completion.phase ≠ .done) : scheduler.settled? = none := by
  rw [settled?, if_neg waiting]

/-- The transmission that the wire takes, as it is then. -/
def sent? {W : Type} [Wire W] (scheduler : Scheduler) (wire : W) : Option Transmission := do
  let handle ← (scheduler.dispatch wire).value.1
  (scheduler.dispatch wire).value.2.1.get? handle

end Scheduler

namespace PlayerBus

/-! ## Sessions -/

/-- A bus and its journal. -/
structure Session (P W : Type) where
  bus : PlayerBus P W
  journal : Journal P := []

/-- Anything that can happen in a session. -/
inductive Occurrence (P W : Type) where
  | attach (peripheral : P)
  | detach (address : Address)
  | handle (event : PlugEvent P)
  /-- A cycle, and the batches of signals that arrive in it. -/
  | task (now : UInt64) (arrivals : List (List Signal))
  | signal (signal : Signal)
  /-- Pending work is cancelled from outside. -/
  | cancel (cancellation : Scheduler.Cancellation)
  /-- The wire is changed from outside. -/
  | rewire (change : W → W)
  /-- The peripherals are changed from outside. -/
  | influence (change : P → P)

variable {P W : Type} [Peripheral P]

/-- What happens to a bus as an occurrence: in its cycles no signals arrive. -/
def Happening.occurrence : Happening P W → Occurrence P W
  | .attach peripheral => .attach peripheral
  | .detach address => .detach address
  | .handle event => .handle event
  | .task now => .task now []
  | .signal raised => .signal raised
  | .rewire change => .rewire change
  | .influence change _ => .influence change

namespace Session

/-- A session with a bus about which nothing has been written yet. -/
def opened {P W : Type} (bus : PlayerBus P W) : Session P W where
  bus := bus

def hear {P W : Type} (session : Session P W) (signals : List Signal) : Session P W :=
  { session with bus := session.bus.hear signals }

theorem hear_nil {P W : Type} (session : Session P W) : session.hear [] = session :=
  rfl

/-- The session when its events are taken off the queue. -/
def quieted {P W : Type} (session : Session P W) : Session P W :=
  { session with
    bus := { session.bus with scheduler := { session.bus.scheduler with events := [] } } }

/-- Deliver one event, and write down the callback. -/
def deliverEvent (session : Session P W) (event : Event) : Session P W where
  bus := (session.bus.deliverEvent event).value
  journal := (session.bus.callback? event).toList ++ session.journal

/-- Deliver events in order. -/
def deliverEvents (session : Session P W) : List Event → Session P W
  | [] => session
  | event :: rest => (session.deliverEvent event).deliverEvents rest

/-- Deliver every event that waits, and write down the callbacks. -/
def deliver (session : Session P W) : Session P W where
  bus := session.bus.deliver.value
  journal := (session.quieted.deliverEvents session.bus.scheduler.events).journal

/-- Settle what the wire reported and tell of it. -/
def settle (session : Session P W) (now : UInt64) : Session P W :=
  deliver {
    bus := { session.bus with scheduler := session.bus.scheduler.service.value }
    journal :=
      (session.bus.scheduler.settled?.map .settled).toList ++ .cycle now :: session.journal }

/-- Let the peripherals work, and write down what they ask.  The result has the
signals still to come. -/
def work (session : Session P W) (now : UInt64) (arrivals : List (List Signal)) :
    Session P W × List (List Signal) :=
  let worked := (session.bus.work now arrivals).value
  let (_, desk) := playTasks now session.bus.peripherals
    { scheduler := session.bus.scheduler, arrivals, journal := session.journal }
  ({ bus := worked.1, journal := desk.journal }, worked.2)

/-- Offer the pending transmission to the wire and tell of it. -/
def launch [Wire W] (session : Session P W) : Session P W :=
  let dispatched := (session.bus.scheduler.dispatch session.bus.wire).value
  deliver {
    bus := { session.bus with scheduler := dispatched.2.1, wire := dispatched.2.2 }
    journal :=
      ((session.bus.scheduler.sent? session.bus.wire).map .sent).toList ++ session.journal }

/-- The session in a cycle when the pending transmission is about to be offered. -/
def offering (session : Session P W) (now : UInt64) (arrivals : List (List Signal)) :
    Session P W :=
  let worked := ((session.hear (arrivals.headD [])).settle now).work now arrivals.tail
  worked.1.hear (worked.2.headD [])

/-- One cycle of the bus, with what its parts write down. -/
def task [Wire W] (session : Session P W) (now : UInt64) (arrivals : List (List Signal)) :
    Session P W where
  bus := (session.bus.cycle now arrivals).value
  journal := (session.offering now arrivals).launch.journal

def attach (session : Session P W) (peripheral : P) : Session P W :=
  match (session.bus.attach peripheral).value with
  | .ok bus => { bus, journal := .attached peripheral :: session.journal }
  | .error _ => session

/-- Unplug, and write down whose work is cancelled and who leaves. -/
def detach (session : Session P W) (address : Address) : Session P W :=
  match (session.bus.detach address).value with
  | .ok (removed, bus) =>
      let withdrawn := session.bus.scheduler.doomed fun tx =>
        removed.any fun peripheral => Peripheral.address peripheral == tx.recipient
      { bus
        journal :=
          removed.map .detached ++ (withdrawn.map .cancelled ++ session.journal) }
  | .error _ => session

/-- Cancel pending work, and write down what is dropped. -/
def cancel {P W : Type} (session : Session P W) (cancellation : Scheduler.Cancellation) :
    Session P W where
  bus := { session.bus with scheduler := session.bus.scheduler.withdraw cancellation }
  journal :=
    (session.bus.scheduler.doomed cancellation.concerns).map .cancelled ++ session.journal

/-! ## The parts of a cycle -/

theorem bus_deliverEvents (session : Session P W) (events : List Event) :
    (session.deliverEvents events).bus = (session.bus.deliverEvents events).value := by
  induction events generalizing session with
  | nil => rfl
  | cons event rest ih =>
      rw [deliverEvents, ih]
      rfl

theorem bus_deliver (session : Session P W) : session.deliver.bus = session.bus.deliver.value :=
  rfl

/-- The session when the outcome has been harvested and nobody was told yet. -/
def harvested {P W : Type} (session : Session P W) (now : UInt64) : Session P W where
  bus := { session.bus with scheduler := session.bus.scheduler.service.value }
  journal :=
    (session.bus.scheduler.settled?.map .settled).toList ++ .cycle now :: session.journal

theorem settle_eq (session : Session P W) (now : UInt64) :
    session.settle now = (session.harvested now).deliver :=
  rfl

/-- The session when the wire has answered and nobody was told yet. -/
def offered {P W : Type} [Wire W] (session : Session P W) : Session P W where
  bus :=
    { session.bus with
      scheduler := (session.bus.scheduler.dispatch session.bus.wire).value.2.1
      wire := (session.bus.scheduler.dispatch session.bus.wire).value.2.2 }
  journal :=
    ((session.bus.scheduler.sent? session.bus.wire).map .sent).toList ++ session.journal

theorem launch_eq [Wire W] (session : Session P W) :
    session.launch = session.offered.deliver :=
  rfl

/-- To deliver what waits is to deliver the events in order. -/
theorem deliver_eq (session : Session P W) :
    session.deliver = session.quieted.deliverEvents session.bus.scheduler.events := by
  have bus := bus_deliverEvents session.quieted session.bus.scheduler.events
  rw [deliver, PlayerBus.deliver]
  exact congrArg (Session.mk · _) bus.symm

/-- The peripherals work at the desk that the journal is written on. -/
theorem work_eq (session : Session P W) (now : UInt64) (arrivals : List (List Signal)) :
    session.work now arrivals =
      let (peripherals, desk) := playTasks now session.bus.peripherals
        { scheduler := session.bus.scheduler, arrivals, journal := session.journal }
      ({ bus := { session.bus with peripherals, scheduler := desk.scheduler }
         journal := desk.journal }, desk.arrivals) := by
  let desk : Desk P :=
    { scheduler := session.bus.scheduler, arrivals, journal := session.journal }
  have played : ((playTasks now session.bus.peripherals desk).1,
        (playTasks now session.bus.peripherals desk).2.traffic) =
      (performTasks now { scheduler := session.bus.scheduler, arrivals }
        session.bus.peripherals).value :=
    traffic_playTasks now session.bus.peripherals desk
  simp only [work, PlayerBus.work, Logged.value_bind, Logged.value_pure, ← played]
  rfl

theorem bus_hear {P W : Type} (session : Session P W) (signals : List Signal) :
    (session.hear signals).bus = session.bus.hear signals :=
  rfl

theorem bus_settle (session : Session P W) (now : UInt64) :
    (session.settle now).bus = session.bus.settle.value :=
  rfl

theorem bus_work (session : Session P W) (now : UInt64) (arrivals : List (List Signal)) :
    ((session.work now arrivals).1.bus, (session.work now arrivals).2) =
      (session.bus.work now arrivals).value :=
  rfl

theorem bus_launch [Wire W] (session : Session P W) :
    session.launch.bus = session.bus.launch.value :=
  rfl

/-- A cycle settles, works and launches. -/
theorem task_eq [Wire W] (session : Session P W) (now : UInt64)
    (arrivals : List (List Signal)) :
    session.task now arrivals = (session.offering now arrivals).launch := by
  have bus : (session.bus.cycle now arrivals).value = (session.offering now arrivals).launch.bus := by
    simp only [PlayerBus.cycle, Logged.value_bind, ← bus_hear, ← bus_settle _ now, ← bus_work,
      ← bus_launch, offering]
  rw [task, bus]

/-! ## Runs -/

section Run

variable [Wire W]

/-- A session after an occurrence. -/
def occur (session : Session P W) : Occurrence P W → Session P W
  | .attach peripheral | .handle (.attached peripheral) => session.attach peripheral
  | .detach address | .handle (.detached address) => session.detach address
  | .task now arrivals => session.task now arrivals
  | .signal signal =>
      { session with
        bus := { session.bus with scheduler := (session.bus.scheduler.signal signal).2 } }
  | .cancel cancellation => session.cancel cancellation
  | .rewire change => { session with bus := { session.bus with wire := change session.bus.wire } }
  | .influence change =>
      { session with
        bus := { session.bus with peripherals := session.bus.peripherals.map change } }

/-- A session after occurrences. -/
def after (session : Session P W) : List (Occurrence P W) → Session P W
  | [] => session
  | occurrence :: rest => (session.occur occurrence).after rest

/-- What every occurrence of a run preserves holds after the run. -/
theorem after_induction {motive : Session P W → Prop} {occurrences : List (Occurrence P W)}
    (step : ∀ {session}, motive session → ∀ occurrence ∈ occurrences,
      motive (session.occur occurrence))
    {session : Session P W} (start : motive session) :
    motive (session.after occurrences) := by
  induction occurrences generalizing session with
  | nil => exact start
  | cons occurrence rest ih =>
      apply ih
      · intro session holds later mem
        exact step holds later (List.mem_cons_of_mem _ mem)
      · exact step start occurrence List.mem_cons_self

theorem bus_attach (session : Session P W) (peripheral : P) :
    (session.attach peripheral).bus = session.bus.occur (.attach peripheral) := by
  simp only [attach, PlayerBus.occur]
  cases (session.bus.attach peripheral).value <;> rfl

theorem bus_detach (session : Session P W) (address : Address) :
    (session.detach address).bus = session.bus.occur (.detach address) := by
  simp only [detach, PlayerBus.occur]
  cases (session.bus.detach address).value <;> rfl

/-- A session does to its bus what happens to the bus. -/
theorem bus_occur (session : Session P W) (happening : Happening P W) :
    (session.occur happening.occurrence).bus = session.bus.occur happening := by
  cases happening with
  | attach peripheral => exact bus_attach session peripheral
  | detach address => exact bus_detach session address
  | handle event =>
      cases event with
      | attached peripheral =>
          have plugged := bus_attach session peripheral
          simp only [PlayerBus.occur, PlayerBus.handle, Logged.value_bind, Logged.value_pure]
            at plugged ⊢
          rw [Happening.occurrence, occur, plugged]
          cases (session.bus.attach peripheral).value <;> rfl
      | detached address => exact bus_detach session address
  | task now => rw [Happening.occurrence, occur, PlayerBus.occur, task, PlayerBus.task]
  | signal signal => rfl
  | rewire change => rfl
  | influence change steady => rfl

/-- The run of a bus is the run of a session in whose cycles no signals
arrive. -/
theorem bus_after (session : Session P W) (happenings : List (Happening P W)) :
    (session.after (happenings.map Happening.occurrence)).bus = session.bus.after happenings := by
  induction happenings generalizing session with
  | nil => rfl
  | cons happening rest ih =>
      rw [List.map_cons, after, ih, bus_occur]
      rfl

end Run

end Session

end PlayerBus

end MapleBus
