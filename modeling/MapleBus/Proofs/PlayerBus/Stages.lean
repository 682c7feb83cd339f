import MapleBus.Proofs.PlayerBus.Journal
import MapleBus.Proofs.PlayerBus.Plugging
import Mathlib.Logic.Relation

/-!
# The stages of a session

While the scheduler is tidy, a session can be told by the occupant of its bus,
its peripherals and its journal.  Each request of a program and each stage of a
cycle then goes one of a few ways, and a run is a sequence of such stages; what
every stage keeps holds after every run.
-/

namespace MapleBus

/-! ## Requests -/

/-- The ways a request of a program can go, in terms of the occupant of the bus and
the journal.  Submitted packets follow a rule. -/
inductive Request {P : Type} (rule : Packet → Prop) (author : P) :
    Option Transmission × Journal P → Option Transmission × Journal P → Prop where
  /-- While the bus is occupied, submissions are refused. -/
  | refused (tx : Transmission) (packet : Packet) (journal : Journal P) :
      Request rule author (some tx, journal)
        (some tx, .refused author packet .busBusy :: journal)
  /-- A submission occupies the free bus. -/
  | accepted (tx : Transmission) (journal : Journal P) (pending : tx.status = .pending)
      (follows : rule tx.packet) :
      Request rule author (none, journal) (some tx, .accepted author tx :: journal)
  /-- The occupant is dropped while it is pending. -/
  | cancelled (tx : Transmission) (journal : Journal P) (pending : tx.status = .pending) :
      Request rule author (some tx, journal) (none, .cancelled tx :: journal)

namespace Desk

variable {P : Type} {desk : Desk P}

/-- What a program can tell a desk by. -/
def view (desk : Desk P) : Option Transmission × Journal P :=
  (desk.scheduler.occupant?, desk.journal)

/-- A submission is accepted exactly when the bus is free, and refused only because
it is busy. -/
theorem submit_cases (tidy : desk.scheduler.Tidy) (author : P) (packet : Packet)
    (expectsReply : Bool) :
    (desk.submit author packet expectsReply).2.scheduler.Tidy ∧
      ((∃ tx, desk.scheduler.occupant? = some tx ∧
          (desk.submit author packet expectsReply).1 = .error .busBusy ∧
          (desk.submit author packet expectsReply).2.view =
            (some tx, .refused author packet .busBusy :: desk.journal)) ∨
        (∃ tx, tx = { id := desk.scheduler.nextId, packet, expectsReply } ∧
          desk.scheduler.occupant? = none ∧
          (desk.submit author packet expectsReply).1 = .ok ⟨0, tx.id⟩ ∧
          (desk.submit author packet expectsReply).2.view =
            (some tx, .accepted author tx :: desk.journal))) := by
  cases occupied : desk.scheduler.occupant? with
  | some tx =>
      obtain ⟨answer, result, occupant⟩ :=
        tidy.schedule_of_occupied occupied packet expectsReply
      refine ⟨result, Or.inl ⟨tx, rfl, answer, ?_⟩⟩
      simp only [view, submit, answer, occupant]
  | none =>
      obtain ⟨answer, result, occupant⟩ :=
        tidy.schedule_of_vacant occupied packet expectsReply
      refine ⟨result, Or.inr ⟨_, rfl, rfl, answer, ?_⟩⟩
      simp only [view, submit, answer, occupant]
      rfl

theorem request_submit (tidy : desk.scheduler.Tidy) (author : P) {packet : Packet}
    {rule : Packet → Prop} (follows : rule packet) (expectsReply : Bool) :
    Request rule author desk.view (desk.submit author packet expectsReply).2.view := by
  rcases (submit_cases tidy author packet expectsReply).2 with
    ⟨tx, busy, -, seen⟩ | ⟨tx, rfl, free, -, seen⟩
  · rw [seen, view, busy]
    exact .refused tx packet desk.journal
  · rw [seen, view, free]
    exact .accepted _ desk.journal rfl follows

theorem request_remove (tidy : desk.scheduler.Tidy) (author : P) (rule : Packet → Prop)
    (condition : Transmission → Bool) :
    Relation.ReflGen (Request rule author) desk.view (desk.remove condition).view := by
  have occupant := tidy.occupant?_removePending condition
  have doomed := tidy.doomed_eq condition
  simp only [view, remove, occupant, doomed]
  cases occupied : desk.scheduler.occupant? with
  | none => exact .refl
  | some tx =>
      rw [Option.filter_some, Option.filter_some]
      cases meant : tx.status.isPending && condition tx with
      | false => exact .refl
      | true =>
          obtain ⟨pending, -⟩ := (Bool.and_eq_true _ _).mp meant
          exact .single (.cancelled tx desk.journal (Status.isPending_iff.mp pending))

end Desk

/-- A program makes requests only, and keeps the scheduler tidy. -/
theorem Endpoint.requests_play {α P : Type} {rule : Packet → Prop} {condition : α → Prop}
    {program : Endpoint α} (obeys : program.Obeys rule condition) (author : P) {desk : Desk P}
    (tidy : desk.scheduler.Tidy) :
    ((program.play author desk).2.scheduler.Tidy ∧
      Relation.ReflTransGen (Request rule author) desk.view (program.play author desk).2.view) ∧
      condition (program.play author desk).1 := by
  let reached (later : Desk P) : Prop :=
    later.scheduler.Tidy ∧ Relation.ReflTransGen (Request rule author) desk.view later.view
  have start : reached desk := ⟨tidy, .refl⟩
  apply play_induction _ _ _ obeys start
  · rintro later ⟨laterTidy, steps⟩
    exact ⟨laterTidy.hear _, steps⟩
  · rintro later packet expectsReply follows ⟨laterTidy, steps⟩
    exact ⟨(Desk.submit_cases laterTidy author packet expectsReply).1,
      steps.tail (Desk.request_submit laterTidy author follows expectsReply)⟩
  · rintro later meant ⟨laterTidy, steps⟩
    exact ⟨laterTidy.removePending meant,
      steps.trans (Desk.request_remove laterTidy author rule meant).to_reflTransGen⟩

namespace PlayerBus

variable {P W : Type} [Peripheral P]

/-- What every program keeps at its place, the programs of a cycle keep. -/
theorem playTasks_induction {motive : List P → Desk P → Prop} {now : UInt64}
    (program : ∀ {front peripheral back desk}, motive (front ++ peripheral :: back) desk →
      let ran := (Peripheral.task peripheral now).play peripheral
        (desk.write (.began peripheral))
      motive (front ++ ran.1 :: back) ran.2)
    {front peripherals : List P} {desk : Desk P} (start : motive (front ++ peripherals) desk) :
    motive (front ++ (playTasks now peripherals desk).1)
      (playTasks now peripherals desk).2 := by
  induction peripherals generalizing front desk with
  | nil => exact start
  | cons peripheral rest ih =>
      let ran := (Peripheral.task peripheral now).play peripheral
        (desk.write (.began peripheral))
      have first : motive (front ++ ran.1 :: rest) ran.2 := program start
      rw [List.append_cons] at first
      have others := ih first
      rw [← List.append_cons] at others
      exact others

/-! ## Stages -/

/-- The sides of a session that its stages can be told by. -/
structure View (P : Type) where
  occupant : Option Transmission
  peripherals : List P
  journal : Journal P

/-- The ways the stages of a session can go.  Changes of the peripherals from
outside are of a kind. -/
inductive Stage (kind : (P → P) → Prop) : View P → View P → Prop where
  /-- A cycle begins, and nothing is settled. -/
  | waited (view : View P) (now : UInt64) :
      Stage kind view { view with journal := .cycle now :: view.journal }
  /-- A cycle begins, the occupant has ended, and the first peripheral at its
  recipient's address is told. -/
  | concluded (tx : Transmission) (status : Status) (front back : List P) (peripheral : P)
      (journal : Journal P) (now : UInt64) (sent : tx.status = .sent)
      (terminal : status.isTerminal = true)
      (here : Peripheral.address peripheral = tx.recipient)
      (before : ∀ other ∈ front, Peripheral.address other ≠ tx.recipient) :
      Stage kind ⟨some tx, front ++ peripheral :: back, journal⟩
        ⟨none, front ++ (conclude peripheral { tx with status }).value :: back,
          .conclusion peripheral { tx with status } :: .settled { tx with status } ::
            .cycle now :: journal⟩
  /-- A cycle begins, the occupant has ended, and there is nobody to be told. -/
  | forgotten (tx : Transmission) (status : Status) (peripherals : List P)
      (journal : Journal P) (now : UInt64) (sent : tx.status = .sent)
      (terminal : status.isTerminal = true)
      (nobody : ∀ other ∈ peripherals, Peripheral.address other ≠ tx.recipient) :
      Stage kind ⟨some tx, peripherals, journal⟩
        ⟨none, peripherals, .settled { tx with status } :: .cycle now :: journal⟩
  /-- A peripheral works. -/
  | worked (front back : List P) (peripheral : P) (desk : Desk P) (now : UInt64)
      (tidy : desk.scheduler.Tidy) :
      Stage kind ⟨desk.scheduler.occupant?, front ++ peripheral :: back, desk.journal⟩
        (let ran := (Peripheral.task peripheral now).play peripheral
          (desk.write (.began peripheral))
        ⟨ran.2.scheduler.occupant?, front ++ ran.1 :: back, ran.2.journal⟩)
  /-- The wire takes the occupant, and the first peripheral at its recipient's address
  is told. -/
  | launched (tx : Transmission) (front back : List P) (peripheral : P) (journal : Journal P)
      (pending : tx.status = .pending)
      (here : Peripheral.address peripheral = tx.recipient)
      (before : ∀ other ∈ front, Peripheral.address other ≠ tx.recipient) :
      Stage kind ⟨some tx, front ++ peripheral :: back, journal⟩
        ⟨some { tx with status := .sent },
          front ++ (Peripheral.started peripheral { tx with status := .sent }).value :: back,
          .started peripheral { tx with status := .sent } ::
            .sent { tx with status := .sent } :: journal⟩
  /-- The wire takes the occupant, and there is nobody to be told. -/
  | slipped (tx : Transmission) (peripherals : List P) (journal : Journal P)
      (pending : tx.status = .pending)
      (nobody : ∀ other ∈ peripherals, Peripheral.address other ≠ tx.recipient) :
      Stage kind ⟨some tx, peripherals, journal⟩
        ⟨some { tx with status := .sent }, peripherals,
          .sent { tx with status := .sent } :: journal⟩
  /-- A peripheral is plugged in at a free address. -/
  | attached (occupant : Option Transmission) (front back : List P) (peripheral : P)
      (journal : Journal P)
      (free : Peripheral.address peripheral ∉ (front ++ back).map Peripheral.address) :
      Stage kind ⟨occupant, front ++ back, journal⟩
        ⟨occupant, front ++ peripheral :: back, .attached peripheral :: journal⟩
  /-- Peripherals are unplugged to whom nothing pending is addressed. -/
  | detached (view : View P) (leaves : P → Bool)
      (kept : ∀ tx, view.occupant = some tx → tx.status = .pending →
        ∀ peripheral ∈ view.peripherals.filter leaves,
          Peripheral.address peripheral ≠ tx.recipient) :
      Stage kind view
        ⟨view.occupant, view.peripherals.filter fun peripheral => !leaves peripheral,
          (view.peripherals.filter leaves).map .detached ++ view.journal⟩
  /-- Peripherals are unplugged, and pending work is dropped with them. -/
  | withdrawn (tx : Transmission) (peripherals : List P) (journal : Journal P)
      (leaves : P → Bool) (pending : tx.status = .pending) :
      Stage kind ⟨some tx, peripherals, journal⟩
        ⟨none, peripherals.filter fun peripheral => !leaves peripheral,
          (peripherals.filter leaves).map .detached ++ .cancelled tx :: journal⟩
  /-- The peripherals are changed from outside. -/
  | influenced (view : View P) (change : P → P) (ofKind : kind change) :
      Stage kind view { view with peripherals := view.peripherals.map change }

/-- Stages one after the other. -/
abbrev Stages (kind : (P → P) → Prop) : View P → View P → Prop :=
  Relation.ReflTransGen (Stage kind)

namespace Session

variable {session : Session P W}

/-- What a session can be told by. -/
def view {P W : Type} (session : Session P W) : View P where
  occupant := session.bus.scheduler.occupant?
  peripherals := session.bus.peripherals
  journal := session.journal

/-! ## Cycles -/

theorem deliver_nil (session : Session P W) (queue : session.bus.scheduler.events = []) :
    session.deliver = session := by
  obtain ⟨⟨settings, ⟨table, events, completion, receiveBuffer, nextId, counters⟩, wire,
    peripherals, failures⟩, journal⟩ := session
  cases queue
  rfl

/-- Delivering a single event calls back the first peripheral at the recipient's
address, if there is one. -/
theorem deliver_call (session : Session P W) (quiet : PlayerBus P W) {event : Event}
    (queue : session.bus.scheduler.events = [event])
    (quieted : quiet =
      { session.bus with scheduler := { session.bus.scheduler with events := [] } })
    {update : P → Logged P} {call : P → JournalEntry P} {next : Scheduler}
    (delivered : ∃ failures, (quiet.deliverEvent event).value =
      { quiet with
        scheduler := next
        failures
        peripherals := (change event.recipient update quiet.peripherals).value.2 })
    (called : quiet.callback? event = (quiet.peripheral? event.recipient).map call) :
    session.deliver.bus.scheduler = next ∧
      ((∃ front peripheral back, session.bus.peripherals = front ++ peripheral :: back ∧
          Peripheral.address peripheral = event.recipient ∧
          (∀ other ∈ front, Peripheral.address other ≠ event.recipient) ∧
          session.deliver.view =
            ⟨next.occupant?, front ++ (update peripheral).value :: back,
              call peripheral :: session.journal⟩) ∨
        ((∀ other ∈ session.bus.peripherals, Peripheral.address other ≠ event.recipient) ∧
          session.deliver.view =
            ⟨next.occupant?, session.bus.peripherals, session.journal⟩)) := by
  obtain ⟨failures, delivered⟩ := delivered
  have delivery : session.deliver =
      { bus := (quiet.deliverEvent event).value
        journal := (quiet.callback? event).toList ++ session.journal } := by
    rw [deliver_eq, queue, quieted]
    rfl
  have same : quiet.peripherals = session.bus.peripherals := by rw [quieted]
  rw [delivery, delivered, called, peripheral?, same]
  refine ⟨rfl, ?_⟩
  rcases change_cases event.recipient update session.bus.peripherals with
    ⟨front, peripheral, back, split, here, before, found, changed⟩ | ⟨nobody, found, changed⟩
  · refine Or.inl ⟨front, peripheral, back, split, here, before, ?_⟩
    rw [view, changed, found]
    rfl
  · refine Or.inr ⟨nobody, ?_⟩
    rw [view, changed, found]
    rfl

theorem settle_stage (kind : (P → P) → Prop) (tidy : session.bus.scheduler.Tidy)
    (now : UInt64) :
    (session.settle now).bus.scheduler.Tidy ∧
      Stage kind session.view (session.settle now).view := by
  rw [settle_eq]
  by_cases done : session.bus.scheduler.completion.phase = .done
  · obtain ⟨handle, tx, found, occupied, sent⟩ := tidy.occupant_of_done done
    obtain ⟨queue, -, next, released, result, vacant⟩ := tidy.service_of_done done found
    let status := (session.bus.scheduler.ruling tx).1
    have terminal : status.isTerminal = true := Scheduler.InStep.isTerminal_verdict _ _ _
    have journal : (session.harvested now).journal =
        .settled { tx with status } :: .cycle now :: session.journal := by
      rw [harvested, Scheduler.settled?_of_done tidy done found]
      rfl
    let quiet : PlayerBus P W :=
      { session.bus with
        scheduler := { session.bus.scheduler.service.value with events := [] } }
    let event := Scheduler.endOf handle tx status
    obtain ⟨scheduler, told⟩ := deliver_call (session.harvested now) quiet queue rfl
      (value_deliverEvent_of_end quiet event (isTerminal_endKind status) released)
      (callback?_of_end quiet event (isTerminal_endKind status) released)
    refine ⟨scheduler ▸ result, ?_⟩
    rcases told with ⟨front, peripheral, back, split, here, before, seen⟩ | ⟨nobody, seen⟩
    · have split : session.bus.peripherals = front ++ peripheral :: back := split
      rw [seen, view, occupied, vacant, split, journal]
      exact .concluded tx status front back peripheral session.journal now sent terminal here
        before
    · rw [seen, view, occupied, vacant, journal]
      exact .forgotten tx status _ session.journal now sent terminal nobody
  · obtain ⟨result, occupant⟩ := tidy.service_of_waiting done
    rw [deliver_nil _ result.events_eq_nil]
    refine ⟨result, ?_⟩
    simp only [view, harvested, Scheduler.settled?_of_waiting done, occupant]
    exact .waited session.view now

theorem work_stages (kind : (P → P) → Prop) (tidy : session.bus.scheduler.Tidy)
    (now : UInt64) (arrivals : List (List Signal)) :
    (session.work now arrivals).1.bus.scheduler.Tidy ∧
      Stages kind session.view (session.work now arrivals).1.view := by
  let reached (peripherals : List P) (desk : Desk P) : Prop :=
    desk.scheduler.Tidy ∧
      Stages kind session.view ⟨desk.scheduler.occupant?, peripherals, desk.journal⟩
  have start : reached ([] ++ session.bus.peripherals)
      { scheduler := session.bus.scheduler, arrivals, journal := session.journal } :=
    ⟨tidy, .refl⟩
  rw [work_eq]
  refine playTasks_induction ?_ start
  rintro front peripheral back desk ⟨deskTidy, steps⟩
  have began : (desk.write (.began peripheral)).scheduler.Tidy := deskTidy
  have ran := Endpoint.requests_play (Endpoint.obeys_true (Peripheral.task peripheral now))
    peripheral began
  exact ⟨ran.1.1, steps.tail (.worked front back peripheral desk now deskTidy)⟩

section Launch

variable [Wire W] {handle : Handle} {tx : Transmission}

/-- Without pending work nothing is offered to the wire. -/
theorem launch_of_no_pending (tidy : session.bus.scheduler.Tidy)
    (search : session.bus.scheduler.table.find? (fun tx => tx.status.isPending) = none) :
    session.launch = session := by
  have untouched := Scheduler.dispatch_of_no_pending search session.bus.wire
  have same : session.offered = session := by
    simp only [offered, Scheduler.sent?, untouched, Logged.value_pure]
    rfl
  rw [launch_eq, same, deliver_nil _ tidy.events_eq_nil]

/-- A wire that refuses changes nothing that the stages are told by. -/
theorem launch_of_refusal (tidy : session.bus.scheduler.Tidy)
    (search : session.bus.scheduler.table.find? (fun tx => tx.status.isPending) =
      some (handle, tx))
    {refusal : BusError} (answer : (Scheduler.offer session.bus.wire tx).result = .error refusal) :
    session.launch.bus.scheduler.Tidy ∧ session.launch.view = session.view := by
  obtain ⟨occupied, -⟩ := tidy.occupant_of_pending search
  obtain ⟨nothing, result, occupant⟩ := tidy.dispatch_of_refusal search answer
  rw [launch_eq, deliver_nil _ result.events_eq_nil]
  refine ⟨result, ?_⟩
  simp only [view, offered, Scheduler.sent?, nothing]
  rw [occupied, ← occupant]
  rfl

/-- A wire that accepts takes the occupant, and whoever is at its address is told. -/
theorem launch_of_acceptance (kind : (P → P) → Prop) (tidy : session.bus.scheduler.Tidy)
    (search : session.bus.scheduler.table.find? (fun tx => tx.status.isPending) =
      some (handle, tx))
    (answer : (Scheduler.offer session.bus.wire tx).result = .ok ()) :
    session.launch.bus.scheduler.Tidy ∧ Stage kind session.view session.launch.view := by
  obtain ⟨occupied, pending⟩ := tidy.occupant_of_pending search
  obtain ⟨taken, queue, known, result, occupant⟩ := tidy.dispatch_of_acceptance search answer
  have journal : session.offered.journal =
      .sent { tx with status := .sent } :: session.journal := by
    have found : session.bus.scheduler.sent? session.bus.wire =
        some { tx with status := .sent } := by
      rw [Scheduler.sent?, taken]
      exact known
    rw [offered, found]
    rfl
  let quiet := session.offered.quieted.bus
  have occupant : quiet.scheduler.occupant? = some { tx with status := .sent } := occupant
  let event := Scheduler.startOf handle tx
  obtain ⟨scheduler, told⟩ := deliver_call session.offered quiet queue rfl
    ⟨_, value_deliverEvent_of_start quiet event rfl known⟩
    (callback?_of_start quiet event rfl known)
  rw [launch_eq]
  refine ⟨scheduler ▸ result, ?_⟩
  rcases told with ⟨front, peripheral, back, split, here, before, seen⟩ | ⟨nobody, seen⟩
  · have split : session.bus.peripherals = front ++ peripheral :: back := split
    rw [seen, view, occupied, occupant, split, journal]
    exact .launched tx front back peripheral session.journal pending here before
  · rw [seen, view, occupied, occupant, journal]
    exact .slipped tx _ session.journal pending nobody

theorem launch_stages (kind : (P → P) → Prop) (tidy : session.bus.scheduler.Tidy) :
    session.launch.bus.scheduler.Tidy ∧ Stages kind session.view session.launch.view := by
  cases search : session.bus.scheduler.table.find? (fun tx => tx.status.isPending) with
  | none =>
      rw [launch_of_no_pending tidy search]
      exact ⟨tidy, .refl⟩
  | some found =>
      obtain ⟨handle, tx⟩ := found
      cases answer : (Scheduler.offer session.bus.wire tx).result with
      | error refusal =>
          obtain ⟨result, same⟩ := launch_of_refusal tidy search answer
          rw [same]
          exact ⟨result, .refl⟩
      | ok _ =>
          obtain ⟨result, stage⟩ := launch_of_acceptance kind tidy search answer
          exact ⟨result, .single stage⟩

end Launch

/-- Signals change the cell, which no view shows. -/
theorem view_hear {P W : Type} (session : Session P W) (signals : List Signal) :
    (session.hear signals).view = session.view :=
  rfl

theorem tidy_hear {P W : Type} {session : Session P W} (tidy : session.bus.scheduler.Tidy)
    (signals : List Signal) : (session.hear signals).bus.scheduler.Tidy :=
  tidy.hear signals

theorem task_stages [Wire W] (kind : (P → P) → Prop) (tidy : session.bus.scheduler.Tidy)
    (now : UInt64) (arrivals : List (List Signal)) :
    (session.task now arrivals).bus.scheduler.Tidy ∧
      Stages kind session.view (session.task now arrivals).view := by
  have settled := settle_stage kind (tidy_hear tidy (arrivals.headD [])) now
  have worked := work_stages kind settled.1 now arrivals.tail
  rw [view_hear] at settled
  rw [task_eq, offering]
  generalize ((session.hear (arrivals.headD [])).settle now).work now arrivals.tail = work
    at worked ⊢
  have launched := launch_stages kind (tidy_hear worked.1 (work.2.headD []))
  rw [view_hear] at launched
  exact ⟨launched.1, (Relation.ReflTransGen.single settled.2).trans (worked.2.trans launched.2)⟩

/-! ## Plugging -/

theorem attach_stages (kind : (P → P) → Prop) (tidy : session.bus.scheduler.Tidy)
    (peripheral : P) :
    (session.attach peripheral).bus.scheduler.Tidy ∧
      Stages kind session.view (session.attach peripheral).view := by
  cases attached : (session.bus.attach peripheral).value with
  | error fault =>
      rw [attach, attached]
      exact ⟨tidy, .refl⟩
  | ok bus =>
      obtain ⟨free, rfl⟩ := of_attached attached
      obtain ⟨front, back, split, inserted⟩ := exists_insert peripheral session.bus.peripherals
      have plugged : session.attach peripheral =
          { bus := { session.bus with peripherals := front ++ peripheral :: back }
            journal := .attached peripheral :: session.journal } := by
        rw [attach, attached, inserted]
      rw [addresses, split] at free
      rw [plugged, view, split]
      exact ⟨tidy, .single (.attached _ front back peripheral session.journal free)⟩

/-- Cancelling the work of whoever leaves drops the occupant if it is pending and
addressed to one of them. -/
theorem cancelWork_of_tidy {scheduler : Scheduler} (tidy : scheduler.Tidy) (removed : List P) :
    (cancelWork scheduler removed).value.Tidy ∧
      (cancelWork scheduler removed).value.occupant? = scheduler.occupant?.filter fun tx =>
        !(tx.status.isPending &&
          removed.any fun peripheral => Peripheral.address peripheral == tx.recipient) := by
  induction removed generalizing scheduler with
  | nil =>
      refine ⟨tidy, ?_⟩
      change scheduler.occupant? = _
      cases scheduler.occupant? <;> simp [Option.filter_some]
  | cons peripheral rest ih =>
      obtain ⟨result, occupant⟩ :=
        ih (tidy.removePending fun tx => tx.recipient == Peripheral.address peripheral)
      refine ⟨result, occupant.trans ?_⟩
      rw [tidy.occupant?_removePending, Option.filter_filter]
      congr 1
      funext tx
      rw [List.any_cons, Bool.beq_comm]
      cases tx.status.isPending <;> simp

/-- Whoever leaves takes pending work addressed to them along. -/
theorem stage_of_leaving (kind : (P → P) → Prop) (view : View P) (leaves : P → Bool) :
    let removed := view.peripherals.filter leaves
    let meant (tx : Transmission) : Bool :=
      removed.any fun peripheral => Peripheral.address peripheral == tx.recipient
    Stage kind view
      ⟨view.occupant.filter fun tx => !(tx.status.isPending && meant tx),
        view.peripherals.filter fun peripheral => !leaves peripheral,
        removed.map .detached ++
          ((view.occupant.filter fun tx => tx.status.isPending && meant tx).toList.map .cancelled ++
            view.journal)⟩ := by
  intro removed meant
  obtain ⟨occupant, peripherals, journal⟩ := view
  cases occupant with
  | none =>
      refine .detached ⟨none, peripherals, journal⟩ leaves ?_
      rintro tx impossible
      contradiction
  | some tx =>
      cases hit : tx.status.isPending && meant tx with
      | false =>
          simp only [Option.filter_some, hit]
          refine .detached ⟨some tx, peripherals, journal⟩ leaves ?_
          rintro other ⟨⟩ pending peripheral leaver same
          rcases Bool.and_eq_false_iff.mp hit with notPending | nobody
          · rw [pending] at notPending
            contradiction
          · exact List.any_eq_false.mp nobody peripheral leaver (by simpa using same)
      | true =>
          obtain ⟨pending, -⟩ := (Bool.and_eq_true _ _).mp hit
          simp only [Option.filter_some, hit]
          exact .withdrawn tx peripherals journal leaves (Status.isPending_iff.mp pending)

theorem detach_stages (kind : (P → P) → Prop) (tidy : session.bus.scheduler.Tidy)
    (address : Address) :
    (session.detach address).bus.scheduler.Tidy ∧
      Stages kind session.view (session.detach address).view := by
  cases detached : (session.bus.detach address).value with
  | error fault =>
      rw [detach, detached]
      exact ⟨tidy, .refl⟩
  | ok result =>
      obtain ⟨removed, bus⟩ := result
      obtain ⟨leaves, rfl, remaining, cancelled⟩ := of_detached detached
      let removed := session.bus.peripherals.filter leaves
      obtain ⟨result, occupant⟩ := cancelWork_of_tidy tidy removed
      rw [← cancelled] at result occupant
      have seen : (session.detach address).view =
          ⟨session.bus.scheduler.occupant?.filter fun tx => !(tx.status.isPending &&
              removed.any fun peripheral => Peripheral.address peripheral == tx.recipient),
            bus.peripherals,
            removed.map .detached ++
              ((session.bus.scheduler.doomed fun tx => removed.any fun peripheral =>
                Peripheral.address peripheral == tx.recipient).map .cancelled ++
                  session.journal)⟩ := by
        rw [← occupant, detach, detached]
        rfl
      have plugged : (session.detach address).bus = bus := by
        rw [detach, detached]
      rw [plugged, seen, remaining, tidy.doomed_eq]
      exact ⟨result, .single (stage_of_leaving kind session.view leaves)⟩

/-! ## Cancelling -/

theorem cancel_stages (kind : (P → P) → Prop) (tidy : session.bus.scheduler.Tidy)
    (cancellation : Scheduler.Cancellation) :
    (session.cancel cancellation).bus.scheduler.Tidy ∧
      Stages kind session.view (session.cancel cancellation).view := by
  have removed := tidy.withdraw_eq cancellation
  have occupant := tidy.occupant?_removePending cancellation.concerns
  have doomed := tidy.doomed_eq cancellation.concerns
  constructor
  · change (session.bus.scheduler.withdraw cancellation).Tidy
    rw [removed]
    exact tidy.removePending _
  · simp only [view, cancel, removed, occupant, doomed]
    cases occupied : session.bus.scheduler.occupant? with
    | none => exact .refl
    | some tx =>
        rw [Option.filter_some, Option.filter_some]
        cases meant : tx.status.isPending && cancellation.concerns tx with
        | false => exact .refl
        | true =>
            have pending := ((Bool.and_eq_true _ _).mp meant).1
            have dropped : Stage kind ⟨some tx, session.bus.peripherals, session.journal⟩ _ :=
              .withdrawn tx session.bus.peripherals session.journal (fun _ => false)
                (Status.isPending_iff.mp pending)
            simpa using Relation.ReflTransGen.single dropped

/-! ## Runs -/

section Run

variable [Wire W]

/-- Every occurrence is a sequence of stages and keeps the scheduler tidy. -/
theorem occur_stages (kind : (P → P) → Prop) (tidy : session.bus.scheduler.Tidy)
    (occurrence : Occurrence P W)
    (ofKind : ∀ change, occurrence = .influence change → kind change) :
    (session.occur occurrence).bus.scheduler.Tidy ∧
      Stages kind session.view (session.occur occurrence).view := by
  cases occurrence with
  | attach peripheral => exact attach_stages kind tidy peripheral
  | detach address => exact detach_stages kind tidy address
  | handle event =>
      cases event with
      | attached peripheral => exact attach_stages kind tidy peripheral
      | detached address => exact detach_stages kind tidy address
  | task now arrivals =>
      rw [occur]
      exact task_stages kind tidy now arrivals
  | signal raised => exact ⟨tidy.signal raised, .refl⟩
  | cancel cancellation => exact cancel_stages kind tidy cancellation
  | rewire change => exact ⟨tidy, .refl⟩
  | influence change => exact ⟨tidy, .single (.influenced session.view change (ofKind change rfl))⟩

/-- Every run is a sequence of stages and keeps the scheduler tidy. -/
theorem after_stages (kind : (P → P) → Prop) (tidy : session.bus.scheduler.Tidy)
    {occurrences : List (Occurrence P W)}
    (ofKind : ∀ change, .influence change ∈ occurrences → kind change) :
    (session.after occurrences).bus.scheduler.Tidy ∧
      Stages kind session.view (session.after occurrences).view := by
  let reached (later : Session P W) : Prop :=
    later.bus.scheduler.Tidy ∧ Stages kind session.view later.view
  have start : reached session := ⟨tidy, .refl⟩
  refine after_induction ?_ start
  rintro later ⟨laterTidy, steps⟩ occurrence mem
  have ofThisKind : ∀ change, occurrence = .influence change → kind change := by
    rintro change rfl
    exact ofKind change mem
  obtain ⟨result, further⟩ := occur_stages kind laterTidy occurrence ofThisKind
  exact ⟨result, steps.trans further⟩

end Run

/-- A bus that was just created is tidy, and nobody is plugged in. -/
theorem opened_of_created {P W : Type} {settings : Settings} {wire : W} {bus : PlayerBus P W}
    (created : create settings wire = .ok bus) :
    (opened bus).bus.scheduler.Tidy ∧ (opened bus).view = ⟨none, [], []⟩ := by
  unfold create at created
  cases valid : settings.validate with
  | error fault =>
      rw [valid] at created
      contradiction
  | ok _ =>
      rw [valid] at created
      cases created
      exact ⟨Scheduler.Tidy.empty, rfl⟩

end Session

end PlayerBus

end MapleBus
