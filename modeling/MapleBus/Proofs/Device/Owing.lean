import MapleBus.Device.Keyboard
import MapleBus.Proofs.Device.Reporting
import MapleBus.Proofs.PlayerBus.Ownership
import MapleBus.Proofs.Scheduler.Lifespan
import MapleBus.Proofs.Timing.Deadlines

/-!
# What a report link owes

A link keeps two deadlines and no history.  Here a run of one link is written
down beside it: every report the scheduler accepted, when, and how it was seen
last.  Anything may happen to the scheduler between the polls, by anybody; the
link is only told how its own reports ended.  What the deadlines say is then
what the history says: a kind of report is owed until one was accepted, after
the last one failed, and whenever a point of its grid has passed since.
-/

namespace MapleBus

namespace Cadence

/-- The deadline after an instant has come exactly when a point of the grid lies in
between. -/
theorem next_le_iff {since period now : UInt64} (positive : period ≠ 0)
    (early : now.toNat < 0xFFFFFFFFFFFFFFFF) :
    next since period 0 ≤ now ↔
      ∃ count, since.toNat < count * period.toNat ∧ count * period.toNat ≤ now.toNat := by
  have least : IsLeast (ahead since period 0) (first since period 0) := isLeast_first positive
  have uncapped : min (first since period 0) 0xFFFFFFFFFFFFFFFF ≤ now.toNat ↔
      first since period 0 ≤ now.toNat := by
    omega
  rw [UInt64.le_iff_toNat_le, toNat_next positive, uncapped]
  constructor
  · intro passed
    obtain ⟨after, count, onGrid⟩ := least.1
    rw [UInt64.toNat_zero, Nat.zero_add] at onGrid
    rw [onGrid] at after passed
    exact ⟨count, after, passed⟩
  · rintro ⟨count, after, before⟩
    refine Nat.le_trans (least.2 ⟨after, count, ?_⟩) before
    rw [UInt64.toNat_zero, Nat.zero_add]

end Cadence

namespace Endpoint

variable {α β : Type}

/-- A packet that a program submitted, and the answer to it. -/
structure Submission where
  packet : Packet
  expectsReply : Bool
  answer : Except BusError Handle

/-- What a program submits when it is run. -/
def submissions (program : Endpoint α) (scheduler : Scheduler) : List Submission :=
  match program with
  | done _ => []
  | schedule packet expectsReply next =>
      let asked := (scheduler.schedule packet expectsReply).value
      { packet, expectsReply, answer := asked.1 } :: (next asked.1).submissions asked.2
  | status handle next => (next (scheduler.status? handle)).submissions scheduler
  | cancel handle next =>
      let asked := scheduler.cancel handle
      (next asked.1).submissions asked.2
  | cancelByRecipient recipient next =>
      let asked := scheduler.cancelByRecipient recipient
      (next asked.1).submissions asked.2
  | countRecipients recipient next =>
      (next (scheduler.countRecipients recipient)).submissions scheduler
  | isIdle next => (next scheduler.isIdle).submissions scheduler
  | note _ next => next.submissions scheduler

/-- A sequence submits what its parts submit. -/
theorem submissions_bind (program : Endpoint α) (rest : α → Endpoint β)
    (scheduler : Scheduler) :
    (program >>= rest).submissions scheduler =
      program.submissions scheduler ++
        (rest (program.run scheduler).value.1).submissions (program.run scheduler).value.2 := by
  induction program generalizing scheduler with
  | done result => rfl
  | schedule packet expectsReply next ih => exact congrArg (List.cons _) (ih _ _)
  | status handle next ih => exact ih _ _
  | cancel handle next ih => exact ih _ _
  | cancelByRecipient recipient next ih => exact ih _ _
  | countRecipients recipient next ih => exact ih _ _
  | isIdle next ih => exact ih _ _
  | note entry next ih => exact ih _

section Requests

variable (scheduler : Scheduler) (packet : Packet) (expectsReply : Bool) (handle : Handle)

@[simp]
theorem submissions_pure (result : α) : (pure result : Endpoint α).submissions scheduler = [] :=
  rfl

theorem value_run_submit :
    ((submit packet expectsReply).run scheduler).value =
      (scheduler.schedule packet expectsReply).value :=
  rfl

theorem submissions_submit :
    (submit packet expectsReply).submissions scheduler =
      [{ packet, expectsReply, answer := (scheduler.schedule packet expectsReply).value.1 }] :=
  rfl

theorem value_run_isOutstanding :
    ((isOutstanding handle).run scheduler).value =
      ((scheduler.status? handle).any Status.isOutstanding, scheduler) :=
  rfl

theorem submissions_isOutstanding : (isOutstanding handle).submissions scheduler = [] :=
  rfl

end Requests

end Endpoint

namespace Device

namespace Timing

/-- How often a kind of report is repeated.  Zero is for never. -/
def period (timing : Timing) : ReportKind → UInt64
  | .identify => timing.identifyPeriod
  | .condition => timing.reportPeriod

/-- When a kind of report is due again once it was accepted. -/
def dueAfter (timing : Timing) (kind : ReportKind) (since : UInt64) : Option UInt64 :=
  if timing.period kind = 0 then
    none
  else
    some (Cadence.next since (timing.period kind) 0)

end Timing

namespace ReportLink

/-! ## Deadlines -/

section Deadlines

variable (link : ReportLink) (kind other : ReportKind)

/-- When a kind of report is due, if ever again. -/
def deadline? : ReportKind → Option UInt64
  | .identify => link.identifyAt
  | .condition => some link.reportAt

/-- Whether a kind of report is owed at a time. -/
def owes (now : UInt64) : Bool :=
  (link.deadline? kind).any fun deadline => deadline ≤ now

theorem due?_eq (now : UInt64) :
    link.due? now =
      if link.owes .identify now then some .identify
      else if link.owes .condition now then some .condition
      else none := by
  simp [due?, owes, deadline?]

/-- An accepted report moves the deadline of its kind, and no other. -/
theorem deadline?_advance (reports : link.timing.reportPeriod ≠ 0) (now : UInt64) :
    (link.advance kind now).deadline? other =
      if kind = other then link.timing.dueAfter kind now else link.deadline? other := by
  cases kind with
  | identify =>
      cases other with
      | identify | condition => rfl
  | condition =>
      cases other with
      | identify => rfl
      | condition => simp [advance, deadline?, Timing.dueAfter, Timing.period, reports]

/-- A failed report makes its kind due, and no other. -/
theorem deadline?_renew :
    (link.renew kind).deadline? other = if kind = other then some 0 else link.deadline? other := by
  cases kind <;> cases other <;> simp [renew, deadline?]

theorem timing_advance (now : UInt64) : (link.advance kind now).timing = link.timing := by
  cases kind <;> rfl

theorem timing_renew : (link.renew kind).timing = link.timing := by
  cases kind <;> rfl

theorem outstanding_renew : (link.renew kind).outstanding = link.outstanding := by
  cases kind <;> rfl

end Deadlines

/-! ## One cycle -/

section Round

variable {link : ReportLink} {scheduler : Scheduler} {now : UInt64} {info : DeviceInfo}
  {version : String} {words : List UInt32}

/-- Whether the report accepted last occupies the bus. -/
def occupied (link : ReportLink) (scheduler : Scheduler) : Bool :=
  link.outstanding.any fun handle => (scheduler.status? handle).any Status.isOutstanding

/-- The link once its last report is forgotten. -/
def released (link : ReportLink) : ReportLink :=
  { link with outstanding := none }

/-- The ways a cycle can go: what it leaves, and what it submits. -/
inductive Round (link : ReportLink) (scheduler : Scheduler) (now : UInt64)
    (report : ReportKind → Packet) :
    ReportLink → Scheduler → List Endpoint.Submission → Prop
  /-- The last report is under way. -/
  | waits (busy : link.occupied scheduler = true) :
      Round link scheduler now report link scheduler []
  /-- Nothing is due. -/
  | rests (finished : link.occupied scheduler = false) (nothing : link.due? now = none) :
      Round link scheduler now report link.released scheduler []
  | refused {kind : ReportKind} {refusal : BusError} (finished : link.occupied scheduler = false)
      (due : link.due? now = some kind)
      (answer : (scheduler.schedule (report kind) false).value.1 = .error refusal) :
      Round link scheduler now report link.released
        (scheduler.schedule (report kind) false).value.2
        [{ packet := report kind, expectsReply := false, answer := .error refusal }]
  | accepted {kind : ReportKind} {handle : Handle} (finished : link.occupied scheduler = false)
      (due : link.due? now = some kind)
      (answer : (scheduler.schedule (report kind) false).value.1 = .ok handle) :
      Round link scheduler now report ({ link with outstanding := some handle }.advance kind now)
        (scheduler.schedule (report kind) false).value.2
        [{ packet := report kind, expectsReply := false, answer := .ok handle }]

theorem kind_report (kind : ReportKind) :
    ReportKind.ofPacket (link.report info version words kind) = kind := by
  cases kind <;> rfl

/-- Asking after the last report submits nothing, and forgets it when it is over. -/
theorem run_askOutstanding (link : ReportLink) (scheduler : Scheduler) :
    (link.askOutstanding.run scheduler).value =
        ((link.occupied scheduler,
          if link.occupied scheduler then link else link.released), scheduler) ∧
      link.askOutstanding.submissions scheduler = [] := by
  obtain ⟨address, timing, outstanding, identifyAt, reportAt⟩ := link
  cases outstanding with
  | none => exact ⟨rfl, rfl⟩
  | some handle =>
      simp only [askOutstanding, occupied, Option.any_some, Endpoint.value_run_bind,
        Endpoint.submissions_bind, Endpoint.value_run_isOutstanding,
        Endpoint.submissions_isOutstanding]
      by_cases busy : (scheduler.status? handle).any Status.isOutstanding = true
      · simp [busy]
      · simp [busy, released]

/-- Submitting the report that is due ends a cycle. -/
theorem round_of_submit {kind : ReportKind} (finished : link.occupied scheduler = false)
    (due : link.due? now = some kind) (info : DeviceInfo) (version : String)
    (words : List UInt32) :
    let program := link.released.submit now (link.report info version words kind)
    Round link scheduler now (link.report info version words)
      (program.run scheduler).value.1.2 (program.run scheduler).value.2
      (program.submissions scheduler) := by
  simp only [submit, Endpoint.value_run_bind, Endpoint.submissions_bind,
    Endpoint.value_run_submit, Endpoint.submissions_submit]
  cases answer : (scheduler.schedule (link.report info version words kind) false).value.1 with
  | error refusal => exact .refused finished due answer
  | ok handle =>
      rw [kind_report]
      exact .accepted finished due answer

/-- Every cycle of a link goes one of these ways. -/
theorem round_poll (link : ReportLink) (scheduler : Scheduler) (now : UInt64) (info : DeviceInfo)
    (version : String) (words : List UInt32) :
    let program := link.poll now info version words
    Round link scheduler now (link.report info version words)
      (program.run scheduler).value.1.2 (program.run scheduler).value.2
      (program.submissions scheduler) := by
  obtain ⟨asked, nothing⟩ := link.run_askOutstanding scheduler
  simp only [poll, Endpoint.value_run_bind, Endpoint.submissions_bind, asked, nothing,
    List.nil_append]
  cases busy : link.occupied scheduler with
  | true => exact .waits busy
  | false =>
      simp only [Bool.false_eq_true, if_false]
      have sameDue : link.released.due? now = link.due? now := rfl
      rw [sameDue]
      cases due : link.due? now with
      | none => exact .rests busy due
      | some kind =>
          have goes := round_of_submit busy due info version words
          cases kind with
          | identify | condition =>
              simp only [Endpoint.value_run_bind, Endpoint.submissions_bind, Endpoint.run_pure,
                Endpoint.submissions_pure, Logged.value_pure, List.append_nil]
              exact goes

end Round

/-! ## What was accepted -/

/-- A report that the scheduler accepted. -/
structure Report where
  handle : Handle
  /-- The time at which it was submitted. -/
  time : UInt64
  /-- Its transmission as it was seen last; what has ended does not change. -/
  tx : Transmission
  /-- Whether the link was told how it ended. -/
  settled : Bool := false

namespace Report

def kind (report : Report) : ReportKind :=
  ReportKind.ofPacket report.tx.packet

/-- Look at the transmission once more, unless it has ended. -/
def look (scheduler : Scheduler) (report : Report) : Report :=
  if report.tx.status.isTerminal then
    report
  else
    { report with tx := (scheduler.get? report.handle).getD report.tx }

/-- The report that a submission at some time has become, if it was accepted. -/
def ofSubmission? (now : UInt64) (submission : Endpoint.Submission) : Option Report :=
  match submission.answer with
  | .ok handle =>
      some {
        handle
        time := now
        tx :=
          { id := handle.id
            packet := submission.packet
            expectsReply := submission.expectsReply } }
  | .error _ => none

/-- The last accepted report of a kind, of reports with the newest first. -/
def last? (reports : List Report) (kind : ReportKind) : Option Report :=
  reports.find? fun report => report.kind = kind

/-- The handle of the newest report, until the link is told of its end. -/
def followed? : List Report → Option Handle
  | [] => none
  | newest :: _ => if newest.settled then none else some newest.handle

end Report

/-- A point of the grid with some period lies after one time and not after another. -/
def Crossed (period since now : UInt64) : Prop :=
  ∃ count, since.toNat < count * period.toNat ∧ count * period.toNat ≤ now.toNat

/-- A kind of report is owed by the history: none was accepted, the last one has failed, or a
point of the grid has passed since the last one. -/
def Owed (timing : Timing) (reports : List Report) (kind : ReportKind) (now : UInt64) : Prop :=
  Report.last? reports kind = none ∨
    ∃ report, Report.last? reports kind = some report ∧
      (report.tx.status.isFailed = true ∨ Crossed (timing.period kind) report.time now)

/-- What can happen in a run of a link. -/
inductive Step : Type 1 where
  /-- Somebody operates the scheduler, or the wire does. -/
  | operate (operation : Scheduler.Operation)
  | poll (now : UInt64) (info : DeviceInfo) (version : String) (words : List UInt32)
  /-- The link is told how its last report ended. -/
  | settle

/-- A link, its scheduler and the reports that were accepted, newest first. -/
structure Watch where
  scheduler : Scheduler := {}
  link : ReportLink
  reports : List Report := []

namespace Watch

/-- Go one step and take down what was accepted and how it is seen then. -/
def perform (watch : Watch) : Step → Watch
  | .operate operation =>
      let next := (watch.scheduler.perform operation).value
      { watch with scheduler := next, reports := watch.reports.map (Report.look next) }
  | .poll now info version words =>
      let program := watch.link.poll now info version words
      let ran := (program.run watch.scheduler).value
      { scheduler := ran.2
        link := ran.1.2
        reports :=
          ((program.submissions watch.scheduler).filterMap (Report.ofSubmission? now)).reverse ++
            watch.reports }
  | .settle =>
      match watch.reports with
      | [] => watch
      | report :: earlier =>
          { watch with
            link := (watch.link.settle report.tx).value
            reports := { report with settled := true } :: earlier }

def after (watch : Watch) : List Step → Watch
  | [] => watch
  | step :: rest => (watch.perform step).after rest

/-- The link knows how every report has ended that has. -/
def Ready (watch : Watch) : Prop :=
  ∀ report ∈ watch.reports, report.tx.status.isTerminal = true → report.settled = true

/-- No pending report is cancelled, a poll finds the link ready, and it is told only of what
has ended. -/
def Permits (watch : Watch) : Step → Prop
  | .operate operation =>
      ∀ report ∈ watch.reports, report.tx.status = .pending →
        ((watch.scheduler.perform operation).value.get? report.handle).isSome = true
  | .poll _ _ _ _ => watch.Ready
  | .settle => watch.reports.head?.any (fun report => report.tx.status.isTerminal) = true

/-- Every step of a run is permitted when it is gone. -/
def Orderly (watch : Watch) : List Step → Prop
  | [] => True
  | step :: rest => watch.Permits step ∧ (watch.perform step).Orderly rest

instance (watch : Watch) : Decidable watch.Ready :=
  inferInstanceAs (Decidable (∀ report ∈ watch.reports, _))

instance (watch : Watch) : DecidablePred watch.Permits
  | .operate operation =>
      inferInstanceAs (Decidable (∀ report ∈ watch.reports, report.tx.status = .pending →
        ((watch.scheduler.perform operation).value.get? report.handle).isSome = true))
  | .poll _ _ _ _ => inferInstanceAs (Decidable watch.Ready)
  | .settle => inferInstanceAs (Decidable (_ = true))

instance decidableOrderly (watch : Watch) : DecidablePred watch.Orderly
  | [] => inferInstanceAs (Decidable True)
  | step :: rest =>
      have := decidableOrderly (watch.perform step) rest
      inferInstanceAs (Decidable (watch.Permits step ∧ (watch.perform step).Orderly rest))

/-- The packets a poll submits when it goes by what is owed. -/
def expected (watch : Watch) (now : UInt64) (info : DeviceInfo) (version : String)
    (words : List UInt32) : List Packet :=
  if watch.reports.head?.any fun report => report.tx.status.isOutstanding then
    []
  else if watch.link.owes .identify now then
    [watch.link.identification info version]
  else if watch.link.owes .condition now then
    [watch.link.conditionReport words]
  else
    []

/-- The deadlines of the link say what the history says. -/
structure Owing (timing : Timing) (watch : Watch) : Prop where
  owed : ∀ kind now, now.toNat < 0xFFFFFFFFFFFFFFFF →
    (watch.link.owes kind now = true ↔ Owed timing watch.reports kind now)
  /-- With period zero identification is owed once, and after a failure. -/
  once : timing.identifyPeriod = 0 → ∀ now, now.toNat < 0xFFFFFFFFFFFFFFFF →
    (watch.link.owes .identify now = true ↔
      ∀ report, Report.last? watch.reports .identify = some report →
        report.tx.status.isFailed = true)
  /-- A poll submits nothing while the last report is under way, and else one report that is
  owed, identification first. -/
  polled : ∀ now info version words,
    ((watch.link.poll now info version words).submissions watch.scheduler).map
        (fun submission => (submission.packet, submission.expectsReply)) =
      (watch.expected now info version words).map fun packet => (packet, false)
  /-- A poll that gets nothing accepted leaves what is owed as it was. -/
  rejected : ∀ now info version words,
    (∀ submission ∈ (watch.link.poll now info version words).submissions watch.scheduler,
      submission.answer.isOk = false) →
    (watch.perform (.poll now info version words)).reports = watch.reports ∧
      ∀ kind time, (watch.perform (.poll now info version words)).link.owes kind time =
        watch.link.owes kind time

/-! ## What every step keeps -/

/-- When a kind of report is due, given the last one that was accepted. -/
def deadlineOf (timing : Timing) (kind : ReportKind) : Option Report → Option UInt64
  | none => some 0
  | some report =>
      if report.settled && report.tx.status.isFailed then
        some 0
      else
        timing.dueAfter kind report.time

/-- The link follows the newest report until it is told of its end, and its deadlines come
from the last reports of either kind. -/
structure Sound (timing : Timing) (watch : Watch) : Prop where
  inStep : watch.scheduler.InStep
  timed : watch.link.timing = timing
  deadlines : ∀ kind, watch.link.deadline? kind =
    deadlineOf timing kind (Report.last? watch.reports kind)
  earlier : ∀ report ∈ watch.reports.tail, report.settled = true
  ended : ∀ report ∈ watch.reports, report.settled = true →
    report.tx.status.isTerminal = true
  identified : ∀ report ∈ watch.reports, report.tx.id = report.handle.id
  following : watch.link.outstanding = Report.followed? watch.reports
  known : ∀ report, watch.reports.head? = some report →
    report.tx.status.isTerminal = false →
    watch.scheduler.get? report.handle = some report.tx

variable {timing : Timing} {watch : Watch} {newest renewed report : Report}
  {earlier : List Report} {kind : ReportKind} {now : UInt64}

theorem Sound.fresh (address : Address) (timing : Timing) :
    Sound timing { link := { address, timing } } where
  inStep := Scheduler.InStep.empty
  timed := rfl
  deadlines := by
    intro kind
    cases kind with
    | identify | condition => rfl
  earlier := by simp
  ended := by simp
  identified := by simp
  following := rfl
  known := by simp

theorem last?_cons :
    Report.last? (newest :: earlier) kind =
      if newest.kind = kind then some newest else Report.last? earlier kind := by
  rw [Report.last?, List.find?_cons]
  by_cases same : newest.kind = kind
  · simp [same]
  · simp [same, Report.last?]

/-- A report that the link was not told of counts by its time alone. -/
theorem deadlineOf_renewed (kinds : renewed.kind = newest.kind) (times : renewed.time = newest.time)
    (unsettled : newest.settled = false) (stillUnsettled : renewed.settled = false) :
    deadlineOf timing kind (Report.last? (renewed :: earlier) kind) =
      deadlineOf timing kind (Report.last? (newest :: earlier) kind) := by
  rw [last?_cons, last?_cons, kinds]
  by_cases same : newest.kind = kind
  · simp [same, deadlineOf, unsettled, stillUnsettled, times]
  · simp [same]

/-! ### Operations of others -/

theorem look_of_ended (scheduler : Scheduler) (finished : report.tx.status.isTerminal = true) :
    report.look scheduler = report := by
  rw [Report.look, if_pos finished]

/-- A look at the newest report shows at most a new status, and shows it as the scheduler
does until it has ended. -/
theorem Sound.look_newest (sound : Sound timing watch) {operation : Scheduler.Operation}
    (permitted : watch.Permits (.operate operation)) (newest? : watch.reports.head? = some report)
    (underWay : report.tx.status.isTerminal = false) :
    ∃ status, (watch.scheduler.perform operation).value.get? report.handle =
        some { report.tx with status } ∧
      report.look (watch.scheduler.perform operation).value =
        { report with tx := { report.tx with status } } := by
  have found := sound.known report newest? underWay
  have turn := Scheduler.turn_perform sound.inStep found operation
  have shows : ∀ seen,
      (watch.scheduler.perform operation).value.get? report.handle = some seen →
        report.look (watch.scheduler.perform operation).value = { report with tx := seen } := by
    intro seen onward
    simp [Report.look, underWay, onward]
  generalize onward : (watch.scheduler.perform operation).value.get? report.handle = result
    at turn shows ⊢
  cases turn with
  | stays => exact ⟨report.tx.status, rfl, shows _ rfl⟩
  | goes => exact ⟨.sent, rfl, shows _ rfl⟩
  | ends => exact ⟨_, rfl, shows _ rfl⟩
  | gone leaves =>
      cases leaves with
      | cancelled pending =>
          have kept := permitted report (List.mem_of_mem_head? newest?) pending
          rw [onward] at kept
          contradiction
      | released finished =>
          rw [underWay] at finished
          contradiction

/-- What is under way is not settled. -/
theorem Sound.unsettled (sound : Sound timing watch) (mem : report ∈ watch.reports)
    (underWay : report.tx.status.isTerminal = false) : report.settled = false := by
  rw [Bool.eq_false_iff]
  intro settled
  have finished := sound.ended report mem settled
  rw [underWay] at finished
  contradiction

/-- An operation that the newest report, being under way, is seen to go on by. -/
theorem Sound.onward {scheduler next : Scheduler} {link : ReportLink}
    (sound : Sound timing ⟨scheduler, link, newest :: earlier⟩) (inStep : next.InStep)
    (underWay : newest.tx.status.isTerminal = false) {status : Status}
    (found : next.get? newest.handle = some { newest.tx with status }) :
    Sound timing
      ⟨next, link, { newest with tx := { newest.tx with status } } :: earlier⟩ := by
  have unsettled := sound.unsettled List.mem_cons_self underWay
  constructor
  · exact inStep
  · exact sound.timed
  · intro kind
    refine (sound.deadlines kind).trans (Eq.symm ?_)
    exact deadlineOf_renewed rfl rfl unsettled unsettled
  · exact sound.earlier
  · have ended := (List.forall_mem_cons.mp sound.ended).2
    refine List.forall_mem_cons.mpr ⟨?_, ended⟩
    intro settled
    rw [unsettled] at settled
    contradiction
  · exact List.forall_mem_cons.mpr (List.forall_mem_cons.mp sound.identified)
  · exact sound.following
  · rintro _ ⟨⟩ _
    exact found

theorem Sound.operate (sound : Sound timing watch) {operation : Scheduler.Operation}
    (permitted : watch.Permits (.operate operation)) :
    Sound timing (watch.perform (.operate operation)) := by
  have inStep := sound.inStep.perform operation
  obtain ⟨scheduler, link, reports⟩ := watch
  cases reports with
  | nil => exact { sound with inStep := inStep, known := by simp [perform] }
  | cons newest earlier =>
      -- The earlier reports are settled, so a look changes nothing about them.
      have same : earlier.map (Report.look (scheduler.perform operation).value) = earlier := by
        refine (List.map_congr_left ?_).trans (List.map_id earlier)
        intro report mem
        apply look_of_ended
        exact sound.ended report (List.mem_cons_of_mem _ mem) (sound.earlier report mem)
      simp only [perform, List.map_cons, same]
      cases finished : newest.tx.status.isTerminal with
      | true =>
          rw [look_of_ended _ finished]
          refine { sound with inStep := inStep, known := ?_ }
          rintro _ ⟨⟩ underWay
          rw [finished] at underWay
          contradiction
      | false =>
          obtain ⟨status, found, seen⟩ := sound.look_newest permitted rfl finished
          simp only at found seen
          rw [seen]
          exact sound.onward inStep finished found

/-! ### Polls -/

/-- While the newest report is under way the link waits for it. -/
theorem Sound.occupied_of_underWay (sound : Sound timing watch)
    (newest? : watch.reports.head? = some report)
    (underWay : report.tx.status.isTerminal = false) :
    watch.link.occupied watch.scheduler = true := by
  have unsettled := sound.unsettled (List.mem_of_mem_head? newest?) underWay
  have found := sound.known report newest? underWay
  have follows : watch.link.outstanding = some report.handle := by
    obtain ⟨earlier, reports⟩ := List.head?_eq_some_iff.mp newest?
    rw [sound.following, reports, Report.followed?, unsettled]
    rfl
  rw [occupied, follows, Option.any_some, Scheduler.status?, found]
  simp [Status.isOutstanding, underWay]

/-- A link that is ready and need not wait follows nothing. -/
theorem Sound.settled_of_over (sound : Sound timing watch) (ready : watch.Ready)
    (finished : watch.link.occupied watch.scheduler = false) :
    ∀ report ∈ watch.reports, report.settled = true := by
  intro report mem
  obtain ⟨scheduler, link, reports⟩ := watch
  cases reports with
  | nil => contradiction
  | cons newest earlier =>
      rcases List.mem_cons.mp mem with rfl | mem
      · cases ended : report.tx.status.isTerminal with
        | true => exact ready report List.mem_cons_self ended
        | false =>
            have busy := sound.occupied_of_underWay rfl ended
            rw [finished] at busy
            contradiction
      · exact sound.earlier report mem

theorem Sound.outstanding_of_settled (sound : Sound timing watch)
    (settled : ∀ report ∈ watch.reports, report.settled = true) :
    watch.link.outstanding = none := by
  rw [sound.following]
  cases reports : watch.reports with
  | nil => rfl
  | cons newest earlier =>
      rw [reports] at settled
      rw [Report.followed?, settled newest List.mem_cons_self, if_pos rfl]

theorem Sound.released_eq (sound : Sound timing watch)
    (settled : ∀ report ∈ watch.reports, report.settled = true) :
    watch.link.released = watch.link := by
  rw [released, ← sound.outstanding_of_settled settled]

/-- Another scheduler does not matter to a link that follows nothing. -/
theorem Sound.with_scheduler (sound : Sound timing watch)
    (settled : ∀ report ∈ watch.reports, report.settled = true) {scheduler : Scheduler}
    (inStep : scheduler.InStep) : Sound timing { watch with scheduler } := by
  refine { sound with inStep := inStep, known := ?_ }
  intro report newest? underWay
  have mem := List.mem_of_mem_head? newest?
  rw [sound.ended report mem (settled report mem)] at underWay
  contradiction

/-- The watch after the acceptance of a report. -/
def accept (watch : Watch) (now : UInt64) (packet : Packet) (handle : Handle) : Watch where
  scheduler := (watch.scheduler.schedule packet false).value.2
  link :=
    { watch.link with outstanding := some handle }.advance (ReportKind.ofPacket packet) now
  reports :=
    { handle, time := now, tx := { id := handle.id, packet, expectsReply := false } } ::
      watch.reports

theorem Sound.accept (reports : 0 < timing.reportPeriod) (sound : Sound timing watch)
    (settled : ∀ report ∈ watch.reports, report.settled = true) {packet : Packet}
    {handle : Handle} (answer : (watch.scheduler.schedule packet false).value.1 = .ok handle)
    (now : UInt64) :
    Sound timing (watch.accept now packet handle) := by
  have nonzero : timing.reportPeriod ≠ 0 := by
    rintro zero
    rw [zero] at reports
    contradiction
  constructor
  · exact sound.inStep.schedule packet false
  · exact (timing_advance _ _ _).trans sound.timed
  · intro kind
    have untouched : ReportLink.deadline? { watch.link with outstanding := some handle } kind =
        watch.link.deadline? kind := by
      cases kind <;> rfl
    rw [Watch.accept, deadline?_advance _ _ _ (by rwa [← sound.timed] at nonzero), untouched,
      last?_cons, sound.deadlines kind]
    change (if ReportKind.ofPacket packet = kind then
        watch.link.timing.dueAfter (ReportKind.ofPacket packet) now else _) =
      deadlineOf timing kind (if ReportKind.ofPacket packet = kind then _ else _)
    by_cases same : ReportKind.ofPacket packet = kind
    · simp [same, deadlineOf, sound.timed]
    · simp [same]
  · exact settled
  · refine List.forall_mem_cons.mpr ⟨?_, sound.ended⟩
    rintro ⟨⟩
  · exact List.forall_mem_cons.mpr ⟨rfl, sound.identified⟩
  · exact outstanding_advance _ _ _
  · rintro _ ⟨⟩ _
    exact Scheduler.get?_of_accepted answer

/-- What a poll does to a watch that is ready for it. -/
theorem Sound.poll_cases (sound : Sound timing watch) (ready : watch.Ready) (now : UInt64)
    (info : DeviceInfo) (version : String) (words : List UInt32) :
    let polled := watch.perform (.poll now info version words)
    let submitted := (watch.link.poll now info version words).submissions watch.scheduler
    (polled = watch ∧ submitted = [] ∧
        (watch.link.occupied watch.scheduler = true ∨ watch.link.due? now = none)) ∨
      ∃ kind, watch.link.occupied watch.scheduler = false ∧ watch.link.due? now = some kind ∧
        (∀ report ∈ watch.reports, report.settled = true) ∧
        ((∃ refusal scheduler, scheduler.InStep ∧ polled = { watch with scheduler } ∧
            submitted = [{
              packet := watch.link.report info version words kind
              expectsReply := false
              answer := .error refusal }]) ∨
          ∃ handle,
            (watch.scheduler.schedule (watch.link.report info version words kind) false).value.1 =
              .ok handle ∧
            polled = watch.accept now (watch.link.report info version words kind) handle ∧
            submitted = [{
              packet := watch.link.report info version words kind
              expectsReply := false
              answer := .ok handle }]) := by
  have round := watch.link.round_poll watch.scheduler now info version words
  simp only at round
  simp only [perform]
  generalize ((watch.link.poll now info version words).run watch.scheduler).value.1.2 = link
    at round ⊢
  generalize ((watch.link.poll now info version words).run watch.scheduler).value.2 = scheduler
    at round ⊢
  generalize (watch.link.poll now info version words).submissions watch.scheduler = submitted
    at round ⊢
  cases round with
  | waits busy => exact Or.inl ⟨rfl, rfl, Or.inl busy⟩
  | rests finished nothing =>
      have settled := sound.settled_of_over ready finished
      rw [sound.released_eq settled]
      exact Or.inl ⟨rfl, rfl, Or.inr nothing⟩
  | @refused kind refusal finished due answer =>
      have settled := sound.settled_of_over ready finished
      rw [sound.released_eq settled]
      exact Or.inr ⟨kind, finished, due, settled,
        Or.inl ⟨refusal, _, sound.inStep.schedule _ _, rfl, rfl⟩⟩
  | @accepted kind handle finished due answer =>
      have settled := sound.settled_of_over ready finished
      refine Or.inr ⟨kind, finished, due, settled, Or.inr ⟨handle, answer, ?_, rfl⟩⟩
      rw [Watch.accept, kind_report]
      rfl

theorem Sound.poll (reports : 0 < timing.reportPeriod) (sound : Sound timing watch)
    (ready : watch.Ready) (now : UInt64) (info : DeviceInfo) (version : String)
    (words : List UInt32) : Sound timing (watch.perform (.poll now info version words)) := by
  rcases sound.poll_cases ready now info version words with
    ⟨same, -, -⟩ | ⟨kind, -, -, settled, ⟨refusal, scheduler, inStep, next, -⟩ |
      ⟨handle, answer, next, -⟩⟩
  · rw [same]
    exact sound
  · rw [next]
    exact sound.with_scheduler settled inStep
  · rw [next]
    exact sound.accept reports settled answer now

/-! ### Ends -/

theorem value_settle (link : ReportLink) (tx : Transmission) :
    (link.settle tx).value =
      let told :=
        if link.outstanding.any fun handle => handle.id == tx.id then link.released else link
      if tx.status.isFailed then told.renew (ReportKind.ofPacket tx.packet) else told := by
  unfold settle
  cases link.outstanding.any fun handle => handle.id == tx.id with
  | true | false =>
      cases tx.status with
      | pending | sent | succeeded _ | failed _ => rfl

/-- A link that is told of the end of its newest report forgets it, and makes its kind due if
it failed. -/
theorem Sound.settle_newest (sound : Sound timing watch)
    (newest? : watch.reports.head? = some report) :
    (watch.link.settle report.tx).value =
      if report.tx.status.isFailed then watch.link.released.renew report.kind
      else watch.link.released := by
  have forgets : (if watch.link.outstanding.any fun handle => handle.id == report.tx.id then
      watch.link.released else watch.link) = watch.link.released := by
    obtain ⟨earlier, reports⟩ := List.head?_eq_some_iff.mp newest?
    have following := sound.following
    rw [reports, Report.followed?] at following
    cases settled : report.settled with
    | true =>
        rw [settled, if_pos rfl] at following
        rw [following, Option.any_none, released, ← following]
        rfl
    | false =>
        have id := sound.identified report (List.mem_of_mem_head? newest?)
        rw [settled] at following
        rw [following]
        simp [id]
  rw [value_settle, forgets]
  rfl

theorem deadline?_released (link : ReportLink) (kind : ReportKind) :
    link.released.deadline? kind = link.deadline? kind := by
  cases kind with
  | identify | condition => rfl

/-- A report that the link is told of counts by how it ended. -/
theorem Sound.deadline?_settle (sound : Sound timing watch)
    (newest? : watch.reports.head? = some report) (kind : ReportKind) :
    (watch.link.settle report.tx).value.deadline? kind =
      if report.kind = kind then deadlineOf timing kind (some { report with settled := true })
      else watch.link.deadline? kind := by
  obtain ⟨earlier, reports⟩ := List.head?_eq_some_iff.mp newest?
  have before := sound.deadlines kind
  rw [reports, last?_cons] at before
  rw [sound.settle_newest newest?]
  cases failed : report.tx.status.isFailed with
  | true =>
      rw [if_pos rfl, deadline?_renew, deadline?_released]
      simp [deadlineOf, failed]
  | false =>
      rw [if_neg Bool.false_ne_true, deadline?_released, before]
      by_cases same : report.kind = kind
      · simp [same, deadlineOf, failed]
      · simp [same]

theorem Sound.settle (sound : Sound timing watch) (permitted : watch.Permits .settle) :
    Sound timing (watch.perform .settle) := by
  obtain ⟨scheduler, link, reports⟩ := watch
  cases reports with
  | nil => exact sound
  | cons newest earlier =>
      have finished : newest.tx.status.isTerminal = true := permitted
      have newest? : (newest :: earlier).head? = some newest := rfl
      have told := sound.settle_newest newest?
      have deadlines := sound.deadline?_settle newest?
      have before := sound.deadlines
      simp only [last?_cons] at told deadlines before
      constructor
      · exact sound.inStep
      · change (link.settle newest.tx).value.timing = timing
        rw [told]
        split
        · exact (timing_renew _ _).trans sound.timed
        · exact sound.timed
      · intro kind
        change (link.settle newest.tx).value.deadline? kind = _
        rw [deadlines, perform, last?_cons]
        change _ = deadlineOf timing kind (if newest.kind = kind then _ else _)
        by_cases same : newest.kind = kind
        · simp only [same, if_true]
        · simp only [same, if_false, before]
      · exact sound.earlier
      · have ended := (List.forall_mem_cons.mp sound.ended).2
        exact List.forall_mem_cons.mpr ⟨fun _ => finished, ended⟩
      · exact List.forall_mem_cons.mpr (List.forall_mem_cons.mp sound.identified)
      · change (link.settle newest.tx).value.outstanding = none
        rw [told]
        split
        · exact outstanding_renew _ _
        · rfl
      · rintro _ ⟨⟩ underWay
        rw [finished] at underWay
        contradiction

theorem Sound.perform (reports : 0 < timing.reportPeriod) (sound : Sound timing watch) {step : Step}
    (permitted : watch.Permits step) : Sound timing (watch.perform step) := by
  cases step with
  | operate operation => exact sound.operate permitted
  | poll now info version words => exact sound.poll reports permitted now info version words
  | settle => exact sound.settle permitted

theorem Sound.after (reports : 0 < timing.reportPeriod) (sound : Sound timing watch)
    {steps : List Step} (orderly : watch.Orderly steps) : Sound timing (watch.after steps) := by
  induction steps generalizing watch with
  | nil => exact sound
  | cons step rest ih => exact ih (sound.perform reports orderly.1) orderly.2

/-! ## What is owed -/

theorem isTerminal_of_isFailed {status : Status} (failed : status.isFailed = true) :
    status.isTerminal = true := by
  cases status with
  | failed _ => rfl
  | pending | sent | succeeded _ => contradiction

/-- Once the link knows all ends, its deadlines say what the history says. -/
theorem Sound.owes_iff (sound : Sound timing watch) (ready : watch.Ready)
    (early : now.toNat < 0xFFFFFFFFFFFFFFFF) :
    watch.link.owes kind now = true ↔ Owed timing watch.reports kind now := by
  rw [owes, sound.deadlines kind, Owed]
  cases last : Report.last? watch.reports kind with
  | none => simp [deadlineOf, UInt64.le_iff_toNat_le]
  | some report =>
      have mem : report ∈ watch.reports := List.mem_of_find?_eq_some last
      cases failed : report.tx.status.isFailed with
      | true =>
          have settled := ready report mem (isTerminal_of_isFailed failed)
          simp [deadlineOf, failed, settled, UInt64.le_iff_toNat_le]
      | false =>
          by_cases never : timing.period kind = 0
          · simp [deadlineOf, failed, Timing.dueAfter, never, Crossed]
          · simp [deadlineOf, failed, Timing.dueAfter, never, Crossed,
              Cadence.next_le_iff never early]

/-- What is not repeated is owed once, and after a failure. -/
theorem owed_of_never (never : timing.period kind = 0) (reports : List Report) :
    Owed timing reports kind now ↔
      ∀ report, Report.last? reports kind = some report → report.tx.status.isFailed = true := by
  rw [Owed]
  cases last : Report.last? reports kind with
  | none => simp
  | some report => simp [Crossed, never]

/-- A ready link waits exactly while its newest report is under way. -/
theorem Sound.occupied_eq (sound : Sound timing watch) (ready : watch.Ready) :
    watch.link.occupied watch.scheduler =
      watch.reports.head?.any fun report => report.tx.status.isOutstanding := by
  cases reports : watch.reports with
  | nil =>
      rw [occupied, sound.following, reports]
      rfl
  | cons newest earlier =>
      have newest? : watch.reports.head? = some newest := by rw [reports, List.head?_cons]
      cases finished : newest.tx.status.isTerminal with
      | false => simp [sound.occupied_of_underWay newest? finished, Status.isOutstanding, finished]
      | true =>
          have settled := ready newest (List.mem_of_mem_head? newest?) finished
          rw [occupied, sound.following, reports, Report.followed?, settled]
          simp [Status.isOutstanding, finished]

theorem Sound.submissions_poll (sound : Sound timing watch) (ready : watch.Ready) (now : UInt64)
    (info : DeviceInfo) (version : String) (words : List UInt32) :
    ((watch.link.poll now info version words).submissions watch.scheduler).map
        (fun submission => (submission.packet, submission.expectsReply)) =
      (watch.expected now info version words).map fun packet => (packet, false) := by
  have one : ∀ kind, watch.link.occupied watch.scheduler = false →
      watch.link.due? now = some kind →
        watch.expected now info version words = [watch.link.report info version words kind] := by
    intro kind finished due
    rw [expected, ← sound.occupied_eq ready, finished]
    rw [due?_eq] at due
    split at due
    next identify =>
      cases due
      simp [identify, report]
    next notIdentify =>
      split at due
      next condition =>
        cases due
        simp [notIdentify, condition, report]
      next => contradiction
  rcases sound.poll_cases ready now info version words with
    ⟨-, submitted, waits⟩ | ⟨kind, finished, due, -, ⟨refusal, scheduler, -, -, submitted⟩ |
      ⟨handle, -, -, submitted⟩⟩
  · rw [submitted, expected, ← sound.occupied_eq ready]
    rcases waits with busy | nothing
    · simp [busy]
    · rw [due?_eq] at nothing
      split at nothing
      · contradiction
      next notIdentify =>
        split at nothing
        · contradiction
        next notCondition => simp [notIdentify, notCondition]
  · rw [submitted, one kind finished due]
    rfl
  · rw [submitted, one kind finished due]
    rfl

theorem Sound.owing (sound : Sound timing watch) (ready : watch.Ready) : watch.Owing timing where
  owed := fun _ _ early => sound.owes_iff ready early
  once := by
    intro never now early
    rw [sound.owes_iff ready early]
    have neverAgain : timing.period .identify = 0 := never
    exact owed_of_never neverAgain _
  polled := sound.submissions_poll ready
  rejected := by
    intro now info version words rejected
    rcases sound.poll_cases ready now info version words with
      ⟨same, -, -⟩ | ⟨kind, -, -, -, ⟨refusal, scheduler, -, next, -⟩ |
        ⟨handle, -, -, submitted⟩⟩
    · rw [same]
      exact ⟨rfl, fun _ _ => rfl⟩
    · rw [next]
      exact ⟨rfl, fun _ _ => rfl⟩
    · rw [submitted] at rejected
      have refused := rejected _ (List.mem_singleton_self _)
      contradiction

end Watch

/-- Whatever happens on the bus, as long as no pending report of the link is cancelled and
every end is told before the next poll, the link owes what the history of its reports says,
and a poll submits what is owed. -/
theorem owing_after (address : Address) (timing : Timing) (reports : 0 < timing.reportPeriod)
    (steps : List Step) (orderly : Watch.Orderly { link := { address, timing } } steps)
    (ready : (Watch.after { link := { address, timing } } steps).Ready) :
    (Watch.after { link := { address, timing } } steps).Owing timing :=
  ((Watch.Sound.fresh address timing).after reports orderly).owing ready

/-- Identification succeeds, the condition fails, and the next poll finds the bus busy. -/
def failedThenBusy : List Step :=
  [ .poll 5 Keyboard.info "" [], .operate (.dispatch Scheduler.PromptWire.mk),
    .operate .service, .settle,
    .poll 6 Keyboard.info "" [7], .operate (.dispatch PlayerBus.SilentWire.mk),
    .operate (.signal .writeFailed), .operate .service, .settle,
    .operate (.schedule Scheduler.query false), .poll 7 Keyboard.info "" [7] ]

/-- The condition is still owed, and identification again at the next point of its grid. -/
theorem owing_after_failedThenBusy :
    let watch := Watch.after { link := { address := ⟨0x20⟩, timing := {} } } failedThenBusy
    watch.Owing {} ∧ watch.reports.length = 2 ∧ watch.link.owes .condition 7 = true ∧
      watch.link.owes .identify 999999 = false ∧ watch.link.owes .identify 1000000 = true := by
  intro watch
  constructor
  · exact owing_after ⟨0x20⟩ {} (by decide) failedThenBusy (by decide +kernel)
      (by decide +kernel)
  · decide +kernel

end ReportLink

end Device

end MapleBus
