import MapleBus.Proofs.PlayerBus.Journal

/-!
# Callbacks are made

A callback that is written down is a call that the bus makes: it renews the first
peripheral at its address, as the peripheral itself has it, and nobody else.  In a
cycle this happens where events are delivered, and in a session nowhere else: a program
adds its requests only.
-/

namespace MapleBus

/-! ## Work -/

section Work

variable {P : Type}

/-- An entry of what a program gets accepted, refused and cancelled, when its packets
follow a rule. -/
def JournalEntry.IsRequest (rule : Packet → Prop) (author : P) : JournalEntry P → Prop
  | .accepted other tx => other = author ∧ rule tx.packet
  | .refused other packet _ => other = author ∧ rule packet
  | .cancelled _ => True
  | _ => False

/-- An entry of the work of a peripheral: its program begins, or it asks for something. -/
def JournalEntry.IsWork : JournalEntry P → Prop
  | .began _ | .accepted _ _ | .refused _ _ _ | .cancelled _ => True
  | _ => False

theorem JournalEntry.IsRequest.isWork {rule : Packet → Prop} {author : P}
    {entry : JournalEntry P} (request : entry.IsRequest rule author) : entry.IsWork := by
  cases entry <;> trivial

/-- Work makes no callbacks. -/
theorem JournalEntry.IsWork.callee? [Peripheral P] {entry : JournalEntry P}
    (work : entry.IsWork) : entry.callee? = none := by
  cases entry <;> first | rfl | exact False.elim work

/-- A program adds its requests. -/
theorem Endpoint.news_play {α : Type} {rule : Packet → Prop} {condition : α → Prop}
    {program : Endpoint α} (obeys : program.Obeys rule condition) (author : P) (desk : Desk P) :
    (∃ news, (program.play author desk).2.journal = news ++ desk.journal ∧
      ∀ entry ∈ news, entry.IsRequest rule author) ∧ condition (program.play author desk).1 := by
  let grown (later : Desk P) : Prop :=
    ∃ news, later.journal = news ++ desk.journal ∧ ∀ entry ∈ news, entry.IsRequest rule author
  have start : grown desk := ⟨[], rfl, List.forall_mem_nil _⟩
  apply play_induction _ _ _ obeys start
  · exact fun {later} grown => grown
  · rintro later packet expectsReply follows ⟨news, split, requests⟩
    simp only [grown, Desk.submit]
    cases (later.scheduler.schedule packet expectsReply).value.1 with
    | ok handle =>
        exact ⟨_ :: news, congrArg (List.cons _) split,
          List.forall_mem_cons.mpr ⟨⟨rfl, follows⟩, requests⟩⟩
    | error refusal =>
        exact ⟨_ :: news, congrArg (List.cons _) split,
          List.forall_mem_cons.mpr ⟨⟨rfl, follows⟩, requests⟩⟩
  · rintro later condition ⟨news, split, requests⟩
    refine ⟨(later.scheduler.doomed condition).map .cancelled ++ news, ?_, ?_⟩
    · rw [List.append_assoc, ← split]
      rfl
    · refine List.forall_mem_append.mpr ⟨?_, requests⟩
      rintro entry mem
      obtain ⟨tx, -, rfl⟩ := List.mem_map.mp mem
      trivial

end Work

/-! ## Callbacks -/

/-- The entries, oldest first, lead from peripherals to peripherals. -/
inductive Journal.Leads {P : Type} [Peripheral P] : Journal P → List P → List P → Prop where
  | nothing (peripherals : List P) : Leads [] peripherals peripherals
  /-- An entry that is no callback leaves everybody as they are. -/
  | silent {news : Journal P} {former later : List P} (entry : JournalEntry P)
      (nobody : entry.callee? = none) (earlier : Leads news former later) :
      Leads (entry :: news) former later
  /-- A callback renews the peripheral that it is made to. -/
  | called {news : Journal P} {former front back : List P} {peripheral renewed : P}
      (entry : JournalEntry P) (calls : entry.callee? = some (peripheral, renewed))
      (first : ∀ other ∈ front, Peripheral.address other ≠ Peripheral.address peripheral)
      (earlier : Leads news former (front ++ peripheral :: back)) :
      Leads (entry :: news) former (front ++ renewed :: back)

variable {P : Type} [Peripheral P]

theorem Journal.Leads.append {newer older : Journal P} {former between later : List P}
    (second : Leads newer between later) (first : Leads older former between) :
    Leads (newer ++ older) former later := by
  induction second with
  | nothing => exact first
  | silent entry nobody _ ih => exact .silent entry nobody (ih first)
  | called entry calls foremost _ ih => exact .called entry calls foremost (ih first)

theorem Journal.leads_of_silent {news : Journal P} (nobody : ∀ entry ∈ news, entry.callee? = none)
    (peripherals : List P) : Leads news peripherals peripherals := by
  induction news with
  | nil => exact .nothing peripherals
  | cons entry rest ih =>
      obtain ⟨here, others⟩ := List.forall_mem_cons.mp nobody
      exact .silent entry here (ih others)

namespace PlayerBus

variable {W : Type}

/-- Whoever works, only work is written down. -/
theorem news_playTasks (now : UInt64) (peripherals : List P) (desk : Desk P) :
    ∃ news, (playTasks now peripherals desk).2.journal = news ++ desk.journal ∧
      ∀ entry ∈ news, entry.IsWork := by
  induction peripherals generalizing desk with
  | nil => exact ⟨[], rfl, List.forall_mem_nil _⟩
  | cons peripheral rest ih =>
      let began := desk.write (.began peripheral)
      obtain ⟨⟨asked, split, requests⟩, -⟩ := Endpoint.news_play
        (Endpoint.obeys_true (Peripheral.task peripheral now)) peripheral began
      obtain ⟨others, later, works⟩ := ih ((Peripheral.task peripheral now).play peripheral began).2
      refine ⟨others ++ asked ++ [.began peripheral], ?_, ?_⟩
      · rw [playTasks, later, split]
        simp [began, Desk.write]
      · simp only [List.forall_mem_append, List.forall_mem_singleton]
        exact ⟨⟨works, fun entry mem => (requests entry mem).isWork⟩, trivial⟩

namespace Session

theorem news_work (session : Session P W) (now : UInt64) (arrivals : List (List Signal)) :
    ∃ news, (session.work now arrivals).1.journal = news ++ session.journal ∧
      ∀ entry ∈ news, entry.IsWork := by
  rw [work_eq]
  exact news_playTasks now session.bus.peripherals
    { scheduler := session.bus.scheduler, arrivals, journal := session.journal }

/-- On the way from one session to another, the callbacks that are written down are made,
and nothing else changes a peripheral. -/
def Conveys (former later : Session P W) : Prop :=
  ∃ news, later.journal = news ++ former.journal ∧
    Journal.Leads news former.bus.peripherals later.bus.peripherals

/-- On the way from one session to another, no callback is written down. -/
def KeepsSilent (former later : Session P W) : Prop :=
  ∃ news, later.journal = news ++ former.journal ∧ ∀ entry ∈ news, entry.callee? = none

theorem Conveys.refl (session : Session P W) : Conveys session session :=
  ⟨[], rfl, .nothing _⟩

theorem Conveys.trans {former between later : Session P W} (first : Conveys former between)
    (second : Conveys between later) : Conveys former later := by
  obtain ⟨older, split, olderLead⟩ := first
  obtain ⟨newer, splitAgain, newerLead⟩ := second
  refine ⟨newer ++ older, ?_, newerLead.append olderLead⟩
  rw [splitAgain, split, List.append_assoc]

/-- Who is not called stays as they are. -/
theorem KeepsSilent.conveys {former later : Session P W} (silent : KeepsSilent former later)
    (same : later.bus.peripherals = former.bus.peripherals) : Conveys former later := by
  obtain ⟨news, split, nobody⟩ := silent
  rw [Conveys, same]
  exact ⟨news, split, Journal.leads_of_silent nobody _⟩

theorem conveys_deliverEvent (session : Session P W) (event : Event) :
    Conveys session (session.deliverEvent event) := by
  have told := peripherals_deliverEvent session.bus event
  rw [Conveys, deliverEvent]
  cases called : session.bus.callback? event with
  | none =>
      rw [called] at told
      refine ⟨[], rfl, ?_⟩
      rw [told]
      exact .nothing _
  | some entry =>
      rw [called] at told
      obtain ⟨front, peripheral, renewed, back, calls, here, first, split, changed⟩ := told
      refine ⟨[entry], rfl, ?_⟩
      rw [changed]
      apply Journal.Leads.called entry calls
      · rw [here]
        exact first
      · rw [split]
        exact .nothing _

theorem conveys_deliverEvents (session : Session P W) (events : List Event) :
    Conveys session (session.deliverEvents events) := by
  induction events generalizing session with
  | nil => exact Conveys.refl session
  | cons event rest ih => exact (conveys_deliverEvent session event).trans (ih _)

/-- What waits is delivered by the callbacks that are written down. -/
theorem conveys_deliver (session : Session P W) : Conveys session session.deliver := by
  rw [deliver_eq]
  exact conveys_deliverEvents session.quieted session.bus.scheduler.events

/-- So is the outcome that is harvested first thing in a cycle. -/
theorem conveys_settle (session : Session P W) (signals : List Signal) (now : UInt64) :
    Conveys session ((session.hear signals).settle now) := by
  let settled := (session.hear signals).bus.scheduler.settled?
  have silent : KeepsSilent session ((session.hear signals).harvested now) := by
    refine ⟨(settled.map .settled).toList ++ [.cycle now], ?_, ?_⟩
    · rw [List.append_assoc]
      rfl
    · cases settled <;> simp [JournalEntry.callee?]
  rw [settle_eq]
  exact (silent.conveys rfl).trans (conveys_deliver _)

/-- So is the start of what goes out last thing in a cycle. -/
theorem conveys_launch [Wire W] (session : Session P W) : Conveys session session.launch := by
  let sent := session.bus.scheduler.sent? session.bus.wire
  have silent : KeepsSilent session session.offered := by
    refine ⟨(sent.map .sent).toList, rfl, ?_⟩
    cases sent <;> simp [JournalEntry.callee?]
  rw [launch_eq]
  exact (silent.conveys rfl).trans (conveys_deliver _)

theorem silent_work (session : Session P W) (now : UInt64) (arrivals : List (List Signal)) :
    KeepsSilent session (session.work now arrivals).1 := by
  obtain ⟨news, split, works⟩ := news_work session now arrivals
  exact ⟨news, split, fun entry mem => (works entry mem).callee?⟩

/-- Outside of its cycles nobody on a bus is called. -/
theorem silent_occur [Wire W] (session : Session P W) (occurrence : Occurrence P W)
    (aside : ∀ now arrivals, occurrence ≠ .task now arrivals) :
    KeepsSilent session (session.occur occurrence) := by
  have nothing : KeepsSilent session session := ⟨[], rfl, List.forall_mem_nil _⟩
  have onAttach : ∀ peripheral, KeepsSilent session (session.attach peripheral) := by
    intro peripheral
    rw [attach]
    cases (session.bus.attach peripheral).value with
    | error fault => exact nothing
    | ok bus => exact ⟨[.attached peripheral], rfl, List.forall_mem_singleton.mpr rfl⟩
  have onDetach : ∀ address, KeepsSilent session (session.detach address) := by
    intro address
    rw [detach]
    cases (session.bus.detach address).value with
    | error fault => exact nothing
    | ok result =>
        refine ⟨result.1.map .detached ++ (session.bus.scheduler.doomed fun tx =>
          result.1.any fun peripheral => Peripheral.address peripheral == tx.recipient).map
            .cancelled, ?_, ?_⟩
        · rw [List.append_assoc]
        · exact List.forall_mem_append.mpr
            ⟨List.forall_mem_map.mpr fun _ _ => rfl, List.forall_mem_map.mpr fun _ _ => rfl⟩
  cases occurrence with
  | attach peripheral => exact onAttach peripheral
  | handle event =>
      cases event with
      | attached peripheral => exact onAttach peripheral
      | detached address => exact onDetach address
  | detach address => exact onDetach address
  | task now arrivals => exact absurd rfl (aside now arrivals)
  | cancel cancellation =>
      exact ⟨(session.bus.scheduler.doomed cancellation.concerns).map .cancelled, rfl,
        List.forall_mem_map.mpr fun _ _ => rfl⟩
  | signal raised => exact nothing
  | rewire change => exact nothing
  | influence change => exact nothing

/-- Callbacks are made as they are written down: in a cycle right after the outcome was
harvested and right after the wire took what was pending, and at no other time. -/
structure CallsAsWritten [Wire W] (session : Session P W) : Prop where
  settling : ∀ now (arrivals : List (List Signal)),
    Conveys session ((session.hear (arrivals.headD [])).settle now)
  working : ∀ now arrivals,
    KeepsSilent ((session.hear (arrivals.headD [])).settle now) (session.offering now arrivals)
  launching : ∀ now arrivals,
    Conveys (session.offering now arrivals) (session.task now arrivals)
  aside : ∀ occurrence, (∀ now arrivals, occurrence ≠ .task now arrivals) →
    KeepsSilent session (session.occur occurrence)

theorem callsAsWritten [Wire W] (session : Session P W) : session.CallsAsWritten where
  settling := fun now arrivals => conveys_settle session (arrivals.headD []) now
  working := by
    intro now arrivals
    let settled := (session.hear (arrivals.headD [])).settle now
    have same : (session.offering now arrivals).journal =
        (settled.work now arrivals.tail).1.journal := rfl
    rw [KeepsSilent, same]
    exact silent_work settled now arrivals.tail
  launching := by
    intro now arrivals
    rw [task_eq]
    exact conveys_launch _
  aside := silent_occur session

end Session

end PlayerBus

end MapleBus
