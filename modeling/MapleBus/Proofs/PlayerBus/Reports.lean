import MapleBus.Proofs.PlayerBus.News
import MapleBus.Proofs.Scheduler.Lifespan

/-!
# What is written outside the programs

Only a program of a peripheral writes of submissions, and only the beginning of a cycle
writes the time.  All other parts of a session write reports: who was told of what, what
went out, was settled or dropped, and who came and went.  A transmission that is written
down as settled is coherent.
-/

namespace MapleBus

variable {P W : Type}

/-- An entry that neither begins a cycle nor comes from a program.  What is settled is
coherent. -/
def JournalEntry.IsReport : JournalEntry P → Prop
  | .settled tx => tx.Coherent
  | .cycle _ | .began _ | .accepted _ _ | .refused _ _ _ => False
  | .failed _ _ _ | .completed _ _ _ | .cancelled _ | .sent _ | .started _ _ | .attached _
  | .detached _ => True

theorem JournalEntry.IsCallback.isReport {entry : JournalEntry P} (callback : entry.IsCallback) :
    entry.IsReport := by
  cases entry <;> trivial

namespace Journal

/-- A journal grows by reports. -/
def Reported (former later : Journal P) : Prop :=
  ∃ news, later = news ++ former ∧ ∀ entry ∈ news, entry.IsReport

namespace Reported

variable {former between later : Journal P}

theorem refl (journal : Journal P) : Reported journal journal :=
  ⟨[], rfl, List.forall_mem_nil _⟩

theorem trans (first : Reported former between) (second : Reported between later) :
    Reported former later := by
  rcases first with ⟨news, rfl, reports⟩
  rcases second with ⟨newer, rfl, others⟩
  exact ⟨newer ++ news, (List.append_assoc _ _ _).symm,
    List.forall_mem_append.mpr ⟨others, reports⟩⟩

theorem of_news {news : Journal P} (reports : ∀ entry ∈ news, entry.IsReport) :
    Reported former (news ++ former) :=
  ⟨news, rfl, reports⟩

end Reported

end Journal

open Journal (Reported)

namespace PlayerBus

/-- Dropped transmissions are reports. -/
theorem isReport_dropped (dropped : List Transmission) :
    ∀ entry ∈ dropped.map (JournalEntry.cancelled : Transmission → JournalEntry P),
      entry.IsReport := by
  rintro entry mem
  rcases List.mem_map.mp mem with ⟨tx, -, rfl⟩
  trivial

variable [Peripheral P]

theorem isReport_of_callback {bus : PlayerBus P W} {event : Event} {entry : JournalEntry P}
    (calls : bus.callback? event = some entry) : entry.IsReport := by
  have told := peripherals_deliverEvent bus event
  rw [calls] at told
  rcases told with ⟨_, _, _, _, callee, -⟩
  exact (JournalEntry.isCallback_of_callee callee).isReport

namespace Session

theorem reported_deliverEvents (session : Session P W) (events : List Event) :
    Reported session.journal (session.deliverEvents events).journal := by
  induction events generalizing session with
  | nil => exact .refl _
  | cons event rest ih =>
      have told : Reported session.journal (session.deliverEvent event).journal := by
        apply Reported.of_news
        rintro entry mem
        exact isReport_of_callback (Option.mem_toList.mp mem)
      exact told.trans (ih (session.deliverEvent event))

theorem reported_deliver (session : Session P W) :
    Reported session.journal session.deliver.journal :=
  reported_deliverEvents _ _

/-- What servicing settles is coherent. -/
theorem coherent_of_settled {scheduler : Scheduler} (tidy : scheduler.Tidy) {tx : Transmission}
    (settled : scheduler.settled? = some tx) : tx.Coherent := by
  by_cases done : scheduler.completion.phase = .done
  · rcases tidy.occupant_of_done done with ⟨handle, occupant, found, -⟩
    have ended := (tidy.service_of_done done found).2.1
    rw [Scheduler.settled?, if_pos done, found] at settled
    have same : some _ = some tx := ended.symm.trans settled
    cases same
    exact (Scheduler.ruled_ruling scheduler occupant).coherent
  · rw [Scheduler.settled?, if_neg done] at settled
    contradiction

/-- Settling begins a cycle, and reports. -/
theorem reported_settle {session : Session P W} (tidy : session.bus.scheduler.Tidy)
    (now : UInt64) :
    Reported (.cycle now :: session.journal) (session.settle now).journal := by
  have harvested : Reported (.cycle now :: session.journal)
      ((session.bus.scheduler.settled?.map .settled).toList ++ .cycle now :: session.journal) := by
    apply Reported.of_news
    rintro entry mem
    rcases Option.map_eq_some_iff.mp (Option.mem_toList.mp mem) with ⟨tx, settled, rfl⟩
    exact coherent_of_settled tidy settled
  exact harvested.trans (reported_deliver _)

theorem reported_launch [Wire W] (session : Session P W) :
    Reported session.journal session.launch.journal := by
  have offered : Reported session.journal
      (((session.bus.scheduler.sent? session.bus.wire).map .sent).toList ++ session.journal) := by
    apply Reported.of_news
    rintro entry mem
    rcases Option.map_eq_some_iff.mp (Option.mem_toList.mp mem) with ⟨tx, -, rfl⟩
    trivial
  exact offered.trans (reported_deliver _)

theorem reported_attach (session : Session P W) (peripheral : P) :
    Reported session.journal (session.attach peripheral).journal := by
  unfold attach
  cases (session.bus.attach peripheral).value with
  | error fault => exact .refl _
  | ok bus =>
      have plugged : (JournalEntry.attached peripheral).IsReport := trivial
      exact .of_news (List.forall_mem_singleton.mpr plugged)

theorem reported_detach (session : Session P W) (address : Address) :
    Reported session.journal (session.detach address).journal := by
  unfold detach
  cases (session.bus.detach address).value with
  | error fault => exact .refl _
  | ok result =>
      have withdrawn : Reported session.journal (_ ++ session.journal) :=
        .of_news (isReport_dropped (session.bus.scheduler.doomed fun tx =>
          result.1.any fun peripheral => Peripheral.address peripheral == tx.recipient))
      apply withdrawn.trans
      apply Reported.of_news
      rintro entry mem
      rcases List.mem_map.mp mem with ⟨peripheral, -, rfl⟩
      trivial

/-- What happens outside the cycles is reported. -/
theorem reported_occur [Wire W] (session : Session P W) (occurrence : Occurrence P W)
    (outside : ∀ now arrivals, occurrence ≠ .task now arrivals) :
    Reported session.journal (session.occur occurrence).journal := by
  cases occurrence with
  | attach peripheral => exact reported_attach session peripheral
  | detach address => exact reported_detach session address
  | handle event =>
      cases event with
      | attached peripheral => exact reported_attach session peripheral
      | detached address => exact reported_detach session address
  | task now arrivals => exact absurd rfl (outside now arrivals)
  | cancel cancellation => exact .of_news (isReport_dropped _)
  | signal signal | rewire change | influence change => exact .refl _

end Session

end PlayerBus

end MapleBus
