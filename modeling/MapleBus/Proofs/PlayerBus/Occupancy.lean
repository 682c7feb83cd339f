import MapleBus.Proofs.PlayerBus.Ownership
import MapleBus.Proofs.PlayerBus.Stages

/-!
# Nothing is left behind

Between any two occurrences of a session no event waits, and the table holds one
transmission at most, which is pending or on the wire.  So a submission finds the
bus busy or the table empty, and is never refused for want of a slot, whatever the
peripherals do and whenever signals arrive.
-/

namespace MapleBus

/-- The entry of a submission that was refused for want of a slot. -/
def JournalEntry.IsFull {P : Type} : JournalEntry P → Prop
  | .refused _ _ .tableFull => True
  | _ => False

/-- No submission was refused for want of a slot. -/
def Journal.NeverFull {P : Type} (journal : Journal P) : Prop :=
  ∀ entry ∈ journal, ¬ entry.IsFull

namespace Journal.NeverFull

variable {P : Type} {journal : Journal P}

theorem cons {entry : JournalEntry P} (other : ¬ entry.IsFull) (never : NeverFull journal) :
    NeverFull (entry :: journal) :=
  List.forall_mem_cons.mpr ⟨other, never⟩

theorem conclusion [Peripheral P] (peripheral : P) (tx : Transmission)
    (never : NeverFull journal) : NeverFull (.conclusion peripheral tx :: journal) := by
  apply never.cons
  unfold JournalEntry.conclusion
  cases tx.status.failure? <;> exact id

theorem detached (peripherals : List P) (never : NeverFull journal) :
    NeverFull (peripherals.map .detached ++ journal) := by
  rintro entry mem
  rcases List.mem_append.mp mem with gone | earlier
  · obtain ⟨peripheral, -, rfl⟩ := List.mem_map.mp gone
    exact id
  · exact never entry earlier

/-- Requests of a program are refused for another reason only. -/
theorem request {rule : Packet → Prop} {author : P}
    {former later : Option Transmission × Journal P} (never : NeverFull former.2)
    (request : Request rule author former later) : NeverFull later.2 := by
  cases request with
  | refused tx packet journal => exact never.cons id
  | accepted tx journal pending follows => exact never.cons id
  | cancelled tx journal pending => exact never.cons id

theorem requests {rule : Packet → Prop} {author : P}
    {former later : Option Transmission × Journal P} (never : NeverFull former.2)
    (requests : Relation.ReflTransGen (Request rule author) former later) :
    NeverFull later.2 := by
  induction requests with
  | refl => exact never
  | tail _ next ih => exact ih.request next

open PlayerBus

/-- Every stage keeps it so. -/
theorem stage [Peripheral P] {kind : (P → P) → Prop} {former later : View P}
    (never : NeverFull former.journal) (stage : Stage kind former later) :
    NeverFull later.journal := by
  cases stage with
  | waited _ now => exact never.cons id
  | concluded tx status front back peripheral journal now =>
      exact ((never.cons id).cons id).conclusion peripheral _
  | forgotten tx status peripherals journal now => exact (never.cons id).cons id
  | worked front back peripheral desk now tidy =>
      have began : NeverFull (desk.write (.began peripheral)).journal := never.cons id
      have tidyBegan : (desk.write (.began peripheral)).scheduler.Tidy := tidy
      have ran := Endpoint.requests_play
        (Endpoint.obeys_true (Peripheral.task peripheral now)) peripheral tidyBegan
      exact requests began ran.1.2
  | launched tx front back peripheral journal => exact (never.cons id).cons id
  | slipped tx peripherals journal => exact never.cons id
  | attached occupant front back peripheral journal => exact never.cons id
  | detached _ leaves => exact never.detached _
  | withdrawn tx peripherals journal leaves => exact (never.cons id).detached _
  | influenced _ change => exact never

theorem stages [Peripheral P] {kind : (P → P) → Prop} {former later : View P}
    (never : NeverFull former.journal) (stages : Stages kind former later) :
    NeverFull later.journal := by
  induction stages with
  | refl => exact never
  | tail _ next ih => exact ih.stage next

end Journal.NeverFull

namespace PlayerBus.Session

variable {P W : Type} [Peripheral P] [Wire W]

/-- After every run of a bus, with any peripherals and signals at any time, no event
waits, the table holds one transmission at most, which is pending or on the wire,
and no submission was ever refused for want of a slot. -/
theorem nothing_left_after {settings : Settings} {wire : W} {bus : PlayerBus P W}
    (created : create settings wire = .ok bus) (occurrences : List (Occurrence P W)) :
    let session := (opened bus).after occurrences
    session.bus.scheduler.events = [] ∧
      session.bus.scheduler.table.toList.length ≤ 1 ∧
      (∀ tx ∈ session.bus.scheduler.table.toList,
        tx.status = .pending ∨ tx.status = .sent) ∧
      ∀ author packet, .refused author packet .tableFull ∉ session.journal := by
  intro session
  obtain ⟨start, nothing⟩ := opened_of_created created
  have any : ∀ change, .influence change ∈ occurrences → True := fun _ _ => trivial
  obtain ⟨tidy, stages⟩ := after_stages (fun _ => True) start any
  have never : session.journal.NeverFull := by
    apply Journal.NeverFull.stages _ stages
    rw [nothing]
    exact List.forall_mem_nil _
  refine ⟨tidy.events_eq_nil, tidy.length_le_one, ?_, ?_⟩
  · rintro tx mem
    rw [tidy.toList_eq, Option.mem_toList] at mem
    exact tidy.status_occupant mem
  · rintro author packet mem
    exact never _ mem trivial

/-- A recorder is replaced while its packet is on the wire, and the write completes
in the middle of a cycle. -/
def crossing : List (Occurrence Device.Recorder SilentWire) :=
  [ .attach { address := ⟨0x20⟩ }, .task 0 [], .detach ⟨0x20⟩, .attach { address := ⟨0x20⟩ },
    .task 1 [[], [.writeComplete]], .task 2 [] ]

/-- After a recorder was replaced, the packet of the new one is on the wire. -/
theorem nothing_left_crossing :
    create {} {} = .ok silentBus ∧
      ((opened silentBus).after crossing).bus.scheduler.events = [] ∧
      ((opened silentBus).after crossing).bus.scheduler.table.toList.length = 1 := by
  have created : create {} {} = .ok silentBus := by rfl
  have left := nothing_left_after created crossing
  have one : ((opened silentBus).after crossing).bus.scheduler.table.toList.length = 1 := by
    decide +kernel
  exact ⟨created, left.1, one⟩

end PlayerBus.Session

end MapleBus
