import MapleBus.Bench.ScriptedWire
import MapleBus.Proofs.PlayerBus.Ownership
import MapleBus.Proofs.PlayerBus.Roster
import MapleBus.Proofs.PlayerBus.Tenure

/-!
# What goes out

A cycle hands at most one frame to the wire, that of the pending transmission.  Where
peripherals keep their addresses and submit packets to themselves only, it is for a
peripheral that is plugged in then, and that submitted it itself.  Unplugging cancels
exactly the pending work of whoever leaves, so nothing of it goes out later, also when
somebody else is plugged in at the same address.
-/

namespace MapleBus

/-- A frame carries its recipient in the second byte. -/
theorem Packet.recipient_encode (packet : Packet) :
    packet.encode[1]? = some packet.recipient.raw := by
  rw [encode_eq]
  rfl

namespace PlayerBus

variable {P W : Type} [Peripheral P]

/-! ## Work that is cancelled -/

/-- Cancelling the work of some takes out what is pending for them, and nothing else. -/
theorem entry_cancelWork (scheduler : Scheduler) (removed : List P) (slot : Slot) :
    (cancelWork scheduler removed).value.table.entry slot =
      (scheduler.table.entry slot).filter fun tx =>
        !(tx.status.isPending &&
          removed.any fun peripheral => Peripheral.address peripheral == tx.recipient) := by
  induction removed generalizing scheduler with
  | nil =>
      change scheduler.table.entry slot = _
      cases scheduler.table.entry slot <;> simp [Option.filter_some]
  | cons peripheral rest ih =>
      let recipient := Peripheral.address peripheral
      refine (ih (scheduler.removePending fun tx => tx.recipient == recipient).2).trans ?_
      rw [Scheduler.entry_removePending, Option.filter_filter]
      congr 1
      funext tx
      rw [List.any_cons, Bool.beq_comm]
      cases tx.status.isPending <;> simp [recipient]

/-- What is pending for somebody who stays remains. -/
theorem entry_of_stays {bus after : PlayerBus P W} {address : Address} {removed : List P}
    (nodup : bus.addresses.Nodup)
    (detached : (bus.detach address).value = .ok (removed, after)) {slot : Slot}
    {tx : Transmission} (present : bus.scheduler.table.entry slot = some tx)
    (stays : tx.recipient ∈ after.addresses) : after.scheduler.table.entry slot = some tx := by
  obtain ⟨leaves, rfl, remaining, cancelled⟩ := of_detached detached
  have nobody : ∀ leaver ∈ bus.peripherals.filter leaves,
      Peripheral.address leaver ≠ tx.recipient := by
    rintro leaver left same
    rw [addresses, remaining] at stays
    obtain ⟨peripheral, remains, here⟩ := List.mem_map.mp stays
    obtain ⟨present, staying⟩ := List.mem_filter.mp remains
    obtain ⟨leaverPresent, leaving⟩ := List.mem_filter.mp left
    cases List.inj_on_of_nodup_map nodup leaverPresent present (same.trans here.symm)
    simp [leaving] at staying
  have spared : (bus.peripherals.filter leaves).any (fun peripheral =>
      Peripheral.address peripheral == tx.recipient) = false := by
    rw [List.any_eq_false]
    rintro leaver left same
    exact nobody leaver left (eq_of_beq same)
  rw [cancelled, entry_cancelWork, present, Option.filter_some, spared, Bool.and_false]
  rfl

namespace Session

/-! ## What a cycle hands to the wire -/

/-- The transmission whose frame a cycle hands to the wire. -/
def handed? (session : Session P W) (now : UInt64) (arrivals : List (List Signal)) :
    Option Transmission :=
  ((session.offering now arrivals).bus.scheduler.table.find? fun tx =>
    tx.status.isPending).map Prod.snd

theorem offering_stages {session : Session P W} (kind : (P → P) → Prop)
    (tidy : session.bus.scheduler.Tidy) (now : UInt64) (arrivals : List (List Signal)) :
    (session.offering now arrivals).bus.scheduler.Tidy ∧
      Stages kind session.view (session.offering now arrivals).view := by
  have settled := settle_stage kind (tidy_hear tidy (arrivals.headD [])) now
  have worked := work_stages kind settled.1 now arrivals.tail
  rw [view_hear] at settled
  unfold offering
  generalize ((session.hear (arrivals.headD [])).settle now).work now arrivals.tail = work
    at worked ⊢
  constructor
  · exact tidy_hear worked.1 _
  · exact (Relation.ReflTransGen.single settled.2).trans worked.2

theorem wire_offering (session : Session P W) (now : UInt64) (arrivals : List (List Signal)) :
    (session.offering now arrivals).bus.wire = session.bus.wire := by
  have settled : ((session.hear (arrivals.headD [])).settle now).bus.wire = session.bus.wire :=
    (calls_deliver _).wire
  unfold offering work
  generalize (session.hear (arrivals.headD [])).settle now = told at settled ⊢
  exact settled

/-- In a cycle the wire meets the one frame that is handed to it, if there is one. -/
theorem wire_task [Wire W] (session : Session P W) (now : UInt64)
    (arrivals : List (List Signal)) :
    (session.task now arrivals).bus.wire =
      match session.handed? now arrivals with
      | none => session.bus.wire
      | some tx => (Wire.transmit session.bus.wire tx.packet.encode tx.expectsReply).wire := by
  have same := wire_offering session now arrivals
  rw [task_eq, handed?]
  generalize session.offering now arrivals = offering at same ⊢
  have told : offering.launch.bus.wire =
      (offering.bus.scheduler.dispatch offering.bus.wire).value.2.2 :=
    (calls_deliver _).wire
  rw [told, same]
  cases search : offering.bus.scheduler.table.find? fun tx => tx.status.isPending with
  | none =>
      rw [Scheduler.dispatch_of_no_pending search]
      rfl
  | some found =>
      obtain ⟨handle, tx⟩ := found
      cases answer : (Scheduler.offer session.bus.wire tx).result with
      | error refusal =>
          rw [Scheduler.dispatch_of_refusal search answer]
          rfl
      | ok _ =>
          rw [Scheduler.dispatch_of_acceptance search answer]
          rfl

/-- What a cycle hands to the wire is for somebody who is plugged in, and was accepted
from them since they came. -/
theorem of_handed {session : Session P W} (steadfast : Steadfast P)
    (tidy : session.bus.scheduler.Tidy) (tenanted : session.view.Tenanted) {now : UInt64}
    {arrivals : List (List Signal)} {tx : Transmission}
    (handed : session.handed? now arrivals = some tx) :
    let offering := session.offering now arrivals
    tx.recipient ∈ offering.bus.addresses ∧ offering.journal.Held tx.recipient ∧
      ∃ author, .accepted author tx ∈ offering.journal.tenure tx.recipient ∧
        Peripheral.address author = tx.recipient := by
  obtain ⟨offeringTidy, stages⟩ := offering_stages Steady tidy now arrivals
  unfold handed? at handed
  generalize session.offering now arrivals = offering at handed offeringTidy stages ⊢
  have settled : offering.view.Tenanted := tenanted.stages steadfast stages
  obtain ⟨⟨handle, same⟩, search, rfl⟩ := Option.map_eq_some_iff.mp handed
  obtain ⟨occupied, pending⟩ := offeringTidy.occupant_of_pending search
  obtain ⟨used, author, since, earlier, split, own, spares⟩ :=
    settled.origin_of_pending occupied pending
  have journal : offering.journal = since ++ .accepted author same :: earlier := split
  refine ⟨used, settled.held _ used, author, ?_, own⟩
  rw [journal, Journal.tenure_append fun entry mem => (spares entry mem).movesAt,
    Journal.tenure_cons_of_stays rfl]
  exact List.mem_append_right _ List.mem_cons_self

section Run

variable [Wire W]

/-- What a cycle hands to the wire for the address of somebody who was unplugged, was
accepted after they left. -/
theorem of_handed_later {session : Session P W} (steadfast : Steadfast P)
    (tidy : session.bus.scheduler.Tidy) (tenanted : session.view.Tenanted) {address : Address}
    {removed : List P} {after : PlayerBus P W}
    (detached : (session.bus.detach address).value = .ok (removed, after))
    {more : List (Occurrence P W)} (steady : ∀ change, .influence change ∈ more → Steady change)
    {now : UInt64} {arrivals : List (List Signal)} {tx : Transmission} :
    let left := session.occur (.detach address)
    let later := left.after more
    later.handed? now arrivals = some tx → tx.recipient ∈ removed.map Peripheral.address →
      ∃ news, (later.offering now arrivals).journal = news ++ left.journal ∧
        ∃ author, .accepted author tx ∈ news := by
  intro left later handed gone
  obtain ⟨leftTidy, leaving⟩ := occur_stages Steady tidy (.detach address) (by simp)
  obtain ⟨laterTidy, further⟩ := after_stages Steady leftTidy steady
  have offering := (offering_stages Steady laterTidy now arrivals).2
  obtain ⟨-, -, author, accepted, -⟩ := of_handed steadfast laterTidy
    (tenanted.stages steadfast (leaving.trans further)) handed
  obtain ⟨news, split⟩ := Stages.suffix (further.trans offering)
  refine ⟨news, split.symm, author, ?_⟩
  obtain ⟨dropped, journal⟩ : ∃ dropped, left.journal = removed.map .detached ++ dropped := by
    simp only [left, occur, detach, detached]
    exact ⟨_, rfl⟩
  have moved : ∃ entry ∈ news ++ removed.map JournalEntry.detached,
      entry.movesAt tx.recipient = true := by
    obtain ⟨peripheral, leaver, here⟩ := List.mem_map.mp gone
    exact ⟨.detached peripheral, List.mem_append_right _ (List.mem_map_of_mem leaver),
      JournalEntry.movesAt_detached here⟩
  have whole : (later.offering now arrivals).journal =
      (news ++ removed.map .detached) ++ dropped := by
    rw [List.append_assoc, ← journal]
    exact split.symm
  rw [whole] at accepted
  rcases List.mem_append.mp (Journal.mem_news_of_mem_tenure moved accepted) with new | leaves
  · exact new
  · simp at leaves

/-- After every run of a bus whose peripherals keep their addresses and submit packets to
themselves only, the next cycle hands one frame to the wire at most.  It carries the
address of a peripheral that is plugged in then, and was accepted from this peripheral
since it came.  Unplugging takes out exactly the pending work of whoever leaves; what goes
out to their addresses later was accepted later. -/
theorem outgoing_after (steadfast : Steadfast P) {settings : Settings} {wire : W}
    {bus : PlayerBus P W} (created : create settings wire = .ok bus)
    {occurrences : List (Occurrence P W)}
    (steady : ∀ change, .influence change ∈ occurrences → Steady change) :
    let session := (opened bus).after occurrences
    (∀ now arrivals,
      (session.task now arrivals).bus.wire =
        match session.handed? now arrivals with
        | none => session.bus.wire
        | some tx =>
            (Wire.transmit session.bus.wire tx.packet.encode tx.expectsReply).wire) ∧
      (∀ now arrivals tx, session.handed? now arrivals = some tx →
        let offering := session.offering now arrivals
        tx.packet.encode[1]? = some tx.recipient.raw ∧
          tx.recipient ∈ offering.bus.addresses ∧ offering.journal.Held tx.recipient ∧
          ∃ author, .accepted author tx ∈ offering.journal.tenure tx.recipient ∧
            Peripheral.address author = tx.recipient) ∧
      ∀ address removed after, (session.bus.detach address).value = .ok (removed, after) →
        PluggedOut session.bus address removed after ∧
          (∀ slot, after.scheduler.table.entry slot =
            (session.bus.scheduler.table.entry slot).filter fun tx =>
              !(tx.status.isPending &&
                removed.any fun peripheral => Peripheral.address peripheral == tx.recipient)) ∧
          (∀ slot tx, session.bus.scheduler.table.entry slot = some tx →
            tx.recipient ∈ after.addresses → after.scheduler.table.entry slot = some tx) ∧
          ∀ more : List (Occurrence P W),
            (∀ change, .influence change ∈ more → Steady change) →
            let left := session.occur (.detach address)
            let later := left.after more
            ∀ now arrivals tx, later.handed? now arrivals = some tx →
              tx.recipient ∈ removed.map Peripheral.address →
                ∃ news, (later.offering now arrivals).journal = news ++ left.journal ∧
                  ∃ author, .accepted author tx ∈ news := by
  intro session
  obtain ⟨tidy, tenanted⟩ := tenanted_after steadfast created steady
  refine ⟨?_, ?_, ?_⟩
  · exact wire_task session
  · rintro now arrivals tx handed offering
    exact ⟨tx.packet.recipient_encode, of_handed steadfast tidy tenanted handed⟩
  · rintro address removed after detached
    have nodup : session.bus.addresses.Nodup := tenanted.narrated.nodup
    obtain ⟨leaves, -, -, cancelled⟩ := of_detached detached
    refine ⟨pluggedOut nodup detached, ?_, ?_, ?_⟩
    · rintro slot
      rw [cancelled, entry_cancelWork]
    · rintro slot tx present stays
      exact entry_of_stays nodup detached present stays
    · rintro more steadyMore left later now arrivals tx handed gone
      exact of_handed_later steadfast tidy tenanted detached steadyMore handed gone

/-! ## Recorders on a wire that refuses -/

/-- A bus without peripherals on a scripted wire. -/
def scriptedBus : PlayerBus Device.Recorder Bench.ScriptedWire where
  settings := {}
  wire := {}
  failures := { threshold := ({} : Settings).failureWarnThreshold }

/-- The packet of a recorder is refused, and stays pending while another expansion
leaves. -/
def refused : List (Occurrence Device.Recorder Bench.ScriptedWire) :=
  [ .attach { address := ⟨0x20⟩, passive := true }, .attach { address := ⟨0x01⟩ },
    .attach { address := ⟨0x02⟩, passive := true },
    .rewire fun wire => { wire with rejecting := true }, .task 0 [], .detach ⟨0x02⟩ ]

/-- The recorder is replaced before the wire takes frames again. -/
def replacedWhileRefused : List (Occurrence Device.Recorder Bench.ScriptedWire) :=
  refused ++
    [ .detach ⟨0x01⟩, .handle (.attached { address := ⟨0x01⟩ }), .influence id,
      .rewire fun wire => { wire with rejecting := false } ]

/-- The packet that was refused is offered again while the recorder stays; after it was
replaced, the packet of its successor goes out instead. -/
theorem outgoing_replacedWhileRefused :
    create {} {} = .ok scriptedBus ∧
      (∀ change, .influence change ∈ replacedWhileRefused → Steady change) ∧
      (((opened scriptedBus).after refused).handed? 1 []).map Transmission.id = some 1 ∧
      (((opened scriptedBus).after replacedWhileRefused).handed? 1 []).map Transmission.id =
        some 2 ∧
      ∀ tx, ((opened scriptedBus).after replacedWhileRefused).handed? 1 [] = some tx →
        tx.recipient ∈
          (((opened scriptedBus).after replacedWhileRefused).offering 1 []).bus.addresses := by
  have created : create {} {} = .ok scriptedBus := by rfl
  have steady : ∀ change, .influence change ∈ replacedWhileRefused → Steady change := by
    rintro change mem
    have same : change = id := by simpa [replacedWhileRefused, refused] using mem
    rw [same]
    exact fun _ => rfl
  have again : (((opened scriptedBus).after refused).handed? 1 []).map Transmission.id =
      some 1 := by
    decide +kernel
  have successor : (((opened scriptedBus).after replacedWhileRefused).handed? 1 []).map
      Transmission.id = some 2 := by
    decide +kernel
  refine ⟨created, steady, again, successor, ?_⟩
  rintro tx handed
  exact ((outgoing_after steadfast_recorder created steady).2.1 1 [] tx handed).2.1

end Run

end Session

end PlayerBus

end MapleBus
