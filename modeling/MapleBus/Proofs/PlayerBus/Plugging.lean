import MapleBus.Proofs.PlayerBus.Cycle

/-!
# Plugging peripherals in and out

A peripheral is plugged in at a free address with a blank diary, so it owns
nothing yet, and nothing pending is addressed to it.  Whoever is unplugged
leaves nothing pending behind; only what is on the wire remains.
-/

namespace MapleBus

namespace Tended

variable {scheduler next : Scheduler} {seats fewer before after : List Seat}
  {address : Address}

/-- A blank diary at a free address. -/
theorem plugIn (tended : Tended scheduler (before ++ after))
    (free : address ∉ (before ++ after).map Seat.address) :
    Tended scheduler (before ++ ⟨address, []⟩ :: after) where
  inStep := tended.inStep
  events_eq_nil := tended.events_eq_nil
  outstanding := tended.outstanding
  addresses_nodup := by
    have nodup := tended.addresses_nodup
    rw [List.map_append] at nodup free
    rw [List.map_append, List.map_cons, List.nodup_middle]
    exact List.nodup_cons.mpr ⟨free, nodup⟩
  pending_submitted := by
    intro slot tx present pending
    obtain ⟨seat, mem, submitted⟩ := tended.pending_submitted slot tx present pending
    refine ⟨seat, ?_, submitted⟩
    simp only [List.mem_append, List.mem_cons] at mem ⊢
    rcases mem with front | back
    · exact Or.inl front
    · exact Or.inr (Or.inr back)
  sent_started := by
    intro slot tx present sent seat mem here
    simp only [List.mem_append, List.mem_cons] at mem
    rcases mem with front | rfl | back
    · exact tended.sent_started slot tx present sent seat (List.mem_append_left _ front) here
    · exact Or.inl rfl
    · exact tended.sent_started slot tx present sent seat (List.mem_append_right _ back) here

/-- Seats are given up, and nothing that is still pending belongs to one of
them. -/
theorem plugOut (tended : Tended scheduler seats) (inStep : next.InStep)
    (events : next.events = scheduler.events) (sublist : fewer.Sublist seats)
    (kept : ∀ slot tx, next.table.entry slot = some tx →
      scheduler.table.entry slot = some tx)
    (stays : ∀ slot tx, next.table.entry slot = some tx → tx.status = .pending →
      ∀ seat ∈ seats, seat.address = tx.recipient → seat ∈ fewer) :
    Tended next fewer where
  inStep := inStep
  events_eq_nil := events.trans tended.events_eq_nil
  outstanding := fun slot tx present => tended.outstanding slot tx (kept slot tx present)
  addresses_nodup := tended.addresses_nodup.sublist (sublist.map Seat.address)
  pending_submitted := by
    intro slot tx present pending
    obtain ⟨seat, mem, address, newest⟩ :=
      tended.pending_submitted slot tx (kept slot tx present) pending
    exact ⟨seat, stays slot tx present pending seat mem address, address, newest⟩
  sent_started := by
    intro slot tx present sent seat mem here
    exact tended.sent_started slot tx (kept slot tx present) sent seat (sublist.subset mem) here

end Tended

namespace PlayerBus

open Diarist

section Plain

variable {P W : Type} [Peripheral P] {bus after : PlayerBus P W} {peripheral : P}

/-- A peripheral that is accepted answers on a free address, and is put among
the others. -/
theorem of_attached (attached : (bus.attach peripheral).value = .ok after) :
    Peripheral.address peripheral ∉ bus.addresses ∧
      after = { bus with peripherals := insert peripheral bus.peripherals } := by
  cases fault : bus.attachFault? (Peripheral.address peripheral) with
  | some refusal =>
      simp only [attach, fault] at attached
      contradiction
  | none =>
      simp only [attach, fault] at attached
      constructor
      · intro used
        rw [attachFault?, if_pos (List.contains_iff_mem.mpr used)] at fault
        split at fault
        · contradiction
        · split at fault <;> contradiction
      · exact (Except.ok.inj attached).symm

/-- Insertion leaves the others as they are. -/
theorem exists_insert (peripheral : P) (peripherals : List P) :
    ∃ before after, peripherals = before ++ after ∧
      insert peripheral peripherals = before ++ peripheral :: after :=
  ⟨_, _, (List.takeWhile_append_dropWhile).symm, rfl⟩

/-- The work of whoever is unplugged is cancelled, and nothing else changes. -/
theorem cancelWork_spec {scheduler : Scheduler} (inStep : scheduler.InStep)
    (removed : List P) :
    (cancelWork scheduler removed).value.InStep ∧
      (cancelWork scheduler removed).value.events = scheduler.events ∧
      ∀ slot tx, (cancelWork scheduler removed).value.table.entry slot = some tx →
        scheduler.table.entry slot = some tx ∧
          (tx.status = .pending →
            ∀ peripheral ∈ removed, Peripheral.address peripheral ≠ tx.recipient) := by
  induction removed generalizing scheduler with
  | nil =>
      refine ⟨inStep, rfl, fun slot tx present => ⟨present, ?_⟩⟩
      simp
  | cons peripheral rest ih =>
      let recipient := Peripheral.address peripheral
      obtain ⟨restInStep, events, kept⟩ :=
        ih (inStep.removePending fun tx => tx.recipient == recipient)
      refine ⟨restInStep, events, ?_⟩
      intro slot tx present
      obtain ⟨remains, others⟩ := kept slot tx present
      constructor
      · exact Scheduler.entry_of_entry_removePending remains
      · intro pending other mem
        rcases List.mem_cons.mp mem with rfl | later
        · rw [Scheduler.entry_removePending, Option.filter_eq_some_iff] at remains
          intro same
          simp [pending, recipient, same, Status.isPending] at remains
        · exact others pending other later

/-- Whoever leaves is taken out, and their pending work is cancelled. -/
theorem of_detached {address : Address} {removed : List P}
    (detached : (bus.detach address).value = .ok (removed, after)) :
    ∃ leaves : P → Bool, removed = bus.peripherals.filter leaves ∧
      after.peripherals = bus.peripherals.filter (fun peripheral => !leaves peripheral) ∧
      after.scheduler = (cancelWork bus.scheduler removed).value := by
  unfold detach at detached
  split at detached
  · obtain ⟨rfl, rfl⟩ := Prod.mk.inj (Except.ok.inj detached)
    exact ⟨_, rfl, rfl, rfl⟩
  · contradiction

end Plain

section Seats

variable {P W : Type} [Peripheral P] {bus after : PlayerBus (Diarist P) W}

/-- A newcomer with a blank diary keeps the bus tended. -/
theorem tended_attach {peripheral : P}
    (tended : Tended bus.scheduler (seats bus.peripherals))
    (attached : (bus.attach { peripheral }).value = .ok after) :
    Tended after.scheduler (seats after.peripherals) ∧
      ∃ front back, seats bus.peripherals = front ++ back ∧
        seats after.peripherals = front ++ ⟨Peripheral.address peripheral, []⟩ :: back := by
  obtain ⟨free, rfl⟩ := of_attached attached
  obtain ⟨front, back, split, inserted⟩ := exists_insert { peripheral } bus.peripherals
  have former : seats bus.peripherals = seats front ++ seats back := by
    rw [split, seats, List.map_append]
    rfl
  have later : seats (insert { peripheral } bus.peripherals) =
      seats front ++ ⟨Peripheral.address peripheral, []⟩ :: seats back := by
    rw [inserted, seats, List.map_append]
    rfl
  constructor
  · change Tended bus.scheduler (seats (insert { peripheral } bus.peripherals))
    rw [later]
    rw [former] at tended
    apply tended.plugIn
    rw [← former, addresses_seats]
    exact free
  · exact ⟨seats front, seats back, former, later⟩

/-- Whoever leaves keeps the bus tended. -/
theorem tended_detach {address : Address} {removed : List (Diarist P)}
    (tended : Tended bus.scheduler (seats bus.peripherals))
    (detached : (bus.detach address).value = .ok (removed, after)) :
    Tended after.scheduler (seats after.peripherals) := by
  obtain ⟨leaves, rfl, remaining, cancelled⟩ := of_detached detached
  obtain ⟨inStep, events, kept⟩ := cancelWork_spec tended.inStep (bus.peripherals.filter leaves)
  rw [remaining, cancelled]
  refine tended.plugOut inStep events (List.Sublist.map _ List.filter_sublist)
    (fun slot tx present => (kept slot tx present).1) ?_
  intro slot tx present pending place mem here
  obtain ⟨diarist, diaristMem, rfl⟩ := List.mem_map.mp mem
  refine List.mem_map_of_mem (List.mem_filter.mpr ⟨diaristMem, ?_⟩)
  by_contra gone
  have leaving : diarist ∈ bus.peripherals.filter leaves :=
    List.mem_filter.mpr ⟨diaristMem, by simpa using gone⟩
  exact (kept slot tx present).2 pending diarist leaving here

end Seats

end PlayerBus

end MapleBus
