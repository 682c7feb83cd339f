import MapleBus.Proofs.PlayerBus.Diary
import MapleBus.Proofs.Scheduler.InStep
import Mathlib.Data.List.Nodup

/-!
# The bus between cycles

Between two cycles every transmission the scheduler knows is outstanding: the
events of all others were delivered, and they were released with them.  What
is pending was submitted by a peripheral that is plugged in and has written
nothing since.  What is on the wire was started for the peripheral at its
address, or that peripheral was plugged in later and has a blank diary.
-/

namespace MapleBus

/-- A place on the bus: an address, and the diary of the peripheral there. -/
structure Seat where
  address : Address
  diary : Diary

namespace Seat

/-- The seat with one more entry in its diary. -/
def write (entry : DiaryEntry) (seat : Seat) : Seat :=
  { seat with diary := entry :: seat.diary }

/-- Write an entry into the diaries at an address. -/
def writeAt (address : Address) (entry : DiaryEntry) (seats : List Seat) : List Seat :=
  seats.map fun seat => if seat.address = address then seat.write entry else seat

theorem writeAt_cons_of_eq {address : Address} {seat : Seat}
    (here : seat.address = address) (entry : DiaryEntry) (rest : List Seat) :
    writeAt address entry (seat :: rest) = seat.write entry :: writeAt address entry rest := by
  rw [writeAt, List.map_cons, if_pos here]
  rfl

theorem writeAt_cons_of_ne {address : Address} {seat : Seat}
    (elsewhere : seat.address ≠ address) (entry : DiaryEntry) (rest : List Seat) :
    writeAt address entry (seat :: rest) = seat :: writeAt address entry rest := by
  rw [writeAt, List.map_cons, if_neg elsewhere]
  rfl

theorem addresses_writeAt (address : Address) (entry : DiaryEntry) (seats : List Seat) :
    (writeAt address entry seats).map Seat.address = seats.map Seat.address := by
  rw [writeAt, List.map_map]
  apply List.map_congr_left
  intro seat _
  by_cases here : seat.address = address <;> simp [here, write]

/-- Nothing is written where nobody is. -/
theorem writeAt_of_absent {address : Address} {seats : List Seat}
    (absent : address ∉ seats.map Seat.address) (entry : DiaryEntry) :
    writeAt address entry seats = seats := by
  refine (List.map_congr_left ?_).trans (List.map_id seats)
  intro seat mem
  have elsewhere : seat.address ≠ address := by
    rintro rfl
    exact absent (List.mem_map_of_mem mem)
  simp [elsewhere]

theorem mem_writeAt {address : Address} {seat : Seat} {seats : List Seat}
    (mem : seat ∈ seats) (here : seat.address = address) (entry : DiaryEntry) :
    seat.write entry ∈ writeAt address entry seats :=
  List.mem_map.mpr ⟨seat, mem, if_pos here⟩

/-- What stands at an address after writing is what stood there, with one more
entry. -/
theorem of_mem_writeAt {address : Address} {entry : DiaryEntry} {seats : List Seat}
    {written : Seat} (mem : written ∈ writeAt address entry seats) :
    ∃ seat ∈ seats,
      (seat.address = address ∧ written = seat.write entry) ∨
      (seat.address ≠ address ∧ written = seat) := by
  obtain ⟨seat, seatMem, rfl⟩ := List.mem_map.mp mem
  by_cases here : seat.address = address
  · exact ⟨seat, seatMem, Or.inl ⟨here, by simp [here]⟩⟩
  · exact ⟨seat, seatMem, Or.inr ⟨here, by simp [here]⟩⟩

/-- Diaries are kept, and only continued. -/
def Grow (former later : List Seat) : Prop :=
  ∀ seat ∈ former, ∃ continued ∈ later, seat.diary <:+ continued.diary

theorem Grow.refl (seats : List Seat) : Grow seats seats :=
  fun seat mem => ⟨seat, mem, List.suffix_refl _⟩

theorem Grow.trans {first second third : List Seat} (before : Grow first second)
    (after : Grow second third) : Grow first third := by
  intro seat mem
  obtain ⟨middle, middleMem, earlier⟩ := before seat mem
  obtain ⟨last, lastMem, later⟩ := after middle middleMem
  exact ⟨last, lastMem, earlier.trans later⟩

theorem Grow.append {first second former later : List Seat} (front : Grow first second)
    (back : Grow former later) : Grow (first ++ former) (second ++ later) := by
  intro seat mem
  rcases List.mem_append.mp mem with inFront | inBack
  · obtain ⟨continued, continuedMem, grown⟩ := front seat inFront
    exact ⟨continued, List.mem_append_left _ continuedMem, grown⟩
  · obtain ⟨continued, continuedMem, grown⟩ := back seat inBack
    exact ⟨continued, List.mem_append_right _ continuedMem, grown⟩

theorem Grow.cons {seat continued : Seat} {former later : List Seat}
    (grown : seat.diary <:+ continued.diary) (others : Grow former later) :
    Grow (seat :: former) (continued :: later) := by
  have front : Grow [seat] [continued] := by
    intro only mem
    rw [List.mem_singleton.mp mem]
    exact ⟨continued, List.mem_singleton_self _, grown⟩
  exact front.append others

theorem grow_writeAt (address : Address) (entry : DiaryEntry) (seats : List Seat) :
    Grow seats (writeAt address entry seats) := by
  intro seat mem
  by_cases here : seat.address = address
  · exact ⟨_, mem_writeAt mem here entry, List.suffix_cons entry seat.diary⟩
  · exact ⟨seat, List.mem_map.mpr ⟨seat, mem, if_neg here⟩, List.suffix_refl _⟩

/-- Everybody's diary is their own. -/
def AllOwn (seats : List Seat) : Prop :=
  ∀ seat ∈ seats, seat.diary.IsOwn

/-- Everybody's diary is founded. -/
def AllFounded (seats : List Seat) : Prop :=
  ∀ seat ∈ seats, seat.diary.IsFounded

theorem AllOwn.allFounded {seats : List Seat} (own : AllOwn seats) : AllFounded seats :=
  fun seat mem => (own seat mem).isFounded

/-- A diary that is not founded never becomes it again. -/
theorem AllFounded.of_grow {former later : List Seat} (founded : AllFounded later)
    (grow : Grow former later) : AllFounded former := by
  intro seat mem
  obtain ⟨continued, continuedMem, earlier⟩ := grow seat mem
  exact (founded continued continuedMem).of_suffix earlier

/-- Writing at an address keeps every diary one's own if it does so there. -/
theorem allOwn_writeAt {address : Address} {entry : DiaryEntry} {seats : List Seat}
    (own : AllOwn seats)
    (there : ∀ seat ∈ seats, seat.address = address → (seat.write entry).diary.IsOwn) :
    AllOwn (writeAt address entry seats) := by
  intro written mem
  rcases of_mem_writeAt mem with ⟨seat, seatMem, ⟨here, rfl⟩ | ⟨-, rfl⟩⟩
  · exact there seat seatMem here
  · exact own written seatMem

theorem allOwn_append {first second : List Seat} :
    AllOwn (first ++ second) ↔ AllOwn first ∧ AllOwn second :=
  List.forall_mem_append

end Seat

/-- The scheduler and the diaries agree between two cycles. -/
structure Tended (scheduler : Scheduler) (seats : List Seat) : Prop where
  inStep : scheduler.InStep
  events_eq_nil : scheduler.events = []
  outstanding : ∀ slot tx, scheduler.table.entry slot = some tx →
    tx.status.isOutstanding = true
  addresses_nodup : (seats.map Seat.address).Nodup
  pending_submitted : ∀ slot tx, scheduler.table.entry slot = some tx →
    tx.status = .pending →
      ∃ seat ∈ seats, seat.address = tx.recipient ∧
        seat.diary.head? = some (.submitted tx)
  sent_started : ∀ slot tx, scheduler.table.entry slot = some tx → tx.status = .sent →
    ∀ seat ∈ seats, seat.address = tx.recipient →
      seat.diary = [] ∨ seat.diary.head? = some (.started tx)

namespace Tended

variable {scheduler next : Scheduler} {seats before after : List Seat} {seat : Seat}
  {slot : Slot} {handle : Handle} {tx : Transmission}

theorem start : Tended {} [] where
  inStep := Scheduler.InStep.empty
  events_eq_nil := rfl
  outstanding := by simp
  addresses_nodup := List.nodup_nil
  pending_submitted := by simp
  sent_started := by simp

/-- Two seats at one address are one. -/
theorem seat_eq (tended : Tended scheduler seats) {first second : Seat}
    (mem : first ∈ seats) (otherMem : second ∈ seats)
    (address : first.address = second.address) : first = second :=
  List.inj_on_of_nodup_map tended.addresses_nodup mem otherMem address

/-- The scheduler knows one transmission at most. -/
theorem slot_eq (tended : Tended scheduler seats) {other : Slot} {otherTx : Transmission}
    (present : scheduler.table.entry slot = some tx)
    (otherPresent : scheduler.table.entry other = some otherTx) : slot = other :=
  tended.inStep.slot_eq present (tended.outstanding slot tx present) otherPresent
    (tended.outstanding other otherTx otherPresent)

/-- Nothing waits to be told, so there is room for the next event. -/
theorem room (tended : Tended scheduler seats) :
    scheduler.events.length < Event.queueCapacity := by
  rw [tended.events_eq_nil]
  decide

/-- Once the one transmission is removed, whatever became of it, the table is
empty. -/
theorem entry_vacate_put (tended : Tended scheduler seats)
    (present : scheduler.table.entry slot = some tx) (settled : Transmission)
    (place : Slot) : ((scheduler.table.put slot settled).vacate slot).entry place = none := by
  by_cases here : place = slot
  · rw [here]
    exact Table.entry_vacate_same
  · rw [Table.entry_vacate_of_ne here, Table.entry_put_of_ne here]
    cases other : scheduler.table.entry place with
    | none => rfl
    | some otherTx => exact absurd (tended.slot_eq other present) here

/-- What stands in the slot of the one transmission is all there is. -/
theorem eq_of_entry_put (tended : Tended scheduler seats)
    (present : scheduler.table.entry slot = some tx) {renewed otherTx : Transmission}
    {place : Slot} (found : (scheduler.table.put slot renewed).entry place = some otherTx) :
    otherTx = renewed := by
  by_cases here : place = slot
  · rw [here, Table.entry_put_same] at found
    exact (Option.some.inj found).symm
  · rw [Table.entry_put_of_ne here] at found
    exact absurd (tended.slot_eq found present) here

/-! ## Changes that bring nothing new -/

/-- A change that at most drops transmissions. -/
theorem of_kept (tended : Tended scheduler seats) (inStep : next.InStep)
    (events : next.events = [])
    (kept : ∀ slot tx, next.table.entry slot = some tx →
      scheduler.table.entry slot = some tx) : Tended next seats where
  inStep := inStep
  events_eq_nil := events
  outstanding := fun slot tx present => tended.outstanding slot tx (kept slot tx present)
  addresses_nodup := tended.addresses_nodup
  pending_submitted := fun slot tx present =>
    tended.pending_submitted slot tx (kept slot tx present)
  sent_started := fun slot tx present => tended.sent_started slot tx (kept slot tx present)

/-- A change that leaves the table alone. -/
theorem of_same_table (tended : Tended scheduler seats) (inStep : next.InStep)
    (events : next.events = scheduler.events) (table : next.table = scheduler.table) :
    Tended next seats := by
  apply tended.of_kept inStep (events.trans tended.events_eq_nil)
  intro slot tx present
  rwa [← table]

theorem signal (tended : Tended scheduler seats) (signal : Signal) :
    Tended (scheduler.signal signal).2 seats :=
  tended.of_same_table (tended.inStep.signal signal) rfl rfl

theorem removePending (tended : Tended scheduler seats)
    (condition : Transmission → Bool) :
    Tended (scheduler.removePending condition).2 seats :=
  tended.of_kept (tended.inStep.removePending condition) tended.events_eq_nil
    fun _ _ present => Scheduler.entry_of_entry_removePending present

/-- An empty table goes with any diaries. -/
theorem of_empty (tended : Tended scheduler before) (inStep : next.InStep)
    (events : next.events = []) (empty : ∀ slot, next.table.entry slot = none)
    (addresses : seats.map Seat.address = before.map Seat.address) : Tended next seats where
  inStep := inStep
  events_eq_nil := events
  outstanding := by simp [empty]
  addresses_nodup := by
    rw [addresses]
    exact tended.addresses_nodup
  pending_submitted := by simp [empty]
  sent_started := by simp [empty]

/-! ## Submitting -/

/-- While nothing is outstanding, the scheduler knows nothing. -/
theorem entry_eq_none (tended : Tended scheduler seats)
    (quiet : scheduler.outstanding? = none) (slot : Slot) :
    scheduler.table.entry slot = none := by
  cases present : scheduler.table.entry slot with
  | none => rfl
  | some tx =>
      have settled := Scheduler.outstanding?_eq_none_iff.mp quiet slot tx present
      rw [tended.outstanding slot tx present] at settled
      contradiction

/-- The scheduler knows a single transmission, and the diaries agree with
it. -/
theorem of_single (tx : Transmission) (inStep : next.InStep) (events : next.events = [])
    (single : ∀ slot other, next.table.entry slot = some other → other = tx)
    (outstanding : tx.status.isOutstanding = true)
    (addresses : (seats.map Seat.address).Nodup)
    (pending : tx.status = .pending → ∃ seat ∈ seats,
      seat.address = tx.recipient ∧ seat.diary.head? = some (.submitted tx))
    (sent : tx.status = .sent → ∀ seat ∈ seats, seat.address = tx.recipient →
      seat.diary = [] ∨ seat.diary.head? = some (.started tx)) : Tended next seats where
  inStep := inStep
  events_eq_nil := events
  outstanding := by
    intro slot other present
    rw [single slot other present]
    exact outstanding
  addresses_nodup := addresses
  pending_submitted := by
    intro slot other present
    rw [single slot other present]
    exact pending
  sent_started := by
    intro slot other present
    rw [single slot other present]
    exact sent

/-- A peripheral that submits a packet to itself writes it down when it is
accepted. -/
theorem schedule (tended : Tended scheduler (before ++ seat :: after)) {packet : Packet}
    (own : packet.recipient = seat.address) (expectsReply : Bool) :
    match (scheduler.schedule packet expectsReply).value with
    | (.ok handle, next) =>
        Tended next
          (before ++ seat.write (.submitted { id := handle.id, packet, expectsReply }) :: after)
    | (.error _, next) => Tended next (before ++ seat :: after) := by
  have inStep := tended.inStep.schedule packet expectsReply
  cases busy : scheduler.outstanding? with
  | some handle =>
      rw [Scheduler.schedule_of_outstanding busy] at inStep ⊢
      exact tended.of_same_table inStep rfl rfl
  | none =>
      cases free : scheduler.table.free? with
      | none =>
          rw [Scheduler.schedule_of_full busy free]
          exact tended
      | some slot =>
          rw [Scheduler.schedule_of_free busy free] at inStep ⊢
          refine of_single (scheduler.newcomer packet expectsReply) inStep
            tended.events_eq_nil ?_ rfl ?_ ?_ ?_
          · intro place other present
            by_cases here : place = slot
            · rw [here] at present
              exact (Option.some.inj (Table.entry_put_same.symm.trans present)).symm
            · have elsewhere := (Table.entry_put_of_ne here).symm.trans present
              rw [tended.entry_eq_none busy] at elsewhere
              contradiction
          · simpa [Seat.write] using tended.addresses_nodup
          · intro _
            exact ⟨_, List.mem_append_right _ List.mem_cons_self, own.symm, rfl⟩
          · intro sent
            contradiction

end Tended

end MapleBus
