import MapleBus.Proofs.Scheduler.InStep

/-!
# The counters balance

Whatever happens to a scheduler, its counters agree with its table: what was
accepted is pending, was cancelled or went out; what went out is on the wire or
has ended; and what has ended is in the table or was released.  Counters wrap
around, so these laws are equations between words.  Every operation keeps them,
and they hold after every run.
-/

namespace MapleBus

namespace Table

variable {table : Table} {condition : Transmission → Bool} {slot : Slot}
  {tx former : Transmission}

/-! ## Counting entries -/

/-- Conditions that agree except at one place are counted alike, up to what they
say about that place. -/
theorem countP_add_of_agree {places : List Slot} (nodup : places.Nodup)
    {before after : Slot → Bool} (mem : slot ∈ places)
    (agree : ∀ place, place ≠ slot → after place = before place) :
    places.countP after + (before slot).toNat = places.countP before + (after slot).toNat := by
  induction places with
  | nil => contradiction
  | cons first rest ih =>
      obtain ⟨fresh, restNodup⟩ := List.nodup_cons.mp nodup
      rw [List.countP_cons, List.countP_cons]
      by_cases here : first = slot
      · have same : rest.countP after = rest.countP before := by
          apply List.countP_congr
          intro place later
          have elsewhere : place ≠ slot := by
            rintro rfl
            exact fresh (here ▸ later)
          rw [agree place elsewhere]
        rw [same, here]
        cases before slot <;> cases after slot <;> rfl
      · have later : slot ∈ rest := List.mem_of_ne_of_mem (Ne.symm here) mem
        have counted := ih restNodup later
        rw [agree first here]
        omega

/-- A change of one slot changes a count by what stands there before and
afterwards. -/
theorem count_add_of_agree {next : Table} (slot : Slot) (condition : Transmission → Bool)
    (agree : ∀ place, place ≠ slot → next.entry place = table.entry place) :
    next.count condition + ((table.entry slot).any condition).toNat =
      table.count condition + ((next.entry slot).any condition).toNat := by
  rw [count_eq_countP, count_eq_countP]
  apply countP_add_of_agree (List.nodup_finRange 4) (List.mem_finRange slot)
  intro place elsewhere
  rw [agree place elsewhere]

theorem count_put_of_vacant (vacant : table.entry slot = none) (tx : Transmission)
    (condition : Transmission → Bool) :
    (table.put slot tx).count condition = table.count condition + (condition tx).toNat := by
  have counted : (table.put slot tx).count condition + _ = _ :=
    count_add_of_agree slot condition fun _ elsewhere => entry_put_of_ne elsewhere
  rwa [vacant, entry_put_same, Option.any_none, Option.any_some] at counted

theorem count_put (present : table.entry slot = some former) (tx : Transmission)
    (condition : Transmission → Bool) :
    (table.put slot tx).count condition + (condition former).toNat =
      table.count condition + (condition tx).toNat := by
  have counted : (table.put slot tx).count condition + _ = _ :=
    count_add_of_agree slot condition fun _ elsewhere => entry_put_of_ne elsewhere
  rwa [present, entry_put_same, Option.any_some, Option.any_some] at counted

theorem count_vacate (present : table.entry slot = some former)
    (condition : Transmission → Bool) :
    (table.vacate slot).count condition + (condition former).toNat = table.count condition := by
  have counted : (table.vacate slot).count condition + _ = _ :=
    count_add_of_agree slot condition fun _ elsewhere => entry_vacate_of_ne elsewhere
  rwa [present, entry_vacate_same, Option.any_some, Option.any_none] at counted

theorem toList_filter (table : Table) (keep : Transmission → Bool) :
    (table.filter keep).toList = table.toList.filter keep := by
  rw [toList_eq_filterMap, toList_eq_filterMap, List.filter_filterMap]
  congr
  funext slot
  exact entry_filter

/-- Those that are dropped and those that are kept are all that were counted. -/
theorem count_filter_not_add (table : Table) (doomed condition : Transmission → Bool) :
    (table.filter fun tx => !doomed tx).count condition +
      table.count (fun tx => condition tx && doomed tx) = table.count condition := by
  have parted := List.countP_eq_countP_filter_add table.toList condition doomed
  rw [List.countP_filter] at parted
  rw [count, count, count, toList_filter, parted, Nat.add_comm]

theorem count_eq_zero_of_never (never : ∀ tx, condition tx = false) :
    table.count condition = 0 :=
  count_eq_zero_iff.mpr fun _ tx _ => never tx

end Table

namespace Scheduler

/-! ## Counting what happens in a run -/

/-- How often something happens in a run. -/
def occasions (happens : Scheduler → Operation → Bool) (scheduler : Scheduler) :
    List Operation → Nat
  | [] => 0
  | operation :: rest =>
      (happens scheduler operation).toNat +
        occasions happens (scheduler.perform operation).value rest

/-- A transmission is handed out. -/
def releases (scheduler : Scheduler) : Operation → Bool
  | .release handle => (scheduler.release handle).1.isSome
  | _ => false

/-- Work is refused because the bus is busy. -/
def refuses (scheduler : Scheduler) : Operation → Bool
  | .schedule packet expectsReply =>
      match (scheduler.schedule packet expectsReply).value.1 with
      | .error .busBusy => true
      | _ => false
  | _ => false

/-- A counter wraps around. -/
def wraps (counter : Counters → UInt32) (scheduler : Scheduler) (operation : Operation) : Bool :=
  counter (scheduler.perform operation).value.counters < counter scheduler.counters

/-! ## What an operation does to table and counters -/

/-- An end is counted, and no other event. -/
structure CountsEnd (former later : Counters) : Prop where
  scheduled : later.scheduled = former.scheduled
  rejectedBusy : later.rejectedBusy = former.rejectedBusy
  dispatched : later.dispatched = former.dispatched
  cancelled : later.cancelled = former.cancelled
  completed : later.completed = former.completed + 1

theorem countsEnd_countEnd (counters : Counters) (status : Status) :
    CountsEnd counters (countEnd counters status) := by
  rcases status with _ | _ | _ | (_ | _)
  all_goals
    constructor
    case completed =>
      simp only [countEnd, Counters.completed, Counters.countSucceeded,
        Counters.countWriteFailure, Counters.countReadFailure]
      grind
    all_goals rfl

/-- That a reply could not be read is counted apart from the end itself. -/
theorem countsEnd_countRuling (counters : Counters) (ruling : Status × Option CodecError) :
    CountsEnd counters (countRuling counters ruling) := by
  rw [countRuling]
  split
  · have counted := countsEnd_countEnd counters.countDecodeFailure ruling.1
    exact ⟨counted.scheduled, counted.rejectedBusy, counted.dispatched, counted.cancelled,
      counted.completed⟩
  · exact countsEnd_countEnd counters ruling.1

/-- The failed reads of two moments: none was counted in between, or one was, and
perhaps a reply that could not be read with it. -/
inductive CountsRead (former later : Counters) : Prop where
  | none (reads : later.readFailures = former.readFailures)
      (unreadable : later.decodeFailures = former.decodeFailures)
  | missing (reads : later.readFailures = former.readFailures + 1)
      (unreadable : later.decodeFailures = former.decodeFailures)
  | garbled (reads : later.readFailures = former.readFailures + 1)
      (unreadable : later.decodeFailures = former.decodeFailures + 1)

theorem countsRead_countEnd (counters : Counters) (status : Status) :
    CountsRead counters (countEnd counters status) := by
  rcases status with _ | _ | _ | (_ | _)
  case failed.read => exact .missing rfl rfl
  all_goals exact .none rfl rfl

/-- A reply that could not be read is a failed read. -/
theorem failed_of_unreadable {expectsReply : Bool} {outcome : Outcome} {bytes : List UInt8}
    (unreadable : (verdict expectsReply outcome bytes).2.isSome = true) :
    (verdict expectsReply outcome bytes).1 = .failed .read := by
  revert unreadable
  unfold verdict
  repeat' split
  all_goals
    intro unreadable
    first
    | rfl
    | contradiction

theorem countsRead_countRuling (scheduler : Scheduler) (counters : Counters)
    (tx : Transmission) : CountsRead counters (countRuling counters (scheduler.ruling tx)) := by
  rw [countRuling]
  split
  · next unreadable =>
      rw [ruling, failed_of_unreadable unreadable]
      exact .garbled rfl rfl
  · exact countsRead_countEnd counters _

/-- The ways an operation can go, in terms of table and counters.  The flags tell
whether a transmission is handed out, and whether work is refused because the bus is
busy. -/
inductive Entered (scheduler next : Scheduler) : Bool → Bool → Prop where
  | nothing (table : next.table = scheduler.table)
      (counters : next.counters = scheduler.counters) : Entered scheduler next false false
  | refused (table : next.table = scheduler.table)
      (counters : next.counters = scheduler.counters.countRejectedBusy) :
      Entered scheduler next false true
  | accepted (slot : Slot) (tx : Transmission) (vacant : scheduler.table.entry slot = none)
      (pending : tx.status = .pending) (table : next.table = scheduler.table.put slot tx)
      (counters : next.counters = scheduler.counters.countScheduled) :
      Entered scheduler next false false
  | sent (slot : Slot) (tx : Transmission) (present : scheduler.table.entry slot = some tx)
      (pending : tx.status = .pending)
      (table : next.table = scheduler.table.put slot { tx with status := .sent })
      (counters : next.counters = scheduler.counters.countDispatched) :
      Entered scheduler next false false
  | settled (slot : Slot) (tx : Transmission) (status : Status)
      (present : scheduler.table.entry slot = some tx) (sent : tx.status = .sent)
      (terminal : status.isTerminal = true)
      (table : next.table = scheduler.table.put slot { tx with status })
      (countsEnd : CountsEnd scheduler.counters next.counters)
      (countsRead : CountsRead scheduler.counters next.counters) :
      Entered scheduler next false false
  | released (slot : Slot) (tx : Transmission)
      (present : scheduler.table.entry slot = some tx) (terminal : tx.status.isTerminal = true)
      (table : next.table = scheduler.table.vacate slot)
      (counters : next.counters = scheduler.counters) : Entered scheduler next true false
  | removed (condition : Transmission → Bool)
      (table : next.table = (scheduler.removePending condition).2.table)
      (counters : next.counters = (scheduler.removePending condition).2.counters) :
      Entered scheduler next false false

section Operations

variable {scheduler : Scheduler}

theorem entered_schedule (scheduler : Scheduler) (packet : Packet) (expectsReply : Bool) :
    Entered scheduler (scheduler.schedule packet expectsReply).value.2 false
      (scheduler.refuses (.schedule packet expectsReply)) := by
  cases busy : scheduler.outstanding? with
  | some handle =>
      simp only [refuses, schedule_of_outstanding busy]
      exact .refused rfl rfl
  | none =>
      cases free : scheduler.table.free? with
      | none =>
          simp only [refuses, schedule_of_full busy free]
          exact .nothing rfl rfl
      | some slot =>
          simp only [refuses, schedule_of_free busy free]
          exact .accepted slot (scheduler.newcomer packet expectsReply)
            (Table.entry_of_free?_eq_some free) rfl rfl rfl

theorem entered_dispatch {W : Type} [Wire W] (scheduler : Scheduler) (wire : W) :
    Entered scheduler (scheduler.dispatch wire).value.2.1 false false := by
  cases search : scheduler.table.find? (fun tx => tx.status.isPending) with
  | none =>
      rw [dispatch_of_no_pending search]
      exact .nothing rfl rfl
  | some found =>
      obtain ⟨handle, tx⟩ := found
      obtain ⟨present, -, isPending⟩ := Table.of_find?_eq_some search
      cases answer : (offer wire tx).result with
      | error refusal =>
          rw [dispatch_of_refusal search answer]
          exact .nothing rfl rfl
      | ok _ =>
          rw [dispatch_of_acceptance search answer]
          exact .sent handle.slot tx present (Status.isPending_iff.mp isPending) rfl rfl

theorem entered_service (inStep : scheduler.InStep) :
    Entered scheduler scheduler.service.value false false := by
  by_cases done : scheduler.completion.phase = .done
  · obtain ⟨handle, tx, found⟩ := inStep.find?_of_done done
    obtain ⟨present, -, isSent⟩ := Table.of_find?_eq_some found
    rw [service_of_outcome done found]
    exact .settled handle.slot tx (scheduler.ruling tx).1 present (Status.isSent_iff.mp isSent)
      (InStep.isTerminal_verdict _ _ _) rfl (countsEnd_countRuling _ _)
      (countsRead_countRuling _ _ tx)
  · obtain ⟨lock, served⟩ := service_of_waiting done
    rw [served]
    exact .nothing rfl rfl

theorem entered_release (scheduler : Scheduler) (handle : Handle) :
    Entered scheduler (scheduler.release handle).2 (scheduler.releases (.release handle))
      false := by
  rcases release_cases scheduler handle with ⟨tx, found, terminal, gone⟩ | ⟨-, kept⟩
  · obtain ⟨present, -⟩ := Table.get?_eq_some_iff.mp found
    simp only [releases, gone]
    exact .released handle.slot tx present terminal rfl rfl
  · simp only [releases, kept]
    exact .nothing rfl rfl

/-- Every operation goes one of these ways. -/
theorem entered_perform (inStep : scheduler.InStep) (operation : Operation) :
    Entered scheduler (scheduler.perform operation).value (scheduler.releases operation)
      (scheduler.refuses operation) := by
  cases operation with
  | schedule packet expectsReply => exact entered_schedule scheduler packet expectsReply
  | dispatch wire => exact entered_dispatch scheduler wire
  | service => exact entered_service inStep
  | nextEvent =>
      change Entered scheduler scheduler.nextEvent.2 false false
      rw [nextEvent_eq]
      exact .nothing rfl rfl
  | release handle => exact entered_release scheduler handle
  | cancel handle => exact .removed (fun tx => tx.id == handle.id) rfl rfl
  | cancelByRecipient recipient => exact .removed (fun tx => tx.recipient == recipient) rfl rfl
  | cancelAll => exact .removed (fun _ => true) rfl rfl
  | signal signal => exact .nothing rfl rfl
  | askArmed => exact .nothing rfl rfl

end Operations

/-! ## Balance -/

/-- How many transmissions in the table are pending. -/
def waiting (scheduler : Scheduler) : Nat :=
  scheduler.table.count fun tx => tx.status.isPending

/-- How many are on the wire. -/
def flying (scheduler : Scheduler) : Nat :=
  scheduler.table.count fun tx => tx.status.isSent

/-- How many have ended. -/
def ended (scheduler : Scheduler) : Nat :=
  scheduler.table.count fun tx => tx.status.isTerminal

/-- The counters account for the table, for what was handed out and for what was
refused because the bus was busy. -/
structure Balanced (scheduler : Scheduler) (released refused : Nat) : Prop where
  scheduled :
    scheduler.counters.scheduled =
      scheduler.counters.dispatched + scheduler.counters.cancelled +
        UInt32.ofNat scheduler.waiting
  dispatched :
    scheduler.counters.dispatched =
      scheduler.counters.completed + UInt32.ofNat scheduler.flying
  completed :
    scheduler.counters.completed =
      UInt32.ofNat scheduler.ended + UInt32.ofNat released
  rejectedBusy : scheduler.counters.rejectedBusy = UInt32.ofNat refused

section Counts

variable {scheduler next : Scheduler} {slot : Slot} {tx : Transmission}

/-- A transmission that gets another status is counted under it. -/
theorem counts_of_renewed {status : Status} (present : scheduler.table.entry slot = some tx)
    (table : next.table = scheduler.table.put slot { tx with status }) :
    next.waiting + tx.status.isPending.toNat = scheduler.waiting + status.isPending.toNat ∧
      next.flying + tx.status.isSent.toNat = scheduler.flying + status.isSent.toNat ∧
      next.ended + tx.status.isTerminal.toNat = scheduler.ended + status.isTerminal.toNat := by
  simp only [waiting, flying, ended, table]
  constructor
  · exact Table.count_put present _ _
  constructor
  · exact Table.count_put present _ _
  · exact Table.count_put present _ _

theorem isPending_of_isTerminal {status : Status} (terminal : status.isTerminal = true) :
    status.isPending = false := by
  cases status <;> first | rfl | contradiction

theorem isSent_of_isTerminal {status : Status} (terminal : status.isTerminal = true) :
    status.isSent = false := by
  cases status <;> first | rfl | contradiction

/-- A cancellation takes away pending transmissions only. -/
theorem counts_of_removed (scheduler : Scheduler) (condition : Transmission → Bool) :
    (scheduler.removePending condition).2.waiting +
        scheduler.table.count (fun tx => tx.status.isPending && condition tx) =
        scheduler.waiting ∧
      (scheduler.removePending condition).2.flying = scheduler.flying ∧
      (scheduler.removePending condition).2.ended = scheduler.ended := by
  let doomed (tx : Transmission) : Bool := tx.status.isPending && condition tx
  have parted (counted : Transmission → Bool) :
      (scheduler.removePending condition).2.table.count counted +
        scheduler.table.count (fun tx => counted tx && doomed tx) =
        scheduler.table.count counted :=
    scheduler.table.count_filter_not_add doomed counted
  have noneFlies : scheduler.table.count (fun tx => tx.status.isSent && doomed tx) = 0 := by
    apply Table.count_eq_zero_of_never
    intro tx
    simp only [doomed]
    cases tx.status <;> rfl
  have noneEnded :
      scheduler.table.count (fun tx => tx.status.isTerminal && doomed tx) = 0 := by
    apply Table.count_eq_zero_of_never
    intro tx
    simp only [doomed]
    cases tx.status <;> rfl
  constructor
  · have waits := parted fun tx => tx.status.isPending
    simp only [doomed, Bool.and_self_left] at waits
    exact waits
  constructor
  · have flies := parted fun tx => tx.status.isSent
    rwa [noneFlies] at flies
  · have same := parted fun tx => tx.status.isTerminal
    rwa [noneEnded] at same

end Counts

namespace Balanced

variable {scheduler next : Scheduler} {released refused : Nat} {slot : Slot}
  {tx : Transmission}

theorem empty : Balanced {} 0 0 := by
  constructor <;> decide

theorem nothing (balanced : Balanced scheduler released refused)
    (table : next.table = scheduler.table) (counters : next.counters = scheduler.counters) :
    Balanced next released refused := by
  obtain ⟨scheduled, dispatched, completed, rejectedBusy⟩ := balanced
  constructor <;> simpa only [waiting, flying, ended, table, counters]

theorem refuse (balanced : Balanced scheduler released refused)
    (table : next.table = scheduler.table)
    (counters : next.counters = scheduler.counters.countRejectedBusy) :
    Balanced next released (refused + 1) := by
  obtain ⟨scheduled, dispatched, completed, rejectedBusy⟩ := balanced
  constructor
  · simpa only [waiting, table, counters]
  · rw [flying, table, counters]
    exact dispatched
  · rw [ended, table, counters]
    exact completed
  · rw [counters, UInt32.ofNat_add, ← rejectedBusy]
    rfl

theorem accept (balanced : Balanced scheduler released refused)
    (vacant : scheduler.table.entry slot = none) (pending : tx.status = .pending)
    (table : next.table = scheduler.table.put slot tx)
    (counters : next.counters = scheduler.counters.countScheduled) :
    Balanced next released refused := by
  obtain ⟨scheduled, dispatched, completed, rejectedBusy⟩ := balanced
  have counted := Table.count_put_of_vacant vacant tx
  rw [← table] at counted
  have waits : next.waiting = scheduler.waiting + tx.status.isPending.toNat := counted _
  have flies : next.flying = scheduler.flying + tx.status.isSent.toNat := counted _
  have same : next.ended = scheduler.ended + tx.status.isTerminal.toNat := counted _
  rw [pending] at waits flies same
  constructor
  · simp only [counters, Counters.countScheduled, scheduled, waits]
    change _ = _ + UInt32.ofNat (scheduler.waiting + 1)
    grind [UInt32.ofNat_add]
  · rw [counters, flies]
    exact dispatched
  · rw [counters, same]
    exact completed
  · rw [counters]
    exact rejectedBusy

theorem send (balanced : Balanced scheduler released refused)
    (present : scheduler.table.entry slot = some tx) (pending : tx.status = .pending)
    (table : next.table = scheduler.table.put slot { tx with status := .sent })
    (counters : next.counters = scheduler.counters.countDispatched) :
    Balanced next released refused := by
  obtain ⟨scheduled, dispatched, completed, rejectedBusy⟩ := balanced
  obtain ⟨nowWaiting, nowFlying, nowEnded⟩ := counts_of_renewed present table
  rw [pending] at nowWaiting nowFlying nowEnded
  have fewer : scheduler.waiting = next.waiting + 1 := nowWaiting.symm
  have more : next.flying = scheduler.flying + 1 := nowFlying
  have same : next.ended = scheduler.ended := nowEnded
  constructor
  · simp only [counters, Counters.countDispatched, scheduled, fewer]
    grind [UInt32.ofNat_add]
  · simp only [counters, Counters.countDispatched, dispatched, more]
    change _ = scheduler.counters.completed + _
    grind [UInt32.ofNat_add]
  · rw [counters, same]
    exact completed
  · rw [counters]
    exact rejectedBusy

theorem settle {status : Status} (balanced : Balanced scheduler released refused)
    (present : scheduler.table.entry slot = some tx) (sent : tx.status = .sent)
    (terminal : status.isTerminal = true)
    (table : next.table = scheduler.table.put slot { tx with status })
    (counters : CountsEnd scheduler.counters next.counters) :
    Balanced next released refused := by
  obtain ⟨scheduled, dispatched, completed, rejectedBusy⟩ := balanced
  obtain ⟨nowWaiting, nowFlying, nowEnded⟩ := counts_of_renewed present table
  rw [sent, isPending_of_isTerminal terminal] at nowWaiting
  rw [sent, isSent_of_isTerminal terminal] at nowFlying
  rw [sent, terminal] at nowEnded
  have same : next.waiting = scheduler.waiting := nowWaiting
  have fewer : scheduler.flying = next.flying + 1 := nowFlying.symm
  have more : next.ended = scheduler.ended + 1 := nowEnded
  constructor
  · rw [counters.scheduled, counters.dispatched, counters.cancelled, same]
    exact scheduled
  · rw [counters.dispatched, counters.completed, dispatched, fewer]
    grind [UInt32.ofNat_add]
  · rw [counters.completed, completed, more]
    grind [UInt32.ofNat_add]
  · rw [counters.rejectedBusy]
    exact rejectedBusy

theorem release (balanced : Balanced scheduler released refused)
    (present : scheduler.table.entry slot = some tx) (terminal : tx.status.isTerminal = true)
    (table : next.table = scheduler.table.vacate slot)
    (counters : next.counters = scheduler.counters) : Balanced next (released + 1) refused := by
  obtain ⟨scheduled, dispatched, completed, rejectedBusy⟩ := balanced
  have counted := Table.count_vacate present
  rw [← table] at counted
  have waits : next.waiting + tx.status.isPending.toNat = scheduler.waiting := counted _
  have flies : next.flying + tx.status.isSent.toNat = scheduler.flying := counted _
  have fewer : next.ended + tx.status.isTerminal.toNat = scheduler.ended := counted _
  rw [isPending_of_isTerminal terminal] at waits
  rw [isSent_of_isTerminal terminal] at flies
  rw [terminal] at fewer
  constructor
  · rw [counters, scheduled, ← waits]
    rfl
  · rw [counters, dispatched, ← flies]
    rfl
  · rw [counters, completed, ← fewer, Bool.toNat_true]
    grind [UInt32.ofNat_add]
  · rw [counters]
    exact rejectedBusy

/-- Cancelled transmissions were pending, and are counted one by one. -/
theorem remove (balanced : Balanced scheduler released refused)
    (condition : Transmission → Bool) :
    Balanced (scheduler.removePending condition).2 released refused := by
  obtain ⟨waits, flies, same⟩ := counts_of_removed scheduler condition
  obtain ⟨scheduled, dispatched, completed, rejectedBusy⟩ := balanced
  constructor
  · change scheduler.counters.scheduled =
      scheduler.counters.dispatched + (scheduler.counters.cancelled + _) + _
    rw [scheduled, ← waits]
    grind [UInt32.ofNat_add]
  · rw [flies]
    exact dispatched
  · rw [same]
    exact completed
  · exact rejectedBusy

/-- Every operation keeps the balance. -/
theorem step {releases refuses : Bool} (balanced : Balanced scheduler released refused)
    (entered : Entered scheduler next releases refuses) :
    Balanced next (released + releases.toNat) (refused + refuses.toNat) := by
  cases entered with
  | nothing table counters => exact balanced.nothing table counters
  | refused table counters => exact balanced.refuse table counters
  | accepted slot tx vacant pending table counters =>
      exact balanced.accept vacant pending table counters
  | sent slot tx present pending table counters =>
      exact balanced.send present pending table counters
  | settled slot tx status present sent terminal table countsEnd countsRead =>
      exact balanced.settle present sent terminal table countsEnd
  | released slot tx present terminal table counters =>
      exact balanced.release present terminal table counters
  | removed condition table counters =>
      exact (balanced.remove condition).nothing table counters

/-- So does every run. -/
theorem after (balanced : Balanced scheduler released refused) (inStep : scheduler.InStep)
    (operations : List Operation) :
    Balanced (scheduler.after operations) (released + occasions releases scheduler operations)
      (refused + occasions refuses scheduler operations) := by
  induction operations generalizing scheduler released refused with
  | nil => exact balanced
  | cons operation rest ih =>
      have next := balanced.step (entered_perform inStep operation)
      have later := ih next (inStep.perform operation)
      simp only [occasions]
      rw [← Nat.add_assoc, ← Nat.add_assoc]
      exact later

end Balanced

/-! ## Replies that could not be read -/

section Reads

variable {scheduler next : Scheduler}

/-- Only settling an exchange counts a failed read. -/
theorem countsRead_of_entered {releases refuses : Bool}
    (entered : Entered scheduler next releases refuses) :
    CountsRead scheduler.counters next.counters := by
  cases entered with
  | settled slot tx status present sent terminal table countsEnd countsRead => exact countsRead
  | nothing table counters | refused table counters
  | accepted slot tx vacant pending table counters
  | sent slot tx present pending table counters
  | released slot tx present terminal table counters | removed condition table counters =>
      rw [counters]
      exact .none rfl rfl

/-- As long as the count of failed reads does not wrap around, it covers the replies
that could not be read. -/
theorem decodeFailures_le_of_countsRead {former later : Counters}
    (counts : CountsRead former later)
    (covered : former.decodeFailures ≤ former.readFailures)
    (unwrapped : former.readFailures ≤ later.readFailures) :
    later.decodeFailures ≤ later.readFailures := by
  cases counts with
  | none reads unreadable => rwa [reads, unreadable]
  | missing reads unreadable =>
      rw [unreadable]
      exact UInt32.le_trans covered unwrapped
  | garbled reads unreadable =>
      rw [reads, UInt32.le_iff_toNat_le, UInt32.toNat_add] at unwrapped
      rw [UInt32.le_iff_toNat_le] at covered
      rw [reads, unreadable, UInt32.le_iff_toNat_le, UInt32.toNat_add, UInt32.toNat_add]
      have bound := former.readFailures.toNat_lt
      have one : UInt32.toNat 1 = 1 := rfl
      omega

theorem decodeFailures_le_after (inStep : scheduler.InStep)
    (covered : scheduler.counters.decodeFailures ≤ scheduler.counters.readFailures)
    {operations : List Operation}
    (unwrapped : occasions (wraps Counters.readFailures) scheduler operations = 0) :
    (scheduler.after operations).counters.decodeFailures ≤
      (scheduler.after operations).counters.readFailures := by
  induction operations generalizing scheduler with
  | nil => exact covered
  | cons operation rest ih =>
      obtain ⟨now, later⟩ := Nat.add_eq_zero_iff.mp unwrapped
      have still : scheduler.counters.readFailures ≤
          (scheduler.perform operation).value.counters.readFailures := by
        simpa [wraps] using now
      have counts := countsRead_of_entered (entered_perform inStep operation)
      exact ih (inStep.perform operation)
        (decodeFailures_le_of_countsRead counts covered still) later

end Reads

/-! ## Runs -/

/-- After every run, up to wrap-around, what was scheduled was dispatched, was cancelled
or is pending; what was dispatched has ended or is on the wire; what has ended is in
the table or was handed out; and exactly the refusals for a busy bus are counted as
such.  As long as the failed reads have not wrapped around, they cover the replies
that could not be read. -/
theorem balanced_after (operations : List Operation) :
    Balanced (Scheduler.after {} operations) (occasions releases {} operations)
        (occasions refuses {} operations) ∧
      (occasions (wraps Counters.readFailures) {} operations = 0 →
        (Scheduler.after {} operations).counters.decodeFailures ≤
          (Scheduler.after {} operations).counters.readFailures) := by
  constructor
  · have balanced := Balanced.empty.after InStep.empty operations
    rwa [Nat.zero_add, Nat.zero_add] at balanced
  · exact decodeFailures_le_after InStep.empty (UInt32.le_refl 0)

/-- A query is refused while another one is on its way, whose reply is garbled; the handle
is released, and a third one is cancelled. -/
def garbledAndCancelled (handle : Handle) : List Operation :=
  [ .schedule query true, .schedule query true, .dispatch PromptWire.mk,
    .signal (.replyReceived [1, 2, 3]), .service, .release handle, .schedule query false,
    .cancelAll ]

/-- One of the two scheduled queries was cancelled, and one failed and was handed
out. -/
theorem balanced_garbledAndCancelled :
    let run := garbledAndCancelled ⟨0, 1⟩
    occasions (wraps Counters.readFailures) {} run = 0 ∧
      (Scheduler.after {} run).counters.scheduled = 2 ∧
      (Scheduler.after {} run).counters.cancelled = 1 ∧
      Balanced (Scheduler.after {} run) 1 1 ∧
      (Scheduler.after {} run).counters.decodeFailures ≤
        (Scheduler.after {} run).counters.readFailures := by
  intro run
  have unwrapped : occasions (wraps Counters.readFailures) {} run = 0 := by decide +kernel
  obtain ⟨balanced, covered⟩ := balanced_after run
  have released : occasions releases {} run = 1 := by decide +kernel
  have refused : occasions refuses {} run = 1 := by decide +kernel
  rw [released, refused] at balanced
  exact ⟨unwrapped, by decide +kernel, by decide +kernel, balanced, covered unwrapped⟩

end Scheduler

end MapleBus
