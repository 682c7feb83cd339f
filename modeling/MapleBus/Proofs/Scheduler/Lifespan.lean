import MapleBus.Proofs.Scheduler.Chronicle

/-!
# The lifespan of a transmission

One equation says what each operation makes of a transmission that the
scheduler knows.  Over a run it follows that an accepted transmission waits, is
on the wire, and has ended, in this order and with nothing in between; that it
leaves by a cancellation while it waits or by its release once it has ended;
and that its flags and its reply always say what its status says and, once it
has ended, what the completion cell said when it was settled.  A handle is
watched up to the first operation after which it shows nothing, since an
identifier can come again after all others have been given.
-/

namespace MapleBus

namespace Status

/-- Whether the exchange finished without success. -/
def isFailed : Status → Bool
  | failed _ => true
  | _ => false

/-- Whether the exchange finished with success. -/
def isSucceeded : Status → Bool
  | succeeded _ => true
  | _ => false

end Status

namespace Completion.Registers

/-- The bytes of the reply that was taken. -/
def received (registers : Registers) : List UInt8 :=
  registers.reply.read registers.replyLength

/-- Whether the read failed or an expected reply cannot be read. -/
def unread (registers : Registers) (expectsReply : Bool) : Bool :=
  registers.readFailed || (expectsReply && !(Packet.decode registers.received).isOk)

end Completion.Registers

namespace Transmission

/-- Flags and reply say what the status says: of the two flags exactly one is set after a
failure and none otherwise, and there is a reply exactly after a success that expected one. -/
structure Coherent (tx : Transmission) : Prop where
  flagged : tx.status.isFailed = true → tx.writeFailed ≠ tx.readFailed
  unflagged : tx.status.isFailed = false → tx.writeFailed = false ∧ tx.readFailed = false
  replied : tx.reply?.isSome = (tx.status.isSucceeded && tx.expectsReply)

/-- Flags and reply say what the cell says: the write is blamed if the cell blames it, the
read if it was missed and the write is not to blame, and an expected reply is given as it
was received unless something failed. -/
structure Reports (tx : Transmission) (registers : Completion.Registers) : Prop where
  write : tx.writeFailed = registers.writeFailed
  read : tx.readFailed = (!registers.writeFailed && registers.unread tx.expectsReply)
  reply : tx.reply? =
    if tx.expectsReply && !tx.status.isFailed then
      (Packet.decode registers.received).toOption
    else
      none

end Transmission

namespace Scheduler

variable {scheduler next : Scheduler} {handle other : Handle} {tx otherTx : Transmission}
  {operation : Operation}

/-! ## What an operation makes of a transmission -/

/-- Whether an operation drops a transmission that it finds pending. -/
def Operation.withdraws : Operation → Transmission → Bool
  | .cancel handle, tx => tx.id == handle.id
  | .cancelByRecipient recipient, tx => tx.recipient == recipient
  | .cancelAll, _ => true
  | _, _ => false

/-- What becomes of the transmission behind a handle by one operation. -/
def fate (scheduler : Scheduler) (handle : Handle) (tx : Transmission) :
    Operation → Option Transmission
  | @Operation.dispatch _ _ wire =>
      if tx.status.isPending && (offer wire tx).result.isOk then
        some { tx with status := .sent }
      else
        some tx
  | .service =>
      if tx.status.isSent && scheduler.completion.phase == .done then
        some { tx with status := (scheduler.ruling tx).1 }
      else
        some tx
  | .release other =>
      if tx.status.isTerminal && other == handle then none else some tx
  | operation@(.cancel _) | operation@(.cancelByRecipient _) | operation@.cancelAll =>
      if tx.status.isPending && operation.withdraws tx then none else some tx
  | .schedule _ _ | .nextEvent | .signal _ | .askArmed => some tx

/-- Transmissions of different status stand in different slots. -/
theorem slot_ne_of_status_ne (found : scheduler.get? handle = some tx)
    (otherFound : scheduler.get? other = some otherTx) (differ : tx.status ≠ otherTx.status) :
    handle.slot ≠ other.slot := by
  intro slot
  have same : handle = other := handle_eq_of_slot_eq otherFound found slot
  rw [same, otherFound] at found
  exact differ (congrArg Transmission.status (Option.some.inj found).symm)

theorem get?_schedule (found : scheduler.get? handle = some tx) (packet : Packet)
    (expectsReply : Bool) :
    (scheduler.schedule packet expectsReply).value.2.get? handle = some tx := by
  cases busy : scheduler.outstanding? with
  | some _ =>
      rw [schedule_of_outstanding busy]
      exact found
  | none =>
      cases free : scheduler.table.free? with
      | none =>
          rw [schedule_of_full busy free]
          exact found
      | some slot =>
          rw [schedule_of_free busy free]
          exact get?_put_of_vacant (Table.entry_of_free?_eq_some free) rfl handle tx found

/-- What is known and pending is what a dispatch finds. -/
theorem InStep.find?_pending_of_known (inStep : scheduler.InStep)
    (found : scheduler.get? handle = some tx) (pending : tx.status = .pending) :
    scheduler.table.find? (fun tx => tx.status.isPending) = some (handle, tx) := by
  obtain ⟨present, id⟩ := Table.get?_eq_some_iff.mp found
  rw [inStep.find?_pending present pending, id]

/-- What is known and on the wire is what an outcome speaks of. -/
theorem InStep.find?_sent_of_known (inStep : scheduler.InStep)
    (found : scheduler.get? handle = some tx) (sent : tx.status = .sent) :
    scheduler.table.find? (fun tx => tx.status.isSent) = some (handle, tx) := by
  obtain ⟨present, id⟩ := Table.get?_eq_some_iff.mp found
  rw [inStep.find?_sent present sent, id]

section Dispatch

variable {W : Type} [Wire W]

/-- A dispatch leaves what is not pending. -/
theorem get?_dispatch_of_not_pending (found : scheduler.get? handle = some tx)
    (notPending : tx.status ≠ .pending) (wire : W) :
    (scheduler.dispatch wire).value.2.1.get? handle = some tx := by
  cases search : scheduler.table.find? (fun tx => tx.status.isPending) with
  | none =>
      rw [dispatch_of_no_pending search]
      exact found
  | some candidate =>
      obtain ⟨other, otherTx⟩ := candidate
      cases answer : (offer wire otherTx).result with
      | error refusal =>
          rw [dispatch_of_refusal search answer]
          exact found
      | ok _ =>
          obtain ⟨otherFound, otherPending, -⟩ := known_of_pending search
          have elsewhere : handle.slot ≠ other.slot := by
            apply slot_ne_of_status_ne found otherFound
            rw [otherPending]
            exact notPending
          rw [dispatch_of_acceptance search answer]
          exact (get?_put_of_ne rfl elsewhere).trans found

theorem get?_dispatch (inStep : scheduler.InStep) (found : scheduler.get? handle = some tx)
    (wire : W) :
    (scheduler.dispatch wire).value.2.1.get? handle =
      scheduler.fate handle tx (.dispatch wire) := by
  by_cases pending : tx.status = .pending
  · have search := inStep.find?_pending_of_known found pending
    cases answer : (offer wire tx).result with
    | error refusal =>
        have stays : scheduler.fate handle tx (.dispatch wire) = some tx := by
          simp [fate, answer, Except.isOk, Except.toBool]
        rw [dispatch_of_refusal search answer, stays]
        exact found
    | ok _ =>
        have leaves : scheduler.fate handle tx (.dispatch wire) =
            some { tx with status := .sent } := by
          simp [fate, answer, pending, Except.isOk, Except.toBool]
        rw [dispatch_of_acceptance search answer, leaves]
        exact get?_put_same rfl (Table.get?_eq_some_iff.mp found).2
  · have stays : scheduler.fate handle tx (.dispatch wire) = some tx := by
      simp [fate, pending]
    rw [stays]
    exact get?_dispatch_of_not_pending found pending wire

end Dispatch

/-- Servicing leaves what is not on the wire. -/
theorem get?_service_of_not_sent (inStep : scheduler.InStep)
    (found : scheduler.get? handle = some tx) (notSent : tx.status ≠ .sent)
    (done : scheduler.completion.phase = .done) :
    scheduler.service.value.get? handle = some tx := by
  obtain ⟨other, otherTx, search⟩ := inStep.find?_of_done done
  obtain ⟨otherFound, otherSent, -⟩ := known_of_sent search
  have elsewhere : handle.slot ≠ other.slot := by
    apply slot_ne_of_status_ne found otherFound
    rw [otherSent]
    exact notSent
  rw [service_of_outcome done search]
  exact (get?_put_of_ne rfl elsewhere).trans found

theorem get?_service (inStep : scheduler.InStep) (found : scheduler.get? handle = some tx) :
    scheduler.service.value.get? handle = scheduler.fate handle tx .service := by
  by_cases done : scheduler.completion.phase = .done
  · by_cases sent : tx.status = .sent
    · have search := inStep.find?_sent_of_known found sent
      have settled : scheduler.fate handle tx .service =
          some { tx with status := (scheduler.ruling tx).1 } := by
        simp [fate, sent, done]
      rw [service_of_outcome done search, settled]
      exact get?_put_same rfl (Table.get?_eq_some_iff.mp found).2
    · have stays : scheduler.fate handle tx .service = some tx := by
        simp [fate, sent]
      rw [stays]
      exact get?_service_of_not_sent inStep found sent done
  · have stays : scheduler.fate handle tx .service = some tx := by
      simp [fate, done]
    obtain ⟨lock, served⟩ := service_of_waiting done
    rw [served, stays]
    exact found

theorem get?_release (found : scheduler.get? handle = some tx) (other : Handle) :
    (scheduler.release other).2.get? handle = scheduler.fate handle tx (.release other) := by
  rcases release_cases scheduler other with ⟨gone, otherFound, ended, released⟩ | ⟨unended, kept⟩
  · rw [released]
    by_cases same : other = handle
    · rw [same, found] at otherFound
      rw [← Option.some.inj otherFound] at ended
      simp [fate, get?, Table.get?, same, ended]
    · have elsewhere : handle.slot ≠ other.slot :=
        fun slot => same (handle_eq_of_slot_eq found otherFound slot.symm)
      have stays : scheduler.fate handle tx (.release other) = some tx := by
        simp [fate, same]
      rw [stays, ← found, get?, get?, Table.get?, Table.get?, Table.entry_vacate_of_ne elsewhere]
  · rw [kept, found]
    by_cases same : other = handle
    · rw [same] at unended
      simp [fate, unended tx found]
    · simp [fate, same]

/-- A cancellation removes what is pending and meant. -/
theorem get?_removePending (found : scheduler.get? handle = some tx)
    (condition : Transmission → Bool) :
    (scheduler.removePending condition).2.get? handle =
      if tx.status.isPending && condition tx then none else some tx := by
  obtain ⟨present, id⟩ := Table.get?_eq_some_iff.mp found
  rw [get?, Table.get?, entry_removePending, present, Option.filter_some]
  cases tx.status.isPending && condition tx with
  | true => rfl
  | false => simp [id]

/-- Every operation makes of a known transmission what is laid down. -/
theorem get?_perform (inStep : scheduler.InStep) (found : scheduler.get? handle = some tx)
    (operation : Operation) :
    (scheduler.perform operation).value.get? handle = scheduler.fate handle tx operation := by
  cases operation with
  | dispatch wire => exact get?_dispatch inStep found wire
  | service => exact get?_service inStep found
  | release other => exact get?_release found other
  | cancel _ | cancelByRecipient _ | cancelAll => exact get?_removePending found _
  | schedule packet expectsReply => exact get?_schedule found packet expectsReply
  | nextEvent =>
      rw [perform, nextEvent_eq]
      exact found
  | signal _ | askArmed => exact found

/-! ## What the flags and the reply show -/

/-- The ways the cell can rule, by whether a reply is expected. -/
inductive Ruled (registers : Completion.Registers) : Bool → Status → Prop
  | badWrite {expectsReply : Bool} (write : registers.writeFailed = true) :
      Ruled registers expectsReply (.failed .write)
  | badRead {expectsReply : Bool} (write : registers.writeFailed = false)
      (read : registers.unread expectsReply = true) :
      Ruled registers expectsReply (.failed .read)
  | written (write : registers.writeFailed = false) (read : registers.unread false = false) :
      Ruled registers false (.succeeded none)
  | answered {reply : Packet} (write : registers.writeFailed = false)
      (read : registers.unread true = false)
      (decoded : Packet.decode registers.received = .ok reply) :
      Ruled registers true (.succeeded (some reply))

theorem ruled_verdict (registers : Completion.Registers) (expectsReply : Bool) :
    Ruled registers expectsReply
      (verdict expectsReply registers.outcome registers.received).1 := by
  cases write : registers.writeFailed with
  | true =>
      simp only [verdict, Completion.Registers.outcome, write, if_true]
      exact .badWrite write
  | false =>
      cases readFailed : registers.readFailed with
      | true =>
          simp only [verdict, Completion.Registers.outcome, write, readFailed, if_true,
            Bool.false_eq_true, if_false]
          apply Ruled.badRead write
          rw [Completion.Registers.unread, readFailed, Bool.true_or]
      | false =>
          simp only [verdict, Completion.Registers.outcome, write, readFailed,
            Bool.false_eq_true, if_false]
          cases expectsReply with
          | false =>
              apply Ruled.written write
              rw [Completion.Registers.unread, readFailed]
              rfl
          | true =>
              cases decoded : Packet.decode registers.received with
              | error cause =>
                  apply Ruled.badRead write
                  rw [Completion.Registers.unread, readFailed, decoded]
                  rfl
              | ok reply =>
                  refine Ruled.answered write ?_ decoded
                  rw [Completion.Registers.unread, readFailed, decoded]
                  rfl

section Ruled

variable {registers : Completion.Registers} {status : Status}

/-- What the cell rules is what the transmission says from then on. -/
theorem Ruled.reports (ruled : Ruled registers tx.expectsReply status) :
    Transmission.Reports { tx with status } registers := by
  obtain ⟨id, packet, expectsReply, before⟩ := tx
  cases ruled with
  | badWrite write =>
      constructor
      · exact write.symm
      · rw [write]
        rfl
      · cases expectsReply <;> rfl
  | badRead write read =>
      constructor
      · exact write.symm
      · rw [write, read]
        rfl
      · cases expectsReply <;> rfl
  | written write read =>
      constructor
      · exact write.symm
      · rw [write, read]
        rfl
      · rfl
  | answered write read decoded =>
      constructor
      · exact write.symm
      · rw [write, read]
        rfl
      · rw [decoded]
        rfl

/-- Whatever the cell holds, what it rules is coherent. -/
theorem Ruled.coherent (ruled : Ruled registers tx.expectsReply status) :
    Transmission.Coherent { tx with status } := by
  obtain ⟨id, packet, expectsReply, before⟩ := tx
  cases ruled with
  | badWrite _ => exact ⟨fun _ => Bool.false_ne_true.symm, nofun, rfl⟩
  | badRead _ _ => exact ⟨fun _ => Bool.false_ne_true, nofun, rfl⟩
  | written _ _ | answered _ _ _ => exact ⟨nofun, fun _ => ⟨rfl, rfl⟩, rfl⟩

end Ruled

/-- The scheduler settles a transmission as the cell rules. -/
theorem ruled_ruling (scheduler : Scheduler) (tx : Transmission) :
    Ruled scheduler.completion.registers tx.expectsReply (scheduler.ruling tx).1 :=
  ruled_verdict _ _

/-- What has not ended shows neither flags nor a reply. -/
theorem coherent_of_outstanding (outstanding : tx.status.isOutstanding = true) :
    tx.Coherent := by
  obtain ⟨id, packet, expectsReply, status⟩ := tx
  rcases Status.isOutstanding_iff.mp outstanding with pending | sent
  · cases pending
    exact ⟨nofun, fun _ => ⟨rfl, rfl⟩, rfl⟩
  · cases sent
    exact ⟨nofun, fun _ => ⟨rfl, rfl⟩, rfl⟩

/-! ## One operation -/

/-- How a transmission leaves a scheduler: an operation drops it while it is pending, or it
has ended and is handed out as it was. -/
inductive Leaves (scheduler : Scheduler) (handle : Handle) (tx : Transmission) :
    Operation → Prop
  | cancelled {operation : Operation} (pending : tx.status = .pending)
      (meant : operation.withdraws tx = true) : Leaves scheduler handle tx operation
  | released (ended : tx.status.isTerminal = true)
      (handedOut : (scheduler.release handle).1 = some tx) :
      Leaves scheduler handle tx (.release handle)

/-- The ways an operation can go for a transmission. -/
inductive Turn (scheduler : Scheduler) (handle : Handle) (tx : Transmission) :
    Operation → Option Transmission → Prop
  /-- It stays as it is. -/
  | stays {operation : Operation} : Turn scheduler handle tx operation (some tx)
  /-- It goes on the wire. -/
  | goes {W : Type} [Wire W] {wire : W} (pending : tx.status = .pending) :
      Turn scheduler handle tx (.dispatch wire) (some { tx with status := .sent })
  /-- It ends as the cell says. -/
  | ends (sent : tx.status = .sent) (done : scheduler.completion.phase = .done) :
      Turn scheduler handle tx .service (some { tx with status := (scheduler.ruling tx).1 })
  /-- It leaves. -/
  | gone {operation : Operation} (leaves : scheduler.Leaves handle tx operation) :
      Turn scheduler handle tx operation none

theorem turn_fate (found : scheduler.get? handle = some tx) (operation : Operation) :
    scheduler.Turn handle tx operation (scheduler.fate handle tx operation) := by
  cases operation with
  | schedule _ _ | nextEvent | signal _ | askArmed => exact .stays
  | dispatch wire =>
      rw [fate]
      split
      next going =>
        rw [Bool.and_eq_true, Status.isPending_iff] at going
        exact .goes going.1
      next => exact .stays
  | service =>
      rw [fate]
      split
      next ending =>
        rw [Bool.and_eq_true, Status.isSent_iff, beq_iff_eq] at ending
        exact .ends ending.1 ending.2
      next => exact .stays
  | release other =>
      rw [fate]
      split
      next released =>
        rw [Bool.and_eq_true, beq_iff_eq] at released
        obtain ⟨ended, rfl⟩ := released
        have handedOut := congrArg Prod.fst (release_of_terminal found ended)
        exact .gone (.released ended handedOut)
      next => exact .stays
  | cancel _ | cancelByRecipient _ | cancelAll =>
      rw [fate]
      split
      next doomed =>
        rw [Bool.and_eq_true, Status.isPending_iff] at doomed
        exact .gone (.cancelled doomed.1 doomed.2)
      next => exact .stays

/-- Every operation goes one of the ways for a transmission that is known. -/
theorem turn_perform (inStep : scheduler.InStep) (found : scheduler.get? handle = some tx)
    (operation : Operation) :
    scheduler.Turn handle tx operation ((scheduler.perform operation).value.get? handle) := by
  rw [get?_perform inStep found]
  exact turn_fate found operation

/-- A coherent transmission that does not leave is coherent afterwards. -/
theorem Turn.coherent (turn : scheduler.Turn handle tx operation (some otherTx))
    (coherent : tx.Coherent) : otherTx.Coherent := by
  cases turn with
  | stays => exact coherent
  | goes pending => exact coherent_of_outstanding rfl
  | ends sent done => exact (ruled_ruling scheduler tx).coherent

/-! ## Runs -/

/-- What a handle shows before a run and after each of its operations, up to the first
operation after which it shows nothing. -/
def sightings (scheduler : Scheduler) (handle : Handle) : List Operation → List Transmission
  | [] => (scheduler.get? handle).toList
  | operation :: rest =>
      match scheduler.get? handle with
      | none => []
      | some tx => tx :: (scheduler.perform operation).value.sightings handle rest

/-- The first operation of a run after which a handle shows nothing, with the scheduler that
it was performed on. -/
def departure? (scheduler : Scheduler) (handle : Handle) :
    List Operation → Option (Scheduler × Operation)
  | [] => none
  | operation :: rest =>
      match (scheduler.perform operation).value.get? handle with
      | none => some (scheduler, operation)
      | some _ => (scheduler.perform operation).value.departure? handle rest

theorem sightings_of_gone (gone : scheduler.get? handle = none) (run : List Operation) :
    scheduler.sightings handle run = [] := by
  cases run with
  | nil => rw [sightings, gone, Option.toList_none]
  | cons operation rest => rw [sightings, gone]

theorem sightings_nil (found : scheduler.get? handle = some tx) :
    scheduler.sightings handle [] = [tx] := by
  rw [sightings, found, Option.toList_some]

theorem sightings_cons (found : scheduler.get? handle = some tx) (operation : Operation)
    (rest : List Operation) :
    scheduler.sightings handle (operation :: rest) =
      tx :: (scheduler.perform operation).value.sightings handle rest := by
  rw [sightings, found]

/-- A run without a departure is watched to its end. -/
theorem length_sightings (found : scheduler.get? handle = some tx) {run : List Operation}
    (remains : scheduler.departure? handle run = none) :
    (scheduler.sightings handle run).length = run.length + 1 := by
  induction run generalizing scheduler tx with
  | nil =>
      rw [sightings_nil found]
      rfl
  | cons operation rest ih =>
      rw [departure?] at remains
      cases onward : (scheduler.perform operation).value.get? handle with
      | none =>
          rw [onward] at remains
          contradiction
      | some seen =>
          rw [onward] at remains
          rw [sightings_cons found, List.length_cons, ih onward remains, List.length_cons]

/-- What is seen last is what the departing operation removes. -/
theorem getLast?_sightings (inStep : scheduler.InStep)
    (found : scheduler.get? handle = some tx) {run : List Operation}
    (departs : scheduler.departure? handle run = some (next, operation)) :
    ∃ last, (scheduler.sightings handle run).getLast? = some last ∧
      next.Leaves handle last operation := by
  induction run generalizing scheduler tx with
  | nil => contradiction
  | cons first rest ih =>
      have turn := turn_perform inStep found first
      rw [departure?] at departs
      rw [sightings_cons found]
      cases onward : (scheduler.perform first).value.get? handle with
      | none =>
          rw [onward] at departs turn
          obtain ⟨rfl, rfl⟩ := Prod.mk.inj (Option.some.inj departs)
          rw [sightings_of_gone onward]
          cases turn with
          | gone leaves => exact ⟨tx, rfl, leaves⟩
      | some seen =>
          rw [onward] at departs
          obtain ⟨last, isLast, leaves⟩ := ih (inStep.perform first) onward departs
          refine ⟨last, ?_, leaves⟩
          rw [List.getLast?_cons, isLast, Option.getD_some]

/-- All that is seen of a coherent transmission is coherent. -/
theorem coherent_sightings (inStep : scheduler.InStep)
    (found : scheduler.get? handle = some tx) (coherent : tx.Coherent)
    (run : List Operation) : ∀ seen ∈ scheduler.sightings handle run, seen.Coherent := by
  induction run generalizing scheduler tx with
  | nil =>
      intro seen mem
      rw [sightings_nil found, List.mem_singleton] at mem
      rw [mem]
      exact coherent
  | cons operation rest ih =>
      have turn := turn_perform inStep found operation
      intro seen mem
      rw [sightings_cons found, List.mem_cons] at mem
      rcases mem with rfl | mem
      · exact coherent
      · cases onward : (scheduler.perform operation).value.get? handle with
        | none =>
            rw [sightings_of_gone onward] at mem
            contradiction
        | some now =>
            rw [onward] at turn
            exact ih (inStep.perform operation) onward (turn.coherent coherent) seen mem

/-- What has ended is seen unchanged. -/
theorem sightings_of_ended (inStep : scheduler.InStep)
    (found : scheduler.get? handle = some tx) (ended : tx.status.isTerminal = true)
    (run : List Operation) :
    ∃ kept, scheduler.sightings handle run = List.replicate (kept + 1) tx := by
  induction run generalizing scheduler with
  | nil => exact ⟨0, sightings_nil found⟩
  | cons operation rest ih =>
      have turn := turn_perform inStep found operation
      rw [sightings_cons found]
      generalize onward : (scheduler.perform operation).value.get? handle = result at turn
      cases turn with
      | stays =>
          obtain ⟨kept, seen⟩ := ih (inStep.perform operation) onward
          rw [seen]
          exact ⟨kept + 1, rfl⟩
      | goes pending =>
          rw [pending] at ended
          contradiction
      | ends sent done =>
          rw [sent] at ended
          contradiction
      | gone leaves =>
          rw [sightings_of_gone onward]
          exact ⟨0, rfl⟩

/-- What is seen as ended was settled by the run, as the cell said then. -/
theorem exists_settling (inStep : scheduler.InStep)
    (found : scheduler.get? handle = some tx) (unended : tx.status.isTerminal = false)
    (run : List Operation) :
    ∀ seen ∈ scheduler.sightings handle run, seen.status.isTerminal = true →
      ∃ earlier, earlier ++ [.service] <+: run ∧
        (scheduler.after earlier).completion.phase = .done ∧
        seen.Reports (scheduler.after earlier).completion.registers := by
  intro seen mem ended
  induction run generalizing scheduler tx with
  | nil =>
      rw [sightings_nil found, List.mem_singleton] at mem
      rw [mem, unended] at ended
      contradiction
  | cons operation rest ih =>
      have later : seen ∈ (scheduler.perform operation).value.sightings handle rest := by
        rw [sightings_cons found, List.mem_cons] at mem
        apply mem.resolve_left
        rintro rfl
        rw [unended] at ended
        contradiction
      have turn := turn_perform inStep found operation
      generalize onward : (scheduler.perform operation).value.get? handle = result at turn
      cases turn with
      | stays =>
          obtain ⟨earlier, initial, settling⟩ :=
            ih (inStep.perform operation) onward unended later
          exact ⟨operation :: earlier, List.cons_prefix_cons.mpr ⟨rfl, initial⟩, settling⟩
      | goes =>
          obtain ⟨earlier, initial, settling⟩ := ih (inStep.perform _) onward rfl later
          exact ⟨_ :: earlier, List.cons_prefix_cons.mpr ⟨rfl, initial⟩, settling⟩
      | ends sent done =>
          have terminal : (scheduler.ruling tx).1.isTerminal = true :=
            InStep.isTerminal_verdict _ _ _
          obtain ⟨kept, same⟩ :=
            sightings_of_ended (inStep.perform .service) onward terminal rest
          rw [same] at later
          rw [List.eq_of_mem_replicate later]
          exact ⟨[], List.prefix_append _ _, done, (ruled_ruling scheduler tx).reports⟩
      | gone leaves =>
          rw [sightings_of_gone onward] at later
          contradiction

/-- What is on the wire is seen there, and then as it ended. -/
theorem sightings_of_sent (inStep : scheduler.InStep)
    (found : scheduler.get? handle = some tx) (sent : tx.status = .sent)
    (run : List Operation) :
    ∃ flying kept ending, Status.isTerminal ending = true ∧
      scheduler.sightings handle run =
        List.replicate (flying + 1) tx ++
          List.replicate kept { tx with status := ending } := by
  induction run generalizing scheduler with
  | nil => exact ⟨0, 0, .succeeded none, rfl, sightings_nil found⟩
  | cons operation rest ih =>
      have turn := turn_perform inStep found operation
      rw [sightings_cons found]
      generalize onward : (scheduler.perform operation).value.get? handle = result at turn
      cases turn with
      | stays =>
          obtain ⟨flying, kept, ending, terminal, seen⟩ := ih (inStep.perform operation) onward
          rw [seen]
          exact ⟨flying + 1, kept, ending, terminal, rfl⟩
      | goes pending =>
          rw [sent] at pending
          contradiction
      | ends =>
          have terminal : (scheduler.ruling tx).1.isTerminal = true :=
            InStep.isTerminal_verdict _ _ _
          obtain ⟨kept, seen⟩ :=
            sightings_of_ended (inStep.perform .service) onward terminal rest
          rw [seen]
          exact ⟨0, kept + 1, (scheduler.ruling tx).1, terminal, rfl⟩
      | gone =>
          -- Nothing leaves from the wire, but what is seen is the same if it did.
          rw [sightings_of_gone onward]
          exact ⟨0, 0, .succeeded none, rfl, rfl⟩

/-- What is pending is seen pending, then on the wire, and then as it ended. -/
theorem sightings_of_pending (inStep : scheduler.InStep)
    (found : scheduler.get? handle = some tx) (pending : tx.status = .pending)
    (run : List Operation) :
    ∃ waiting flying kept ending, Status.isTerminal ending = true ∧
      (0 < kept → 0 < flying) ∧
      scheduler.sightings handle run =
        List.replicate (waiting + 1) tx ++
          List.replicate flying { tx with status := .sent } ++
          List.replicate kept { tx with status := ending } := by
  induction run generalizing scheduler with
  | nil => exact ⟨0, 0, 0, .succeeded none, rfl, id, sightings_nil found⟩
  | cons operation rest ih =>
      have turn := turn_perform inStep found operation
      rw [sightings_cons found]
      generalize onward : (scheduler.perform operation).value.get? handle = result at turn
      cases turn with
      | stays =>
          obtain ⟨waiting, flying, kept, ending, terminal, order, seen⟩ :=
            ih (inStep.perform operation) onward
          rw [seen]
          exact ⟨waiting + 1, flying, kept, ending, terminal, order, rfl⟩
      | goes =>
          obtain ⟨flying, kept, ending, terminal, seen⟩ :=
            sightings_of_sent (inStep.perform _) onward rfl rest
          rw [seen]
          exact ⟨0, flying + 1, kept, ending, terminal, fun _ => Nat.succ_pos flying, rfl⟩
      | ends sent done =>
          rw [pending] at sent
          contradiction
      | gone =>
          rw [sightings_of_gone onward]
          exact ⟨0, 0, 0, .succeeded none, rfl, id, rfl⟩

/-- The life of a transmission that stands pending behind a handle at the start of a run. -/
structure Lifespan (scheduler : Scheduler) (handle : Handle) (start : Transmission)
    (run : List Operation) : Prop where
  /-- It waits, is on the wire, and has ended, in this order; nothing else of it changes,
  and none of these is passed over. -/
  passes : ∃ waiting flying kept ending, 0 < waiting ∧ (0 < kept → 0 < flying) ∧
    Status.isTerminal ending = true ∧
    scheduler.sightings handle run =
      List.replicate waiting { start with status := .pending } ++
        List.replicate flying { start with status := .sent } ++
        List.replicate kept { start with status := ending }
  /-- Its flags and its reply always say what its status says. -/
  coherent : ∀ seen ∈ scheduler.sightings handle run, seen.Coherent
  /-- Once it has ended, they say what the cell said at the servicing that settled it. -/
  settled : ∀ seen ∈ scheduler.sightings handle run, seen.status.isTerminal = true →
    ∃ earlier, earlier ++ [.service] <+: run ∧
      (scheduler.after earlier).completion.phase = .done ∧
      seen.Reports (scheduler.after earlier).completion.registers
  /-- It leaves by a cancellation while it is pending, or by its release once it has ended,
  which hands it out as it was seen last. -/
  leaves : ∀ last operation, scheduler.departure? handle run = some (last, operation) →
    ∃ seen, (scheduler.sightings handle run).getLast? = some seen ∧
      last.Leaves handle seen operation
  /-- Unless it leaves, it is seen after every operation. -/
  remains : scheduler.departure? handle run = none →
    (scheduler.sightings handle run).length = run.length + 1

theorem lifespan_of_pending (inStep : scheduler.InStep)
    (found : scheduler.get? handle = some tx) (pending : tx.status = .pending)
    (run : List Operation) : scheduler.Lifespan handle tx run where
  passes := by
    obtain ⟨waiting, flying, kept, ending, terminal, order, seen⟩ :=
      sightings_of_pending inStep found pending run
    have same : { tx with status := .pending } = tx := by
      rw [← pending]
    rw [seen]
    refine ⟨waiting + 1, flying, kept, ending, Nat.succ_pos waiting, order, terminal, ?_⟩
    rw [same]
  coherent := by
    have coherent := coherent_of_outstanding (Status.isOutstanding_iff.mpr (Or.inl pending))
    exact coherent_sightings inStep found coherent run
  settled := exists_settling inStep found (by rw [pending]; rfl) run
  leaves := fun _ _ departs => getLast?_sightings inStep found departs
  remains := length_sightings found

/-- What is accepted is known from then on, and pending. -/
theorem get?_of_accepted {packet : Packet} {expectsReply : Bool}
    (accepted : (scheduler.schedule packet expectsReply).value.1 = .ok handle) :
    (scheduler.schedule packet expectsReply).value.2.get? handle =
      some { id := handle.id, packet, expectsReply, status := .pending } := by
  cases busy : scheduler.outstanding? with
  | some _ =>
      rw [schedule_of_outstanding busy] at accepted
      contradiction
  | none =>
      cases free : scheduler.table.free? with
      | none =>
          rw [schedule_of_full busy free] at accepted
          contradiction
      | some slot =>
          rw [schedule_of_free busy free] at accepted ⊢
          cases accepted
          exact get?_put_same rfl rfl

/-- Whatever happened on the bus before, and whatever happens on it from then on, an
accepted transmission lives its life in order. -/
theorem lifespan_of_accepted (before : List Operation) (packet : Packet)
    (expectsReply : Bool) (handle : Handle)
    (accepted : ((Scheduler.after {} before).schedule packet expectsReply).value.1 =
      .ok handle) (later : List Operation) :
    ((Scheduler.after {} before).schedule packet expectsReply).value.2.Lifespan handle
      { id := handle.id, packet, expectsReply } later :=
  lifespan_of_pending ((InStep.after before).schedule packet expectsReply)
    (get?_of_accepted accepted) rfl later

/-- A query that was sent without waiting for a reply and is still kept. -/
def sentAndKept : List Operation :=
  [.schedule query false, .dispatch PromptWire.mk, .service]

/-- While a query is on the wire another is refused and a cancellation does nothing; it gets
its reply, which no later signal or cancellation takes away, and is released. -/
def answeredAndReleased (handle : Handle) : List Operation :=
  [ .dispatch PromptWire.mk, .schedule query false, .cancelAll,
    .signal (.replyReceived query.encode), .service, .signal .readFailed, .service,
    .cancel handle, .release handle, .schedule query true ]

/-- The second query is seen from its acceptance to its release. -/
theorem lifespan_of_answered :
    let accepted := ((Scheduler.after {} sentAndKept).schedule query true).value.2
    let run := answeredAndReleased ⟨1, 2⟩
    accepted.Lifespan ⟨1, 2⟩ { id := 2, packet := query, expectsReply := true } run ∧
      (accepted.sightings ⟨1, 2⟩ run).map Transmission.status =
        .pending :: List.replicate 4 .sent ++
          List.replicate 4 (.succeeded (some query)) := by
  intro accepted run
  constructor
  · exact lifespan_of_accepted sentAndKept query true ⟨1, 2⟩ (by decide +kernel) run
  · decide +kernel

end Scheduler

end MapleBus
