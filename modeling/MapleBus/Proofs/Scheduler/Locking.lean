import MapleBus.Proofs.Scheduler.Run

/-!
# The lock of the completion cell

The scheduler and the wire share one cell, and every access to it is one critical section.
An attempt to transmit uses the cell, calls the wire and uses the cell again, and the wire
may signal while it is called.  The lock keeps a history of all this: whether it was ever
taken while it was held, and how it stood whenever the wire was called.  The history of a
run shows that nobody ever found the lock held, and it is that of the course of the run,
which lists every access and every call of the wire in order.
-/

namespace MapleBus

/-! ## Locks -/

namespace Lock

/-- Nobody holds the lock, and nobody has found it held. -/
def IsFree (lock : Lock) : Prop :=
  lock.held = false ∧ lock.deadlocked = false

/-- The lock after it was taken and given back once more. -/
def used (lock : Lock) : Lock :=
  { lock with
    acquisitions := lock.acquisitions + 1
    releases := lock.releases + 1 }

theorem isFree_used {lock : Lock} (free : lock.IsFree) : lock.used.IsFree :=
  free

end Lock

/-! ## Accesses -/

namespace Completion

/-- What is done with a cell. -/
inductive Access where
  | arm (expectsReply : Bool)
  | disarm
  | harvest (buffer : FrameBuffer)
  | signal (signal : Signal)
  | askArmed

/-- The cell after an access. -/
def use (cell : Completion) : Access → Completion
  | .arm expectsReply => cell.arm expectsReply
  | .disarm => cell.disarm
  | .harvest buffer => (cell.harvest buffer).2
  | .signal signal => (cell.signal signal).2
  | .askArmed => cell.askArmed.2

/-- What happens around a cell: it is accessed, or the wire is called. -/
inductive Moment where
  | access (access : Access)
  | transmit (frame : List UInt8) (expectsReply : Bool)

/-- Whether a moment is an access. -/
def Moment.isAccess : Moment → Bool
  | .access _ => true
  | .transmit _ _ => false

/-- The cell after a moment. -/
def pass (cell : Completion) : Moment → Completion
  | .access access => cell.use access
  | .transmit _ _ => cell.callOut

/-- The cell after some moments. -/
def live (cell : Completion) (moments : List Moment) : Completion :=
  moments.foldl pass cell

variable {α : Type} {cell : Completion}

@[simp]
theorem live_nil (cell : Completion) : cell.live [] = cell :=
  rfl

@[simp]
theorem live_cons (cell : Completion) (moment : Moment) (rest : List Moment) :
    cell.live (moment :: rest) = (cell.pass moment).live rest :=
  rfl

theorem live_append (cell : Completion) (before rest : List Moment) :
    cell.live (before ++ rest) = (cell.live before).live rest :=
  List.foldl_append

/-- Signals are accesses, one after the other. -/
theorem live_signals (cell : Completion) (received : List Signal) :
    cell.live (received.map fun signal => .access (.signal signal)) =
      cell.signals received :=
  List.foldl_map

/-- A critical section takes a free lock and gives it back, whichever way it goes. -/
theorem lock_exclusively (free : cell.lock.held = false)
    (access : Registers → α × Registers) :
    (cell.exclusively access).2.lock = cell.lock.used := by
  simp only [exclusively, Lock.guarded_of_free free, Lock.used]

/-- Every access is one critical section. -/
theorem lock_use (free : cell.lock.held = false) (access : Access) :
    (cell.use access).lock = cell.lock.used := by
  cases access with
  | arm expectsReply => exact lock_exclusively free _
  | disarm => exact lock_exclusively free _
  | harvest buffer => exact lock_exclusively free _
  | signal signal => exact lock_exclusively free _
  | askArmed => exact lock_exclusively free _

/-- An access that finds the lock held would wait forever: the lock is not reentrant. -/
theorem deadlocked_use (held : cell.lock.held = true) (access : Access) :
    (cell.use access).lock.deadlocked = true := by
  have stuck : cell.lock.acquire.deadlocked = true := by rw [Lock.acquire, if_pos held]
  cases access with
  | arm expectsReply => exact stuck
  | disarm => exact stuck
  | harvest buffer => exact stuck
  | signal signal => exact stuck
  | askArmed => exact stuck

/-- That it did is never forgotten. -/
theorem deadlocked_pass (deadlocked : cell.lock.deadlocked = true) (moment : Moment) :
    (cell.pass moment).lock.deadlocked = true := by
  have kept : cell.lock.acquire.deadlocked = true := by
    unfold Lock.acquire
    split
    · rfl
    · exact deadlocked
  cases moment with
  | access access =>
      cases access with
      | arm expectsReply => exact kept
      | disarm => exact kept
      | harvest buffer => exact kept
      | signal signal => exact kept
      | askArmed => exact kept
  | transmit frame expectsReply => exact deadlocked

theorem deadlocked_live (deadlocked : cell.lock.deadlocked = true) (moments : List Moment) :
    (cell.live moments).lock.deadlocked = true := by
  induction moments generalizing cell with
  | nil => exact deadlocked
  | cons moment rest ih => exact ih (deadlocked_pass deadlocked moment)

theorem isFree_pass (free : cell.lock.IsFree) (moment : Moment) :
    (cell.pass moment).lock.IsFree := by
  cases moment with
  | access access =>
      rw [pass, lock_use free.1]
      exact Lock.isFree_used free
  | transmit frame expectsReply => exact free

theorem isFree_live (free : cell.lock.IsFree) (moments : List Moment) :
    (cell.live moments).lock.IsFree := by
  induction moments generalizing cell with
  | nil => exact free
  | cons moment rest ih => exact ih (isFree_pass free moment)

/-- The calls of the wire among some moments, if each finds the lock free, and taken once for
every access before it. -/
def calls (taken : UInt32) : List Moment → List Lock.Call
  | [] => []
  | .access _ :: rest => calls (taken + 1) rest
  | .transmit _ _ :: rest => { held := false, acquisitions := taken } :: calls taken rest

/-- Whatever happens around a cell, its lock is taken and given back once by every access, and
is free at every call of the wire. -/
theorem lock_live (free : cell.lock.IsFree) (moments : List Moment) :
    (cell.live moments).lock =
      { cell.lock with
        acquisitions :=
          cell.lock.acquisitions + UInt32.ofNat (moments.countP Moment.isAccess)
        releases := cell.lock.releases + UInt32.ofNat (moments.countP Moment.isAccess)
        calls := (calls cell.lock.acquisitions moments).reverse ++ cell.lock.calls } := by
  induction moments generalizing cell with
  | nil => simp [calls]
  | cons moment rest ih =>
      rw [live_cons, ih (isFree_pass free moment), List.countP_cons]
      cases moment with
      | access access =>
          rw [pass, lock_use free.1]
          simp [Moment.isAccess, Lock.used, calls, UInt32.ofNat_add, UInt32.add_assoc,
            UInt32.add_comm]
      | transmit frame expectsReply =>
          simp [Moment.isAccess, pass, callOut, Lock.callOut, calls, free.1]

end Completion

/-! ## Runs -/

namespace Scheduler

open Completion

/-- The moments of an attempt to transmit: the cell is armed, the wire is called and
signals, and if it refuses, the cell is disarmed. -/
def attemptMoments {W : Type} [Wire W] (wire : W) (tx : Transmission) : List Moment :=
  let attempt := offer wire tx
  .access (.arm tx.expectsReply) :: .transmit tx.packet.encode tx.expectsReply ::
    (attempt.signals.map (fun signal => .access (.signal signal)) ++
      match attempt.result with
      | .error _ => [.access .disarm]
      | .ok () => [])

/-- The moments of an operation. -/
def moments (scheduler : Scheduler) : Operation → List Moment
  | @Operation.dispatch _ _ wire =>
      match scheduler.table.find? fun tx => tx.status.isPending with
      | none => []
      | some (_, tx) => attemptMoments wire tx
  | .service => [.access (.harvest scheduler.receiveBuffer)]
  | .signal signal => [.access (.signal signal)]
  | .askArmed => [.access .askArmed]
  | .schedule _ _ | .nextEvent | .release _ | .cancel _ | .cancelByRecipient _ | .cancelAll => []

/-- The moments of a run. -/
def course (scheduler : Scheduler) : List Operation → List Moment
  | [] => []
  | operation :: rest =>
      scheduler.moments operation ++ (scheduler.perform operation).value.course rest

variable {scheduler : Scheduler} {handle : Handle} {tx : Transmission}

theorem completion_dispatch {W : Type} [Wire W] (wire : W) :
    (scheduler.dispatch wire).value.2.1.completion =
      scheduler.completion.live (scheduler.moments (.dispatch wire)) := by
  cases pending : scheduler.table.find? fun tx => tx.status.isPending with
  | none =>
      rw [dispatch_of_no_pending pending, moments, pending]
      rfl
  | some found =>
      obtain ⟨handle, tx⟩ := found
      simp only [moments, pending, attemptMoments, live_cons, live_append, live_signals]
      cases answer : (offer wire tx).result with
      | error refusal =>
          rw [dispatch_of_refusal pending answer]
          rfl
      | ok _ =>
          rw [dispatch_of_acceptance pending answer]
          rfl

theorem completion_settle (outcome : Outcome) :
    (scheduler.settle handle tx outcome).value.completion = scheduler.completion := by
  unfold settle
  generalize verdict tx.expectsReply outcome
    (scheduler.receiveBuffer.read outcome.replyLength) = ruling
  obtain ⟨status, unreadable⟩ := ruling
  cases unreadable with
  | none => rfl
  | some cause => rfl

theorem completion_service :
    scheduler.service.value.completion =
      (scheduler.completion.harvest scheduler.receiveBuffer).2 := by
  rw [service]
  rcases scheduler.completion.harvest scheduler.receiveBuffer with
    ⟨⟨_ | outcome, buffer⟩, completion⟩
  · rfl
  · cases sent : scheduler.table.find? fun tx => tx.status.isSent with
    | none => simp only [sent]; rfl
    | some found =>
        simp only [sent]
        exact completion_settle outcome

/-- An operation does with the cell what its moments say, and nothing else. -/
theorem completion_perform (operation : Operation) :
    (scheduler.perform operation).value.completion =
      scheduler.completion.live (scheduler.moments operation) := by
  cases operation with
  | schedule packet expectsReply =>
      rw [perform, Logged.value_map]
      exact completion_schedule packet expectsReply
  | dispatch wire =>
      rw [perform, Logged.value_map]
      exact completion_dispatch wire
  | service => exact completion_service
  | nextEvent =>
      rw [perform, nextEvent_eq]
      rfl
  | release handle =>
      rw [perform]
      rcases release_cases scheduler handle with ⟨_, -, -, released⟩ | ⟨-, kept⟩
      · rw [released]
        rfl
      · rw [kept]
        rfl
  | cancel handle => rfl
  | cancelByRecipient recipient => rfl
  | cancelAll => rfl
  | signal signal => rfl
  | askArmed => rfl

/-- A run does with the cell what its course says, and nothing else. -/
theorem completion_after (operations : List Operation) :
    (scheduler.after operations).completion =
      scheduler.completion.live (scheduler.course operations) := by
  induction operations generalizing scheduler with
  | nil => rfl
  | cons operation rest ih =>
      rw [after, ih, completion_perform, course, live_append]

/-- How a run uses the lock of the cell. -/
structure SharesLock (operations : List Operation) : Prop where
  /-- The lock is free after the run, and so after each of its operations, and nobody found it
  held. -/
  rests : (({} : Scheduler).after operations).completion.lock.IsFree
  /-- Whoever had found it held would have left a mark that stays. -/
  marked : ∀ (cell : Completion) access moments, cell.lock.held = true →
    ((cell.use access).live moments).lock.deadlocked = true
  /-- The lock was free whenever the wire was called. -/
  calls : ∀ call ∈ (({} : Scheduler).after operations).completion.lock.calls,
    call.held = false
  /-- The cell goes through the course of the run. -/
  follows : (({} : Scheduler).after operations).completion =
    ({} : Completion).live (({} : Scheduler).course operations)
  /-- The wire was called where the course says, between the accesses that it names. -/
  placed : (({} : Scheduler).after operations).completion.lock.calls.reverse =
    Completion.calls 0 (({} : Scheduler).course operations)
  /-- The lock was taken and given back as often as the course has accesses. -/
  counted :
    (({} : Scheduler).after operations).completion.lock.acquisitions =
        UInt32.ofNat ((({} : Scheduler).course operations).countP Moment.isAccess) ∧
      (({} : Scheduler).after operations).completion.lock.releases =
        UInt32.ofNat ((({} : Scheduler).course operations).countP Moment.isAccess)
  /-- The lock is free at every moment of the course, and of whatever is done with the cell in
  addition, as an interrupt does or a wire while it is called: whoever accesses the cell finds
  it free, takes it once and gives it back. -/
  once : ∀ moments access,
    (({} : Completion).live moments).lock.IsFree ∧
      ((({} : Completion).live moments).use access).lock =
        (({} : Completion).live moments).lock.used ∧
      ((({} : Completion).live moments).use access).lock.IsFree

theorem held_of_mem_calls {taken : UInt32} {moments : List Moment} {call : Lock.Call}
    (mem : call ∈ Completion.calls taken moments) : call.held = false := by
  induction moments generalizing taken with
  | nil => cases mem
  | cons moment rest ih =>
      cases moment with
      | access access => exact ih mem
      | transmit frame expectsReply =>
          rcases List.mem_cons.mp mem with rfl | later
          · rfl
          · exact ih later

/-- In every run, with any wires and any signals, the lock is free between any two moments, so
nobody waits for it in vain. -/
theorem sharesLock_after (operations : List Operation) : SharesLock operations := by
  have unused : ({} : Completion).lock.IsFree := ⟨rfl, rfl⟩
  have follows : (({} : Scheduler).after operations).completion =
      ({} : Completion).live (({} : Scheduler).course operations) :=
    completion_after operations
  have history := lock_live unused (({} : Scheduler).course operations)
  have placed : (({} : Scheduler).after operations).completion.lock.calls.reverse =
      Completion.calls 0 (({} : Scheduler).course operations) := by
    rw [follows, history]
    exact (congrArg List.reverse (List.append_nil _)).trans (List.reverse_reverse _)
  exact {
    rests := by
      rw [follows]
      exact isFree_live unused _
    marked := fun _ access moments held =>
      deadlocked_live (deadlocked_use held access) moments
    calls := by
      intro call mem
      rw [← List.mem_reverse, placed] at mem
      exact held_of_mem_calls mem
    follows
    placed
    counted := by
      rw [follows, history]
      exact ⟨UInt32.zero_add _, UInt32.zero_add _⟩
    once := by
      intro moments access
      have free := isFree_live unused moments
      refine ⟨free, lock_use free.1 access, ?_⟩
      rw [lock_use free.1]
      exact Lock.isFree_used free }

/-- A write that is complete while the wire is called takes the lock twice, to arm the cell and
to signal. -/
example :
    (({} : Scheduler).course [.schedule query false, .dispatch PromptWire.mk]).map
      Moment.isAccess = [true, false, true] := by
  decide +kernel

end Scheduler

end MapleBus
