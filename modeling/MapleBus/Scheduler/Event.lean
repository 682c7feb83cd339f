import MapleBus.Log
import MapleBus.Scheduler.Table

/-!
# Lifecycle events

What happens to a transmission is queued until it can be told to its owner.
The queue is bounded: when it is full, the oldest event makes room for a new
one.
-/

namespace MapleBus

/-- What happened to a transmission. -/
inductive Event.Kind where
  /-- It was handed to the wire. -/
  | started
  /-- It ended without success. -/
  | failed
  /-- It ended with success. -/
  | completed
  deriving DecidableEq, Repr

namespace Event.Kind

def name : Event.Kind → String
  | started => "Started"
  | failed => "Failed"
  | completed => "Completed"

/-- Whether nothing more will happen. -/
def isTerminal : Event.Kind → Bool
  | started => false
  | failed | completed => true

end Event.Kind

/-- A happening in the life of one transmission. -/
structure Event where
  handle : Handle
  /-- The recipient of the transmission, by which its owner is found. -/
  recipient : Address
  kind : Event.Kind
  deriving DecidableEq, Repr

namespace Event

/-- How many events wait at most. -/
def queueCapacity : Nat := 8

/-- Append an event, at the cost of the oldest one when the queue is full. -/
def enqueue (queue : List Event) (event : Event) : Logged (List Event) := do
  if queue.length < queueCapacity then
    return queue ++ [event]
  else
    Logged.note .warn "event queue full, dropping oldest event"
    return queue.tail ++ [event]

/-- Turn the queue over: each of the first `count` events goes to the back if
it is still wanted, and is dropped otherwise. -/
def turn (isWanted : Event → Bool) : Nat → List Event → Logged (List Event)
  | 0, queue => return queue
  | _ + 1, [] => return []
  | count + 1, event :: rest => do
      if isWanted event then
        if rest.length < queueCapacity then
          turn isWanted count (rest ++ [event])
        else
          Logged.note .warn "event queue full while retaining events"
            [("id", toString event.handle.id.toNat)]
          turn isWanted count rest
      else
        turn isWanted count rest

/-- While there is room, an event is appended. -/
theorem enqueue_of_room {queue : List Event} (room : queue.length < queueCapacity)
    (event : Event) : enqueue queue event = pure (queue ++ [event]) := by
  rw [enqueue, if_pos room]

/-- The only note of appending is that the oldest event had to go. -/
theorem message_of_mem_enqueue {queue : List Event} {event : Event} {entry : Log.Entry}
    (noted : entry ∈ (enqueue queue event).entries) :
    entry.message = "event queue full, dropping oldest event" := by
  unfold enqueue at noted
  split at noted
  · simp at noted
  · simp only [Logged.entries_bind, Logged.entries_note, Logged.entries_pure,
      List.append_nil, List.mem_singleton] at noted
    rw [noted]

/-- A queue within its capacity is turned over without a note: the wanted
events remain, in their order. -/
theorem turn_append (isWanted : Event → Bool) (kept waiting : List Event)
    (fits : (waiting ++ kept).length ≤ queueCapacity) :
    turn isWanted waiting.length (waiting ++ kept) =
      pure (kept ++ waiting.filter isWanted) := by
  induction waiting generalizing kept with
  | nil => simp [turn]
  | cons event rest ih =>
      rw [List.cons_append, List.length_cons] at fits
      rw [List.cons_append, List.length_cons, turn]
      cases wanted : isWanted event with
      | true =>
          have room : (rest ++ kept).length < queueCapacity := fits
          have moved := ih (kept ++ [event]) (by simpa [Nat.add_assoc] using fits)
          rw [← List.append_assoc] at moved
          simp only [if_true]
          rw [if_pos room, moved, List.filter_cons_of_pos wanted, List.append_assoc]
          rfl
      | false =>
          have dropped := ih kept (by omega)
          have unwanted : ¬ isWanted event = true := by simp [wanted]
          simp only [Bool.false_eq_true, if_false, dropped, List.filter_cons_of_neg unwanted]

/-- Turning a whole queue over keeps the wanted events in their order. -/
theorem turn_length (isWanted : Event → Bool) {queue : List Event}
    (fits : queue.length ≤ queueCapacity) :
    turn isWanted queue.length queue = pure (queue.filter isWanted) := by
  have turned := turn_append isWanted [] queue (by simpa using fits)
  simpa using turned

end Event

end MapleBus
