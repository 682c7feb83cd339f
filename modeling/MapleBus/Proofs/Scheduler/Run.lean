import MapleBus.Proofs.Scheduler.Operation

/-!
# Runs of a scheduler

A run is a list of operations in any order: requests to the scheduler,
attempts to transmit on any wire, and signals of the wire between them.  The
signals a wire raises during an attempt belong to the attempt.
-/

namespace MapleBus.Scheduler

/-- Anything that can happen to a scheduler and its completion cell. -/
inductive Operation : Type 1 where
  | schedule (packet : Packet) (expectsReply : Bool)
  | dispatch {W : Type} [Wire W] (wire : W)
  | service
  | nextEvent
  | release (handle : Handle)
  | cancel (handle : Handle)
  | cancelByRecipient (recipient : Address)
  | cancelAll
  | signal (signal : Signal)
  | askArmed

/-- The scheduler after an operation. -/
def perform (scheduler : Scheduler) : Operation → Logged Scheduler
  | .schedule packet expectsReply =>
      Prod.snd <$> scheduler.schedule packet expectsReply
  | @Operation.dispatch _ _ wire => (fun result => result.2.1) <$> scheduler.dispatch wire
  | .service => scheduler.service
  | .nextEvent => return scheduler.nextEvent.2
  | .release handle => return (scheduler.release handle).2
  | .cancel handle => return (scheduler.cancel handle).2
  | .cancelByRecipient recipient => return (scheduler.cancelByRecipient recipient).2
  | .cancelAll => Prod.snd <$> scheduler.cancelAll
  | .signal signal => return (scheduler.signal signal).2
  | .askArmed =>
      return { scheduler with completion := scheduler.completion.askArmed.2 }

/-- The scheduler after a run. -/
def after (scheduler : Scheduler) : List Operation → Scheduler
  | [] => scheduler
  | operation :: rest => (scheduler.perform operation).value.after rest

@[simp]
theorem after_nil (scheduler : Scheduler) : scheduler.after [] = scheduler :=
  rfl

/-- What every operation preserves holds after every run. -/
theorem after_induction {motive : Scheduler → Prop} {scheduler : Scheduler}
    (start : motive scheduler)
    (step : ∀ {scheduler}, motive scheduler →
      ∀ operation, motive (scheduler.perform operation).value)
    (operations : List Operation) : motive (scheduler.after operations) := by
  induction operations generalizing scheduler with
  | nil => exact start
  | cons operation rest ih => exact ih (step start operation)

/-- A wire that completes every write while it is started. -/
structure PromptWire where

instance : Wire PromptWire where
  transmit wire _ _ := { wire, signals := [.writeComplete], result := .ok () }

/-- A query that a main peripheral can answer. -/
def query : Packet where
  command := .deviceInfoRequest
  recipient := ⟨0x20⟩
  sender := ⟨0x00⟩

end MapleBus.Scheduler
