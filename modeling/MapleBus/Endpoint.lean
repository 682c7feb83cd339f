import MapleBus.Scheduler

/-!
# What a peripheral asks of its bus

During a cycle a peripheral talks to the scheduler of its bus: it submits
packets, follows and cancels its transmissions, and leaves notes.  A cycle is
written as a program of such requests, each with a continuation for the
answer, and is run against a scheduler, which signals from the wire may reach
between the requests.  Quantifying over programs is quantifying over everything
a peripheral can do in a cycle; every submission is a fresh transmission.
-/

namespace MapleBus

/-- A program of requests to the scheduler that ends with a result. -/
inductive Endpoint (α : Type) : Type where
  | done (result : α)
  /-- Submit a packet. -/
  | schedule (packet : Packet) (expectsReply : Bool)
      (next : Except BusError Handle → Endpoint α)
  /-- Ask how far a transmission has come. -/
  | status (handle : Handle) (next : Option Status → Endpoint α)
  /-- Drop a transmission that is still pending. -/
  | cancel (handle : Handle) (next : Bool → Endpoint α)
  /-- Drop all pending transmissions for a recipient. -/
  | cancelByRecipient (recipient : Address) (next : Nat → Endpoint α)
  /-- Count the outstanding transmissions for a recipient. -/
  | countRecipients (recipient : Address) (next : Nat → Endpoint α)
  /-- Ask whether nothing occupies the bus. -/
  | isIdle (next : Bool → Endpoint α)
  /-- Leave a note. -/
  | note (entry : Log.Entry) (next : Endpoint α)

/-- A scheduler, and the signals that are still to come while it is at work. -/
structure Traffic where
  scheduler : Scheduler
  /-- What arrives at a time, in order. -/
  arrivals : List (List Signal) := []

/-- The next batch of signals arrives. -/
def Traffic.listen (traffic : Traffic) : Traffic where
  scheduler := traffic.scheduler.hear (traffic.arrivals.headD [])
  arrivals := traffic.arrivals.tail

namespace Endpoint

variable {α β : Type}

/-- Continue a program with another that depends on its result. -/
def andThen (program : Endpoint α) (rest : α → Endpoint β) : Endpoint β :=
  match program with
  | done result => rest result
  | schedule packet expectsReply next =>
      schedule packet expectsReply fun answer => (next answer).andThen rest
  | status handle next => status handle fun answer => (next answer).andThen rest
  | cancel handle next => cancel handle fun answer => (next answer).andThen rest
  | cancelByRecipient recipient next =>
      cancelByRecipient recipient fun answer => (next answer).andThen rest
  | countRecipients recipient next =>
      countRecipients recipient fun answer => (next answer).andThen rest
  | isIdle next => isIdle fun answer => (next answer).andThen rest
  | note entry next => note entry (next.andThen rest)

instance : Monad Endpoint where
  pure := done
  bind := andThen

/-- Submit a packet and return the handle or the refusal. -/
def submit (packet : Packet) (expectsReply : Bool) :
    Endpoint (Except BusError Handle) :=
  schedule packet expectsReply done

/-- Whether the transmission behind a handle still occupies the bus. -/
def isOutstanding (handle : Handle) : Endpoint Bool :=
  status handle fun found => done (found.any Status.isOutstanding)

/-- Leave a trace note. -/
def trace (message : String) (fields : List (String × String)) : Endpoint Unit :=
  note { level := .trace, message, fields } (done ())

/-- Run a program.  A batch of signals arrives before each request. -/
def perform (program : Endpoint α) (traffic : Traffic) : Logged (α × Traffic) :=
  match program with
  | done result => pure (result, traffic)
  | schedule packet expectsReply next => do
      let traffic := traffic.listen
      let (answer, scheduler) ← traffic.scheduler.schedule packet expectsReply
      (next answer).perform { traffic with scheduler }
  | status handle next =>
      let traffic := traffic.listen
      (next (traffic.scheduler.status? handle)).perform traffic
  | cancel handle next =>
      let traffic := traffic.listen
      let (answer, scheduler) := traffic.scheduler.cancel handle
      (next answer).perform { traffic with scheduler }
  | cancelByRecipient recipient next =>
      let traffic := traffic.listen
      let (answer, scheduler) := traffic.scheduler.cancelByRecipient recipient
      (next answer).perform { traffic with scheduler }
  | countRecipients recipient next =>
      let traffic := traffic.listen
      (next (traffic.scheduler.countRecipients recipient)).perform traffic
  | isIdle next =>
      let traffic := traffic.listen
      (next traffic.scheduler.isIdle).perform traffic
  | note entry next => do
      Logged.note entry.level entry.message entry.fields
      next.perform traffic

/-- Run a program against a scheduler that no signals reach meanwhile. -/
def run (program : Endpoint α) (scheduler : Scheduler) : Logged (α × Scheduler) :=
  (fun (result, traffic) => (result, traffic.scheduler)) <$> program.perform { scheduler }

@[simp]
theorem run_pure (result : α) (scheduler : Scheduler) :
    (pure result : Endpoint α).run scheduler = pure (result, scheduler) :=
  rfl

theorem value_run_schedule (packet : Packet) (expectsReply : Bool)
    (next : Except BusError Handle → Endpoint α) (scheduler : Scheduler) :
    ((schedule packet expectsReply next).run scheduler).value =
      let scheduled := (scheduler.schedule packet expectsReply).value
      ((next scheduled.1).run scheduled.2).value :=
  rfl

/-- Where no signals were to come, none are to come afterwards. -/
theorem value_perform (program : Endpoint α) (scheduler : Scheduler) :
    (program.perform { scheduler }).value =
      ((program.run scheduler).value.1, { scheduler := (program.run scheduler).value.2 }) := by
  induction program generalizing scheduler with
  | done result => rfl
  | schedule packet expectsReply next ih => exact ih _ _
  | status handle next ih => exact ih _ _
  | cancel handle next ih => exact ih _ _
  | cancelByRecipient recipient next ih => exact ih _ _
  | countRecipients recipient next ih => exact ih _ _
  | isIdle next ih => exact ih _ _
  | note entry next ih => exact ih _

/-- The value of a sequence is the value of its second part, run from the
value of the first. -/
theorem value_run_bind (program : Endpoint α) (rest : α → Endpoint β)
    (scheduler : Scheduler) :
    ((program >>= rest).run scheduler).value =
      let middle := (program.run scheduler).value
      ((rest middle.1).run middle.2).value := by
  induction program generalizing scheduler with
  | done result => rfl
  | schedule packet expectsReply next ih => exact ih _ _
  | status handle next ih => exact ih _ _
  | cancel handle next ih => exact ih _ _
  | cancelByRecipient recipient next ih => exact ih _ _
  | countRecipients recipient next ih => exact ih _ _
  | isIdle next ih => exact ih _ _
  | note entry next ih => exact ih _

end Endpoint

end MapleBus
