import MapleBus.Bench.Registry
import MapleBus.Bench.ScriptedWire
import MapleBus.Device

/-!
# A scheduler on the bench

A scheduler with a scripted wire, and devices and report links by name that
can be run on it one at a time.  Events are given to the device at hand,
whatever their recipient.
-/

namespace MapleBus.Bench

/-- A scheduler, its wire and what can be run on it. -/
structure SchedulerRig where
  scheduler : Scheduler := {}
  wire : ScriptedWire := {}
  devices : Registry Device := {}
  links : Registry Device.ReportLink := {}

namespace SchedulerRig

variable {α : Type}

/-- Whether a transmission was given an identifier.  They are given in
ascending order, from one on. -/
def issued (rig : SchedulerRig) (id : UInt32) : Bool :=
  id != 0 && id < rig.scheduler.nextId

/-- The handle of the transmission with an identifier, while the table holds
it. -/
def handle? (rig : SchedulerRig) (id : UInt32) : Option Handle :=
  (rig.scheduler.table.find? fun tx => tx.id == id).map Prod.fst

/-- The transmissions in the table by ascending identifier. -/
def live (rig : SchedulerRig) : List Transmission :=
  rig.scheduler.table.toList.mergeSort fun first second => first.id ≤ second.id

/-- Hand the pending transmission to the wire. -/
def dispatch (rig : SchedulerRig) : Logged (Option Handle × SchedulerRig) := do
  let (sent, scheduler, wire) ← rig.scheduler.dispatch rig.wire
  return (sent, { rig with scheduler, wire })

/-- Settle what the wire reported. -/
def service (rig : SchedulerRig) : Logged SchedulerRig := do
  let scheduler ← rig.scheduler.service
  return { rig with scheduler }

/-- Take every queued event. -/
def takeEvents (rig : SchedulerRig) : List Event × SchedulerRig :=
  (rig.scheduler.events,
    { rig with scheduler := { rig.scheduler with events := [] } })

/-- Run a cycle of a device on the scheduler. -/
def runTask (rig : SchedulerRig) (name : String) (now : UInt64) :
    Logged SchedulerRig :=
  match rig.devices.get? name with
  | none => return rig
  | some device => do
      let (device, scheduler) ← (Peripheral.task device now).run rig.scheduler
      return { rig with scheduler, devices := rig.devices.put name device }

/-- Give an event to a device.  The end of a transmission that was released
already is not told. -/
def tell (scheduler : Scheduler) (device : Device) (event : Event) :
    Logged (Device × Scheduler) :=
  match event.kind with
  | .started =>
      match scheduler.get? event.handle with
      | none => return (device, scheduler)
      | some tx => return (← Peripheral.started device tx, scheduler)
  | .failed | .completed =>
      match scheduler.release event.handle with
      | (none, scheduler) => return (device, scheduler)
      | (some tx, scheduler) => do
          let device ←
            match tx.status.failure? with
            | some failure => Peripheral.failed device failure tx
            | none => Peripheral.completed device tx.reply? tx
          return (device, scheduler)

/-- Give events to a device in order. -/
def tellAll (scheduler : Scheduler) (device : Device) :
    List Event → Logged (Device × Scheduler)
  | [] => return (device, scheduler)
  | event :: rest => do
      let (device, scheduler) ← tell scheduler device event
      tellAll scheduler device rest

/-- Give every queued event to a device, and return the events. -/
def deliver (rig : SchedulerRig) (name : String) :
    Logged (List Event × SchedulerRig) := do
  let (events, rig) := rig.takeEvents
  match rig.devices.get? name with
  | none => return (events, rig)
  | some device =>
      let (device, scheduler) ← tellAll rig.scheduler device events
      return (events, { rig with scheduler, devices := rig.devices.put name device })

/-- A whole cycle with one device: settle, deliver, run it, send, deliver.
The result has all the events delivered. -/
def cycle (rig : SchedulerRig) (name : String) (now : UInt64) :
    Logged (List Event × SchedulerRig) := do
  let rig ← rig.service
  let (settled, rig) ← rig.deliver name
  let rig ← rig.runTask name now
  let (_, rig) ← rig.dispatch
  let (sent, rig) ← rig.deliver name
  return (settled ++ sent, rig)

/-- Run a program of a report link on the scheduler. -/
def runLink (rig : SchedulerRig) (name : String)
    (program : Device.ReportLink → Endpoint (α × Device.ReportLink)) :
    Logged (Option α × SchedulerRig) :=
  match rig.links.get? name with
  | none => return (none, rig)
  | some link => do
      let ((result, link), scheduler) ← (program link).run rig.scheduler
      return (some result, { rig with scheduler, links := rig.links.put name link })

/-- Settle a report link with a transmission of the table, and tell whether it
is still there. -/
def settleLink (rig : SchedulerRig) (name : String) (id : UInt32) :
    Logged (Bool × SchedulerRig) :=
  match (rig.handle? id).bind rig.scheduler.get?, rig.links.get? name with
  | some tx, some link => do
      let link ← link.settle tx
      return (true, { rig with links := rig.links.put name link })
  | _, _ => return (false, rig)

end SchedulerRig

end MapleBus.Bench
