import MapleBus.Cadence
import MapleBus.DeviceInfo
import MapleBus.Endpoint

/-!
# Periodic reports

A device that reports by itself owes its host two things: an identification,
which comes first and is repeated with a long period or never, and its
condition, repeated with a short one.  A report link keeps the two deadlines
and the handle of the report under way.  A deadline moves only when the bus
accepts the report, and a failed report is due again at once.
-/

namespace MapleBus.Device

/-- How often a device reports, in microseconds. -/
structure Timing where
  reportPeriod : UInt64 := 16000
  /-- Zero asks for a single identification. -/
  identifyPeriod : UInt64 := 1000000
  deriving DecidableEq, Repr, Inhabited

/-- The two kinds of report. -/
inductive ReportKind where
  | identify
  | condition
  deriving DecidableEq, Repr

namespace ReportKind

/-- The kind of report a packet carries. -/
def ofPacket (packet : Packet) : ReportKind :=
  match packet.command with
  | .deviceInfo | .extDeviceInfo => identify
  | _ => condition

def name : ReportKind → String
  | identify => "Identify"
  | condition => "Condition"

end ReportKind

/-- The text in front of the serial in a version field. -/
def versionMark : String :=
  "Version 1.010,SN:"

/-- The version text of a device with a given serial: the mark, then the
visible ASCII characters of the serial, as far as the field reaches. -/
def versionText (serial : String) : String :=
  String.ofList
    ((versionMark.toList ++ serial.toList.filter Text.isGraphic).take
      DeviceInfo.versionLength)

/-- The reports a device owes and the one under way. -/
structure ReportLink where
  address : Address
  timing : Timing := {}
  /-- The report accepted last, until it is settled. -/
  outstanding : Option Handle := none
  /-- When identification is due, if ever again. -/
  identifyAt : Option UInt64 := some 0
  /-- When the condition is due. -/
  reportAt : UInt64 := 0
  deriving DecidableEq, Repr

namespace ReportLink

/-- The host port the device reports to. -/
def host (link : ReportLink) : Address :=
  Address.host link.address.player

/-- The report owed at a given time; identification takes precedence. -/
def due? (link : ReportLink) (now : UInt64) : Option ReportKind :=
  if link.identifyAt.any fun deadline => deadline ≤ now then
    some .identify
  else if link.reportAt ≤ now then
    some .condition
  else
    none

/-- Move the deadline of a report that was accepted. -/
def advance (link : ReportLink) (kind : ReportKind) (now : UInt64) : ReportLink :=
  match kind with
  | .identify =>
      { link with
        identifyAt :=
          if link.timing.identifyPeriod = 0 then
            none
          else
            some (Cadence.next now link.timing.identifyPeriod 0) }
  | .condition =>
      { link with reportAt := Cadence.next now link.timing.reportPeriod 0 }

/-- Make a report due at once. -/
def renew (link : ReportLink) : ReportKind → ReportLink
  | .identify => { link with identifyAt := some 0 }
  | .condition => { link with reportAt := 0 }

/-- A packet from the device to its host. -/
def packet (link : ReportLink) (command : Command) (words : List UInt32) : Packet :=
  Packet.carrying command link.address link.host words

/-- The identification report. -/
def identification (link : ReportLink) (info : DeviceInfo) (version : String) :
    Packet :=
  link.packet .extDeviceInfo (info.toExtWords version)

/-- The condition report. -/
def conditionReport (link : ReportLink) (words : List UInt32) : Packet :=
  link.packet .dataTransfer words

/-- Whether the last accepted report still occupies the bus.  A report that
the bus no longer knows, or that has ended, is forgotten. -/
def askOutstanding (link : ReportLink) : Endpoint (Bool × ReportLink) :=
  match link.outstanding with
  | none => pure (false, link)
  | some handle => do
      if ← Endpoint.isOutstanding handle then
        return (true, link)
      else
        return (false, { link with outstanding := none })

/-- Submit a report and, if the bus accepts it, move its deadline. -/
def submit (link : ReportLink) (now : UInt64) (packet : Packet) :
    Endpoint (Option Handle × ReportLink) := do
  let kind := ReportKind.ofPacket packet
  match ← Endpoint.submit packet false with
  | .ok handle =>
      return (some handle, { link with outstanding := some handle }.advance kind now)
  | .error refusal =>
      Endpoint.trace "report skipped"
        [ ("address", link.address.text), ("kind", kind.name),
          ("error", refusal.message) ]
      return (none, link)

/-- One cycle: submit the report that is due, unless one is under way.  The
result is the kind of report the bus accepted. -/
def poll (link : ReportLink) (now : UInt64) (info : DeviceInfo) (version : String)
    (condition : List UInt32) : Endpoint (Option ReportKind × ReportLink) := do
  let (busy, link) ← link.askOutstanding
  if busy then
    return (none, link)
  match link.due? now with
  | none => return (none, link)
  | some kind =>
      let packet :=
        match kind with
        | .identify => link.identification info version
        | .condition => link.conditionReport condition
      let (handle?, link) ← link.submit now packet
      return (handle?.map fun _ => kind, link)

/-- Take note of how a report ended. -/
def settle (link : ReportLink) (tx : Transmission) : Logged ReportLink := do
  let link :=
    if link.outstanding.any fun handle => handle.id == tx.id then
      { link with outstanding := none }
    else
      link
  match tx.status with
  | .failed failure =>
      let kind := ReportKind.ofPacket tx.packet
      Logged.note .debug "report failed, due again"
        [ ("address", link.address.text), ("kind", kind.name),
          ("write_failed", Log.flag failure.isWrite),
          ("read_failed", Log.flag failure.isRead) ]
      return link.renew kind
  | _ => return link

end ReportLink

end MapleBus.Device
