import MapleBus.Text.Hex

/-!
# Errors

Each family of failure is a type of its causes, with one function that words
them.  `Error` joins the families and classifies a failure by category,
severity and whether trying again can help.
-/

namespace MapleBus

/-- How much attention a failure deserves. -/
inductive Severity where
  /-- Part of normal operation. -/
  | info
  /-- Worth attention when it persists. -/
  | warning
  /-- The operation failed. -/
  | error
  deriving DecidableEq, Repr

namespace Severity

/-- The rank of a severity, growing with its weight. -/
def code : Severity → Nat
  | info => 0
  | warning => 1
  | error => 2

/-- The name of a severity. -/
def text : Severity → String
  | info => "INFO"
  | warning => "WARN"
  | error => "ERROR"

end Severity

/-- Why bytes and packets could not be turned into each other. -/
inductive CodecError where
  /-- The bytes are fewer than a frame needs, or not as many as its word count
  says. -/
  | framing (expected actual : Nat)
  /-- The last byte is not the checksum of the others. -/
  | checksum (computed carried : UInt8)
  /-- The frame does not fit the buffer it is written to. -/
  | bufferTooSmall (required available : Nat)
  /-- A frame has no room for so many words. -/
  | payloadTooLong (words : Nat)
  deriving DecidableEq, Repr

namespace CodecError

/-- The number of a cause in compact logs. -/
def code : CodecError → Nat
  | framing .. => 1
  | checksum .. => 2
  | bufferTooSmall .. => 3
  | payloadTooLong .. => 4

def severity : CodecError → Severity
  | framing .. | checksum .. => .warning
  | bufferTooSmall .. | payloadTooLong .. => .error

/-- Whether the failure comes from reading received bytes. -/
def isReceiveFailure : CodecError → Bool
  | framing .. | checksum .. => true
  | bufferTooSmall .. | payloadTooLong .. => false

def message : CodecError → String
  | framing expected actual =>
      s!"framing error: expected {expected} bytes, got {actual}"
  | checksum computed carried =>
      "checksum mismatch: computed " ++ Text.Hex.marked 2 computed.toNat ++
        ", received " ++ Text.Hex.marked 2 carried.toNat
  | bufferTooSmall required available =>
      s!"output buffer too small: need {required} bytes, have {available}"
  | payloadTooLong words =>
      s!"payload of {words} words exceeds the 255-word limit"

/-- The cause and its fields, spelled out. -/
def dump : CodecError → String
  | framing expected actual =>
      s!"Framing \x7b expected: {expected}, actual: {actual} \x7d"
  | checksum computed carried =>
      s!"Checksum \x7b expected: {computed.toNat}, actual: {carried.toNat} \x7d"
  | bufferTooSmall required available =>
      s!"BufferTooSmall \x7b required: {required}, available: {available} \x7d"
  | payloadTooLong words => s!"PayloadTooLong({words})"

end CodecError

/-- Why the bus did not take or start a transmission. -/
inductive BusError where
  /-- Another transmission is outstanding. -/
  | busBusy
  /-- Finished transmissions occupy every slot. -/
  | tableFull
  /-- The wire refused to start the write. -/
  | physicalLayerRejected
  /-- The handle names no transmission. -/
  | unknownHandle
  deriving DecidableEq, Repr

namespace BusError

/-- The number of a cause in compact logs. -/
def code : BusError → Nat
  | busBusy => 1
  | tableFull => 2
  | physicalLayerRejected => 3
  | unknownHandle => 4

/-- The cause with a given number. -/
def ofCode? : Nat → Option BusError
  | 1 => some busBusy
  | 2 => some tableFull
  | 3 => some physicalLayerRejected
  | 4 => some unknownHandle
  | _ => none

def severity : BusError → Severity
  | busBusy => .info
  | tableFull | physicalLayerRejected => .warning
  | unknownHandle => .error

/-- Whether trying again on a later cycle can succeed. -/
def isTransient : BusError → Bool
  | unknownHandle => false
  | _ => true

def message : BusError → String
  | busBusy => "bus busy: a transmission is already outstanding"
  | tableFull => "transmission table full"
  | physicalLayerRejected => "physical layer rejected the write"
  | unknownHandle => "unknown transmission handle"

end BusError

/-- Why a peripheral could not be attached or detached.  Addresses are given
by their byte. -/
inductive PeripheralError where
  /-- Another peripheral answers on the address. -/
  | addressInUse (address : UInt8)
  /-- The address names no single peripheral. -/
  | invalidAddress (address : UInt8)
  /-- Nothing answers on the address. -/
  | notAttached (address : UInt8)
  /-- An expansion has no main peripheral to plug into. -/
  | noPrimary (address : UInt8)
  /-- The address belongs to another player. -/
  | playerMismatch (expected actual : UInt8)
  deriving DecidableEq, Repr

namespace PeripheralError

def severity : PeripheralError → Severity
  | notAttached _ => .warning
  | _ => .error

def message : PeripheralError → String
  | addressInUse address =>
      "address " ++ Text.Hex.marked 2 address.toNat ++ " is already in use"
  | invalidAddress address =>
      "address " ++ Text.Hex.marked 2 address.toNat ++
        " is not a valid peripheral address"
  | notAttached address =>
      "no peripheral attached at " ++ Text.Hex.marked 2 address.toNat
  | noPrimary address =>
      "no primary peripheral attached for expansion at " ++
        Text.Hex.marked 2 address.toNat
  | playerMismatch expected actual =>
      s!"address belongs to player {actual.toNat}, bus serves player {expected.toNat}"

end PeripheralError

/-- Why settings were refused. -/
inductive ConfigError where
  /-- There is no such player slot. -/
  | invalidPlayerIndex (index : UInt8)
  /-- A period that has to be positive is zero. -/
  | zeroPeriod (field : String)
  /-- A setting has a value outside its domain. -/
  | invalidValue (field reason : String)
  deriving DecidableEq, Repr

/-- The wording of a refusal. -/
def ConfigError.message : ConfigError → String
  | invalidPlayerIndex index => s!"player index {index.toNat} out of range (0-3)"
  | zeroPeriod field => s!"{field} must be greater than zero"
  | invalidValue field reason => s!"invalid value for {field}: {reason}"

/-- The families of failure. -/
inductive ErrorCategory where
  | codec
  | bus
  | peripheral
  | config
  deriving DecidableEq, Repr

namespace ErrorCategory

def code : ErrorCategory → Nat
  | codec => 0
  | bus => 1
  | peripheral => 2
  | config => 3

def text : ErrorCategory → String
  | codec => "Codec"
  | bus => "Bus"
  | peripheral => "Peripheral"
  | config => "Config"

end ErrorCategory

/-- Any failure. -/
inductive Error where
  | codec (cause : CodecError)
  | bus (cause : BusError)
  | peripheral (cause : PeripheralError)
  | config (cause : ConfigError)
  deriving DecidableEq, Repr

namespace Error

def category : Error → ErrorCategory
  | codec _ => .codec
  | bus _ => .bus
  | peripheral _ => .peripheral
  | config _ => .config

def severity : Error → Severity
  | codec cause => cause.severity
  | bus cause => cause.severity
  | peripheral cause => cause.severity
  | config _ => .error

/-- Whether the same call may succeed later.  Only settings have to be changed
first. -/
def isRecoverable : Error → Bool
  | config _ => false
  | _ => true

/-- The wording of the cause alone. -/
def causeMessage : Error → String
  | codec cause => cause.message
  | bus cause => cause.message
  | peripheral cause => cause.message
  | config cause => cause.message

/-- The wording of a failure with its family in front. -/
def message (error : Error) : String :=
  let family :=
    match error with
    | codec _ => "Codec error: "
    | bus _ => "Bus error: "
    | peripheral _ => "Peripheral error: "
    | config _ => "Configuration error: "
  family ++ error.causeMessage

end Error

end MapleBus
