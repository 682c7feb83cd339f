/-!
# Commands

The first byte of a frame says what the packet asks for or answers.  Every
byte is a command: those outside the table are kept as they are, so that
reading a command loses nothing.
-/

namespace MapleBus

/-- What a packet asks for or answers. -/
inductive Command where
  | deviceInfoRequest
  | extDeviceInfoRequest
  | reset
  | shutdown
  | deviceInfo
  | extDeviceInfo
  | ack
  | dataTransfer
  | getCondition
  | getMemoryInfo
  | blockRead
  | blockWrite
  | getLastError
  | setCondition
  | arError
  | lcdError
  | fileError
  | requestResend
  | unknownCommand
  | functionNotSupported
  | invalid
  /-- A code outside the table. -/
  | unknown (code : UInt8)
  deriving DecidableEq, Repr, Inhabited

namespace Command

/-- The byte that stands for a command. -/
def code : Command → UInt8
  | deviceInfoRequest => 0x01
  | extDeviceInfoRequest => 0x02
  | reset => 0x03
  | shutdown => 0x04
  | deviceInfo => 0x05
  | extDeviceInfo => 0x06
  | ack => 0x07
  | dataTransfer => 0x08
  | getCondition => 0x09
  | getMemoryInfo => 0x0A
  | blockRead => 0x0B
  | blockWrite => 0x0C
  | getLastError => 0x0D
  | setCondition => 0x0E
  | arError => 0xF9
  | lcdError => 0xFA
  | fileError => 0xFB
  | requestResend => 0xFC
  | unknownCommand => 0xFD
  | functionNotSupported => 0xFE
  | invalid => 0xFF
  | unknown code => code

/-- The command a byte stands for; the table takes precedence over
`unknown`. -/
def ofCode (code : UInt8) : Command :=
  match code with
  | 0x01 => deviceInfoRequest
  | 0x02 => extDeviceInfoRequest
  | 0x03 => reset
  | 0x04 => shutdown
  | 0x05 => deviceInfo
  | 0x06 => extDeviceInfo
  | 0x07 => ack
  | 0x08 => dataTransfer
  | 0x09 => getCondition
  | 0x0A => getMemoryInfo
  | 0x0B => blockRead
  | 0x0C => blockWrite
  | 0x0D => getLastError
  | 0x0E => setCondition
  | 0xF9 => arError
  | 0xFA => lcdError
  | 0xFB => fileError
  | 0xFC => requestResend
  | 0xFD => unknownCommand
  | 0xFE => functionNotSupported
  | 0xFF => invalid
  | code => unknown code

/-- The name of a command. -/
def name : Command → String
  | deviceInfoRequest => "DeviceInfoRequest"
  | extDeviceInfoRequest => "ExtDeviceInfoRequest"
  | reset => "Reset"
  | shutdown => "Shutdown"
  | deviceInfo => "DeviceInfo"
  | extDeviceInfo => "ExtDeviceInfo"
  | ack => "Ack"
  | dataTransfer => "DataTransfer"
  | getCondition => "GetCondition"
  | getMemoryInfo => "GetMemoryInfo"
  | blockRead => "BlockRead"
  | blockWrite => "BlockWrite"
  | getLastError => "GetLastError"
  | setCondition => "SetCondition"
  | arError => "ArError"
  | lcdError => "LcdError"
  | fileError => "FileError"
  | requestResend => "RequestResend"
  | unknownCommand => "UnknownCommand"
  | functionNotSupported => "FunctionNotSupported"
  | invalid => "Invalid"
  | unknown code => "Unknown(" ++ toString code.toNat ++ ")"

/-- Whether a device sends this command in place of the data it was asked
for.  A code outside the table is never such a response. -/
def isErrorResponse : Command → Bool
  | arError | lcdError | fileError | requestResend | unknownCommand
  | functionNotSupported | invalid => true
  | _ => false

/-- Whether a command is the one its own byte stands for. -/
def isCanonical (command : Command) : Bool :=
  command == ofCode command.code

/-- Reading a byte as a command keeps the byte. -/
@[simp]
theorem code_ofCode (code : UInt8) : (ofCode code).code = code := by
  unfold ofCode
  split <;> rfl

end Command

end MapleBus
