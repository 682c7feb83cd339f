import MapleBus.Device.Player
import MapleBus.Device.Storage.Geometry
import MapleBus.Peripheral

/-!
# Storage devices

A storage device never transmits by itself.  A request left in its mailbox
goes out on the next cycle and is repeated while it fails, three times at
most.  The answer or the fault is left in the mailbox, which then takes the
next request.
-/

namespace MapleBus.Device

namespace Storage

/-- Attempts made for one request. -/
def maxAttempts : Nat := 3

/-- What a storage device can be asked for. -/
inductive Request where
  | mediaInfo
  | readBlock (block : UInt16)
  deriving DecidableEq, Repr

namespace Request

/-- The request, spelled out. -/
def text : Request → String
  | mediaInfo => "MediaInfo"
  | readBlock block => s!"ReadBlock({block.toNat})"

/-- The command that carries the request. -/
def command : Request → Command
  | mediaInfo => .getMemoryInfo
  | readBlock _ => .blockRead

/-- The word that says where to read. -/
def location : Request → UInt32
  | mediaInfo => 0
  | readBlock block => block.toUInt32

end Request

/-- A block of data, bytes in transmission order. -/
structure Block where
  number : UInt16
  data : List UInt8
  deriving DecidableEq, Repr

/-- Why a request has no answer. -/
inductive Fault where
  /-- Every attempt failed on the bus; the last one in this phase. -/
  | transfer (failure : Failure)
  /-- The device reported a file error with a code. -/
  | fileError (code : UInt32)
  /-- The device sent something other than data. -/
  | unexpectedReply (command : Command)
  /-- The data is too short or belongs to another block. -/
  | malformed
  deriving DecidableEq, Repr

/-- The answer to a request. -/
inductive Answer where
  | media (media : MediaInfo)
  | block (block : Block)
  deriving DecidableEq, Repr

/-- Where requests are left and answers are found. -/
structure Mailbox where
  request : Option Request := none
  media : Option MediaInfo := none
  block : Option Block := none
  fault : Option Fault := none
  deriving DecidableEq, Repr, Inhabited

namespace Mailbox

/-- Whether a request waits for its answer. -/
def isBusy (mailbox : Mailbox) : Bool :=
  mailbox.request.isSome

/-- Leave a request, unless another one waits for its answer. -/
def post (mailbox : Mailbox) (request : Request) : Bool × Mailbox :=
  if mailbox.isBusy then
    (false, mailbox)
  else
    (true, { mailbox with request := some request, fault := none })

/-- Leave the answer of the current request. -/
def publish (mailbox : Mailbox) (result : Except Fault Answer) : Mailbox :=
  let mailbox := { mailbox with request := none }
  match result with
  | .ok (.media media) => { mailbox with media := some media }
  | .ok (.block block) => { mailbox with block := some block }
  | .error fault => { mailbox with fault := some fault }

/-- Take the block that was read last. -/
def takeBlock (mailbox : Mailbox) : Option Block × Mailbox :=
  (mailbox.block, { mailbox with block := none })

/-- Take the fault of the last request. -/
def takeFault (mailbox : Mailbox) : Option Fault × Mailbox :=
  (mailbox.fault, { mailbox with fault := none })

end Mailbox

/-- What the words behind the function word answer to a request. -/
def readData (geometry : Geometry) (request : Request) (words : List UInt32) :
    Except Fault Answer :=
  match request with
  | .mediaInfo =>
      match MediaInfo.ofWords? words with
      | some media => .ok (.media media)
      | none => .error .malformed
  | .readBlock number =>
      match words with
      | [] => .error .malformed
      | location :: data =>
          if location.toNat % 0x10000 ≠ number.toNat ∨ data = [] then
            .error .malformed
          else
            .ok (.block
              { number, data := Word.listToBytes (data.take geometry.wordsPerBlock) })

/-- What a reply answers to a request. -/
def interpret (geometry : Geometry) (request : Request) (reply : Option Packet) :
    Except Fault Answer :=
  match reply with
  | none => .error .malformed
  | some reply =>
      match reply.command with
      | .dataTransfer =>
          match reply.payload.words with
          | [] => .error .malformed
          | function :: words =>
              if function = FunctionSet.storage.bits then
                readData geometry request words
              else
                .error .malformed
      | .fileError => .error (.fileError (reply.payload.words.getLastD 0))
      | other => .error (.unexpectedReply other)

end Storage

/-- A storage device. -/
structure Storage where
  address : Address
  player : Player
  /-- The definition word it was made with. -/
  definitionWord : UInt32
  mailbox : Storage.Mailbox := {}
  /-- The request under way and its handle. -/
  inFlight : Option (Handle × Storage.Request) := none
  /-- Attempts of the current request that failed. -/
  attempts : Nat := 0
  deriving DecidableEq, Repr

namespace Storage

/-- The geometry the device was made with. -/
def geometry (storage : Storage) : Geometry :=
  Geometry.ofDefinition storage.definitionWord

/-- How the device describes itself. -/
def info (storage : Storage) : DeviceInfo :=
  .describing .storage #v[storage.definitionWord, 0, 0] "Visual Memory"

/-- Leave a request in the mailbox, and tell whether it was taken. -/
def post (storage : Storage) (request : Request) : Bool × Storage :=
  let (accepted, mailbox) := storage.mailbox.post request
  (accepted, { storage with mailbox })

/-- The packet that carries a request. -/
def packet (storage : Storage) (request : Request) : Packet :=
  Packet.carrying request.command storage.address
    (Address.host storage.address.player)
    [FunctionSet.storage.bits, request.location]

/-- Submit a request. -/
def submit (storage : Storage) (request : Request) : Endpoint Storage := do
  match ← Endpoint.submit (storage.packet request) true with
  | .ok handle =>
      Endpoint.trace "storage request scheduled"
        [("address", storage.address.text), ("request", request.text)]
      return { storage with inFlight := some (handle, request) }
  | .error refusal =>
      Endpoint.trace "storage request deferred"
        [ ("address", storage.address.text), ("request", request.text),
          ("error", refusal.message) ]
      return storage

/-- Submit the request in the mailbox, if there is one. -/
def attempt (storage : Storage) : Endpoint Storage :=
  match storage.mailbox.request with
  | none => pure storage
  | some request => storage.submit request

/-- One cycle: unless an exchange is under way, submit what the mailbox asks
for.  An exchange the bus no longer knows is forgotten. -/
def task (storage : Storage) : Endpoint Storage := do
  match storage.inFlight with
  | none => storage.attempt
  | some (handle, _) =>
      if ← Endpoint.isOutstanding handle then
        return storage
      else
        attempt { storage with inFlight := none }

/-- The request a transmission carries, when it is the one under way. -/
def owned? (storage : Storage) (tx : Transmission) : Option Request :=
  (storage.inFlight.filter fun (handle, _) => handle.id == tx.id).map Prod.snd

/-- An attempt failed: try again, or give the request up after the last
attempt. -/
def failed (storage : Storage) (failure : Failure) (tx : Transmission) :
    Logged Storage := do
  match storage.owned? tx with
  | none => return storage
  | some request =>
      let attempts := storage.attempts + 1
      if attempts < maxAttempts then
        Logged.note .debug "storage request failed, retrying"
          [ ("address", storage.address.text), ("request", request.text),
            ("attempt", toString attempts) ]
        return { storage with inFlight := none, attempts }
      else
        Logged.note .warn "storage request abandoned"
          [ ("address", storage.address.text), ("request", request.text),
            ("write_failed", Log.flag failure.isWrite),
            ("read_failed", Log.flag failure.isRead) ]
        return { storage with
          inFlight := none
          attempts := 0
          mailbox := storage.mailbox.publish (.error (.transfer failure)) }

/-- An exchange succeeded: leave what the reply says in the mailbox. -/
def completed (storage : Storage) (reply : Option Packet) (tx : Transmission) :
    Logged Storage := do
  match storage.owned? tx with
  | none => return storage
  | some request =>
      let result := interpret storage.geometry request reply
      Logged.noteWhen (!result.isOk) .debug "storage request refused"
        [("address", storage.address.text), ("request", request.text)]
      return { storage with
        inFlight := none
        attempts := 0
        mailbox := storage.mailbox.publish result }

instance : Peripheral Storage where
  name _ := "storage"
  address storage := storage.address
  functions _ := .storage
  definition storage := storage.geometry.definition
  info := info
  task storage _ := storage.task
  failed := failed
  completed := completed

end Storage

end MapleBus.Device
