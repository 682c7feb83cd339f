import MapleBus.Exchange.FrameBuffer
import MapleBus.Exchange.Transmission
import MapleBus.Lock

/-!
# The completion cell

The wire reports what became of an exchange by signals, possibly from an
interrupt.  The cell collects them for the one exchange in flight: it is armed
before the write starts, follows the signals, and holds the outcome until the
task loop harvests it.  A signal that nothing waits for is refused and changes
nothing.  The cell is fixed storage that serves one exchange after the other:
arming clears the flags and the length of the reply, while the reply's bytes
stay until others overwrite them.  Every access happens inside one critical
section of the cell's lock.
-/

namespace MapleBus

/-- What the wire reports about the exchange in flight. -/
inductive Signal where
  /-- The write is on the wire. -/
  | writeComplete
  /-- The write failed. -/
  | writeFailed
  /-- Reply bytes arrived; they have not been checked yet. -/
  | replyReceived (bytes : List UInt8)
  /-- No complete reply arrived in time. -/
  | readFailed
  deriving DecidableEq, Repr

/-- What the cell says about a finished exchange. -/
structure Outcome where
  writeFailed : Bool
  readFailed : Bool
  /-- How many bytes of the buffer are the reply. -/
  replyLength : Nat
  deriving DecidableEq, Repr

namespace Completion

/-- What the cell waits for. -/
inductive Phase where
  /-- No exchange is in flight. -/
  | idle
  /-- The write has been started. -/
  | writing
  /-- The write is complete and a reply is expected. -/
  | awaitingReply
  /-- The outcome is known. -/
  | done
  deriving DecidableEq, Repr

namespace Phase

/-- The place of a phase in the course of an exchange. -/
def code : Phase → Nat
  | idle => 0
  | writing => 1
  | awaitingReply => 2
  | done => 3

/-- Whether an exchange waits for its outcome. -/
def isArmed : Phase → Bool
  | writing | awaitingReply => true
  | idle | done => false

end Phase

/-- The storage of the cell. -/
structure Registers where
  phase : Phase := .idle
  expectsReply : Bool := false
  writeFailed : Bool := false
  readFailed : Bool := false
  /-- The length of the reply taken since the cell was armed. -/
  replyLength : Nat := 0
  reply : FrameBuffer := .blank
  deriving DecidableEq, Repr, Inhabited

namespace Registers

/-- Prepare for a new exchange. -/
def arm (registers : Registers) (expectsReply : Bool) : Registers :=
  { registers with
    phase := .writing
    expectsReply
    writeFailed := false
    readFailed := false
    replyLength := 0 }

/-- Forget the exchange that was prepared. -/
def disarm (registers : Registers) : Registers :=
  { registers with phase := .idle }

/-- The outcome the flags and the length spell. -/
def outcome (registers : Registers) : Outcome where
  writeFailed := registers.writeFailed
  readFailed := registers.readFailed
  replyLength := registers.replyLength

/-- Take the outcome, if it is known.  The bytes of the reply are copied to the
front of a buffer. -/
def harvest (registers : Registers) (buffer : FrameBuffer) :
    (Option Outcome × FrameBuffer) × Registers :=
  if registers.phase = .done then
    ((some registers.outcome,
      buffer.store (registers.reply.bytes.take registers.replyLength)),
      { registers with phase := .idle })
  else
    ((none, buffer), registers)

theorem harvest_of_waiting {registers : Registers} (waiting : registers.phase ≠ .done)
    (buffer : FrameBuffer) : registers.harvest buffer = ((none, buffer), registers) := by
  rw [harvest, if_neg waiting]

theorem harvest_of_done {registers : Registers} (done : registers.phase = .done)
    (buffer : FrameBuffer) :
    registers.harvest buffer =
      ((some registers.outcome,
        buffer.store (registers.reply.bytes.take registers.replyLength)),
        registers.disarm) := by
  rw [harvest, if_pos done]
  rfl

/-- Record how the exchange ended. -/
def finish (registers : Registers) (writeFailed readFailed : Bool) : Registers :=
  { registers with writeFailed, readFailed, phase := .done }

/-- Whether a reply is waited for.  It may come before the write is known to be
complete. -/
def awaitsReply (registers : Registers) : Bool :=
  registers.phase == .awaitingReply ||
    (registers.phase == .writing && registers.expectsReply)

/-- Receive a signal, and tell whether something waited for it.  A reply that
is longer than every frame is a failed read. -/
def receive (registers : Registers) : Signal → Bool × Registers
  | .writeComplete =>
      if registers.phase = .writing then
        (true,
          if registers.expectsReply then
            { registers with phase := .awaitingReply }
          else
            registers.finish false false)
      else
        (false, registers)
  | .writeFailed =>
      if registers.phase = .writing then
        (true, registers.finish true false)
      else
        (false, registers)
  | .replyReceived bytes =>
      if registers.awaitsReply then
        (true,
          if bytes.length ≤ Packet.maxFrameLength then
            { registers with
              reply := registers.reply.store bytes
              replyLength := bytes.length }.finish false false
          else
            registers.finish false true)
      else
        (false, registers)
  | .readFailed =>
      if registers.awaitsReply then
        (true, registers.finish false true)
      else
        (false, registers)

/-- Only an exchange in flight makes a signal welcome. -/
theorem phase_ne_idle_of_receive {registers : Registers} {signal : Signal}
    (accepted : (registers.receive signal).1 = true) : registers.phase ≠ .idle := by
  intro idle
  cases signal <;> simp [receive, awaitsReply, idle] at accepted

/-- A signal that nothing waits for changes nothing. -/
theorem receive_of_refused {registers : Registers} {signal : Signal}
    (refused : (registers.receive signal).1 = false) :
    (registers.receive signal).2 = registers := by
  cases signal with
  | writeComplete | writeFailed =>
      by_cases writing : registers.phase = .writing
      · simp [receive, writing] at refused
      · simp [receive, writing]
  | replyReceived _ | readFailed =>
      cases awaits : registers.awaitsReply with
      | true => simp [receive, awaits] at refused
      | false => simp [receive, awaits]

/-- An accepted signal leaves the exchange in flight or finishes it. -/
theorem phase_receive_ne_idle {registers : Registers} {signal : Signal}
    (accepted : (registers.receive signal).1 = true) :
    (registers.receive signal).2.phase ≠ .idle := by
  cases signal with
  | writeComplete =>
      by_cases writing : registers.phase = .writing
      · cases expects : registers.expectsReply <;> simp [receive, finish, writing, expects]
      · simp [receive, writing] at accepted
  | writeFailed =>
      by_cases writing : registers.phase = .writing
      · simp [receive, finish, writing]
      · simp [receive, writing] at accepted
  | replyReceived bytes =>
      cases awaits : registers.awaitsReply with
      | true => by_cases fits : bytes.length ≤ Packet.maxFrameLength <;>
          simp [receive, finish, awaits, fits]
      | false => simp [receive, awaits] at accepted
  | readFailed =>
      cases awaits : registers.awaitsReply with
      | true => simp [receive, finish, awaits]
      | false => simp [receive, awaits] at accepted

/-- No signal starts an exchange, and none makes an unharvested one
disappear. -/
@[simp]
theorem phase_receive_eq_idle_iff (registers : Registers) (signal : Signal) :
    (registers.receive signal).2.phase = .idle ↔ registers.phase = .idle := by
  cases accepted : (registers.receive signal).1 with
  | true =>
      exact iff_of_false (phase_receive_ne_idle accepted) (phase_ne_idle_of_receive accepted)
  | false => rw [receive_of_refused accepted]

end Registers

end Completion

/-- The cell that collects the outcome of the exchange in flight. -/
structure Completion where
  lock : Lock := {}
  registers : Completion.Registers := {}
  deriving DecidableEq, Repr, Inhabited

namespace Completion

variable {α : Type}

/-- What the cell waits for. -/
def phase (cell : Completion) : Phase :=
  cell.registers.phase

/-- Use the storage in one critical section. -/
def exclusively (cell : Completion) (access : Registers → α × Registers) :
    α × Completion :=
  let ((result, registers), lock) :=
    cell.lock.guarded fun lock => (access cell.registers, lock)
  (result, { lock, registers })

/-- Prepare for a new exchange. -/
def arm (cell : Completion) (expectsReply : Bool) : Completion :=
  (cell.exclusively fun registers => ((), registers.arm expectsReply)).2

/-- Forget the exchange that was prepared. -/
def disarm (cell : Completion) : Completion :=
  (cell.exclusively fun registers => ((), registers.disarm)).2

/-- Take the outcome, if it is known, with the reply's bytes at the front of
the buffer. -/
def harvest (cell : Completion) (buffer : FrameBuffer) :
    (Option Outcome × FrameBuffer) × Completion :=
  cell.exclusively fun registers => registers.harvest buffer

/-- Receive a signal, and tell whether something waited for it. -/
def signal (cell : Completion) (signal : Signal) : Bool × Completion :=
  cell.exclusively fun registers => registers.receive signal

/-- Receive signals in order. -/
def signals (cell : Completion) (received : List Signal) : Completion :=
  received.foldl (fun cell signal => (cell.signal signal).2) cell

/-- Call out of the code that shares the cell. -/
def callOut (cell : Completion) : Completion :=
  { cell with lock := cell.lock.callOut }

/-- Ask whether an exchange waits for its outcome. -/
def askArmed (cell : Completion) : Bool × Completion :=
  cell.exclusively fun registers => (registers.phase.isArmed, registers)

@[simp]
theorem fst_harvest (cell : Completion) (buffer : FrameBuffer) :
    (cell.harvest buffer).1 = (cell.registers.harvest buffer).1 :=
  rfl

@[simp]
theorem registers_signal (cell : Completion) (signal : Signal) :
    (cell.signal signal).2.registers = (cell.registers.receive signal).2 :=
  rfl

@[simp]
theorem fst_signal (cell : Completion) (signal : Signal) :
    (cell.signal signal).1 = (cell.registers.receive signal).1 :=
  rfl

@[simp]
theorem registers_callOut (cell : Completion) : cell.callOut.registers = cell.registers :=
  rfl

@[simp]
theorem phase_callOut (cell : Completion) : cell.callOut.phase = cell.phase :=
  rfl

@[simp]
theorem signals_cons (cell : Completion) (signal : Signal) (rest : List Signal) :
    cell.signals (signal :: rest) = (cell.signal signal).2.signals rest :=
  rfl

@[simp]
theorem phase_signal_eq_idle_iff (cell : Completion) (signal : Signal) :
    (cell.signal signal).2.phase = .idle ↔ cell.phase = .idle :=
  Registers.phase_receive_eq_idle_iff cell.registers signal

@[simp]
theorem phase_signals_eq_idle_iff (cell : Completion) (received : List Signal) :
    (cell.signals received).phase = .idle ↔ cell.phase = .idle := by
  induction received generalizing cell with
  | nil => rfl
  | cons signal rest ih => rw [signals_cons, ih, phase_signal_eq_idle_iff]

@[simp]
theorem phase_arm (cell : Completion) (expectsReply : Bool) :
    (cell.arm expectsReply).phase = .writing :=
  rfl

@[simp]
theorem phase_disarm (cell : Completion) : cell.disarm.phase = .idle :=
  rfl

/-- The state of the cell as its port shows it. -/
def dump (cell : Completion) : String :=
  s!"CompletionPort(CompletionCell \x7b phase: {cell.phase.code}" ++
    s!", reply_len: {cell.registers.replyLength}, .. \x7d)"

end Completion

end MapleBus
