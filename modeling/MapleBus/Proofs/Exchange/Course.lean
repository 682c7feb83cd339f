import MapleBus.Scheduler
import Mathlib.Data.List.Induction

/-!
# The course of an exchange

What the signals of one exchange decide, said without the completion cell, and
the proof that the cell, armed for the exchange, decides the same.  The cell's
storage is used again and again; arming it is enough for all it held before to
be without effect.
-/

namespace MapleBus

namespace Signal

/-- Whether the signal reports on the write. -/
def concernsWrite : Signal → Bool
  | writeComplete | writeFailed => true
  | replyReceived _ | readFailed => false

/-- Whether the signal reports on the reply. -/
def concernsReply : Signal → Bool
  | writeComplete | writeFailed => false
  | replyReceived _ | readFailed => true

end Signal

namespace Exchange

/-- How an exchange without a reply ends, by the signal about its write. -/
def endOfWrite : Signal → Status
  | .writeFailed => .failed .write
  | _ => .succeeded none

/-- How an exchange with a reply ends, by the signal about the reply. -/
def endOfReply : Signal → Status
  | .replyReceived bytes =>
      if bytes.length ≤ Packet.maxFrameLength then
        match Packet.decode bytes with
        | .ok reply => .succeeded (some reply)
        | .error _ => .failed .read
      else
        .failed .read
  | _ => .failed .read

/-- How an exchange ends by the signals heard so far, if they decide it.
Without a reply, the first signal about the write decides.  With a reply, a
failed write decides when it is the very first signal; otherwise the first
signal about the reply does. -/
def decided : Bool → List Signal → Option Status
  | true, .writeFailed :: _ => some (.failed .write)
  | true, heard => (heard.find? Signal.concernsReply).map endOfReply
  | false, heard => (heard.find? Signal.concernsWrite).map endOfWrite

variable {expectsReply : Bool} {heard : List Signal} {signal : Signal} {status : Status}

@[simp]
theorem decided_nil : decided expectsReply [] = none := by
  cases expectsReply <;> rfl

theorem decided_with_reply (first : heard.head? ≠ some .writeFailed) :
    decided true heard = (heard.find? Signal.concernsReply).map endOfReply := by
  match heard, first with
  | [], _ => rfl
  | .writeComplete :: _, _ | .replyReceived _ :: _, _ | .readFailed :: _, _ => rfl

/-- What has been decided stays decided. -/
theorem decided_append (ended : decided expectsReply heard = some status)
    (more : List Signal) : decided expectsReply (heard ++ more) = some status := by
  cases expectsReply with
  | false =>
      obtain ⟨decisive, found, rfl⟩ := Option.map_eq_some_iff.mp ended
      change Option.map endOfWrite ((heard ++ more).find? Signal.concernsWrite) = _
      rw [List.find?_append, found]
      rfl
  | true =>
      by_cases failedFirst : heard.head? = some .writeFailed
      · obtain ⟨rest, rfl⟩ := List.head?_eq_some_iff.mp failedFirst
        exact ended
      · rw [decided_with_reply failedFirst] at ended
        obtain ⟨decisive, found, rfl⟩ := Option.map_eq_some_iff.mp ended
        have first : (heard ++ more).head? ≠ some .writeFailed := by
          cases heard with
          | nil => contradiction
          | cons earlier rest => exact failedFirst
        rw [decided_with_reply first, List.find?_append, found]
        rfl

/-- While nothing is decided and no reply is expected, the next signal decides
if it is about the write. -/
theorem decided_concat_without_reply (undecided : decided false heard = none)
    (signal : Signal) :
    decided false (heard ++ [signal]) =
      if signal.concernsWrite then some (endOfWrite signal) else none := by
  have nothing : heard.find? Signal.concernsWrite = none := Option.map_eq_none_iff.mp undecided
  change Option.map endOfWrite ((heard ++ [signal]).find? Signal.concernsWrite) = _
  rw [List.find?_append, nothing, Option.none_or, List.find?_singleton]
  cases signal.concernsWrite <;> rfl

/-- While nothing is decided and a reply is expected, a failed write decides
only as the very first signal. -/
theorem decided_concat_with_reply (undecided : decided true heard = none)
    (signal : Signal) (later : heard ≠ [] ∨ signal ≠ .writeFailed) :
    decided true (heard ++ [signal]) =
      if signal.concernsReply then some (endOfReply signal) else none := by
  have first : heard.head? ≠ some .writeFailed := by
    intro failedFirst
    obtain ⟨rest, rfl⟩ := List.head?_eq_some_iff.mp failedFirst
    contradiction
  have stillFirst : (heard ++ [signal]).head? ≠ some .writeFailed := by
    cases heard with
    | nil => simpa using later
    | cons earlier rest => exact first
  have nothing : heard.find? Signal.concernsReply = none := by
    rw [decided_with_reply first] at undecided
    exact Option.map_eq_none_iff.mp undecided
  rw [decided_with_reply stillFirst, List.find?_append, nothing, Option.none_or,
    List.find?_singleton]
  cases signal.concernsReply <;> rfl

end Exchange

namespace Completion.Registers

open Exchange

variable {registers : Registers} {expectsReply : Bool} {heard : List Signal}
  {signal : Signal} {status : Status}

/-- The storage after signals in order. -/
def hear (registers : Registers) (heard : List Signal) : Registers :=
  heard.foldl (fun registers signal => (registers.receive signal).2) registers

theorem hear_append (registers : Registers) (first second : List Signal) :
    registers.hear (first ++ second) = (registers.hear first).hear second :=
  List.foldl_append

theorem hear_concat (registers : Registers) (heard : List Signal) (signal : Signal) :
    registers.hear (heard ++ [signal]) = ((registers.hear heard).receive signal).2 := by
  rw [hear_append]
  rfl

theorem registers_signals (cell : Completion) (heard : List Signal) :
    (cell.signals heard).registers = cell.registers.hear heard := by
  induction heard generalizing cell with
  | nil => rfl
  | cons signal rest ih => exact ih (cell.signal signal).2

/-- Once an exchange is finished, no signal is welcome. -/
theorem receive_of_done (done : registers.phase = .done) (signal : Signal) :
    registers.receive signal = (false, registers) := by
  cases signal <;> simp [receive, awaitsReply, done]

/-- What the storage says of the exchange it was armed for. -/
def verdict (registers : Registers) : Status :=
  (Scheduler.verdict registers.expectsReply registers.outcome
    (registers.reply.read registers.replyLength)).1

/-- The storage has followed an exchange through the signals heard. -/
structure Follows (registers : Registers) (expectsReply : Bool) (heard : List Signal) :
    Prop where
  expects : registers.expectsReply = expectsReply
  phase_of_undecided : decided expectsReply heard = none →
    registers.phase = if expectsReply && !heard.isEmpty then .awaitingReply else .writing
  done_of_decided : ∀ status, decided expectsReply heard = some status →
    registers.phase = .done ∧ registers.verdict = status

namespace Follows

/-- Arming is enough to start an exchange, whatever the storage held. -/
theorem arm (registers : Registers) (expectsReply : Bool) :
    (registers.arm expectsReply).Follows expectsReply [] where
  expects := rfl
  phase_of_undecided := by simp [Registers.arm]
  done_of_decided := by simp

/-- A finished exchange with a verdict that its signals decide. -/
theorem of_done (expects : registers.expectsReply = expectsReply)
    (done : registers.phase = .done)
    (decision : decided expectsReply heard = some registers.verdict) :
    registers.Follows expectsReply heard where
  expects := expects
  phase_of_undecided := by simp [decision]
  done_of_decided := by
    intro status ended
    rw [decision] at ended
    exact ⟨done, Option.some.inj ended⟩

/-- An exchange that still waits. -/
theorem of_waiting (expects : registers.expectsReply = expectsReply)
    (phase : registers.phase =
      if expectsReply && !heard.isEmpty then .awaitingReply else .writing)
    (undecided : decided expectsReply heard = none) :
    registers.Follows expectsReply heard where
  expects := expects
  phase_of_undecided := fun _ => phase
  done_of_decided := by simp [undecided]

/-- After the decision the storage stands still. -/
theorem receive_of_decided (follows : registers.Follows expectsReply heard)
    (ended : decided expectsReply heard = some status) (signal : Signal) :
    registers.receive signal = (false, registers) :=
  receive_of_done (follows.done_of_decided status ended).1 signal

/-- A reply that is not expected is not welcome. -/
theorem receive_unexpected (follows : registers.Follows false heard)
    (reply : signal.concernsReply = true) : registers.receive signal = (false, registers) := by
  have waitsNot : registers.awaitsReply = false := by
    cases decision : decided false heard with
    | none =>
        have writing := follows.phase_of_undecided decision
        simp [awaitsReply, writing, follows.expects]
    | some status =>
        simp [awaitsReply, (follows.done_of_decided status decision).1]
  cases signal with
  | writeComplete | writeFailed => contradiction
  | replyReceived _ | readFailed => simp [receive, waitsNot]

theorem receive_without_reply (follows : registers.Follows false heard)
    (undecided : decided false heard = none) (signal : Signal) :
    (registers.receive signal).2.Follows false (heard ++ [signal]) := by
  have writing : registers.phase = .writing := follows.phase_of_undecided undecided
  have decision := decided_concat_without_reply undecided signal
  cases signal with
  | writeComplete =>
      have received : (registers.receive .writeComplete).2 = registers.finish false false := by
        simp [receive, writing, follows.expects]
      rw [received]
      refine of_done follows.expects rfl (decision.trans ?_)
      simp [Registers.verdict, Scheduler.verdict, finish, outcome, follows.expects,
        Signal.concernsWrite, endOfWrite]
  | writeFailed =>
      have received : (registers.receive .writeFailed).2 = registers.finish true false := by
        simp [receive, writing]
      rw [received]
      exact of_done follows.expects rfl decision
  | replyReceived _ | readFailed =>
      rw [follows.receive_unexpected rfl]
      exact of_waiting follows.expects writing decision

/-- A signal about an expected reply ends the exchange as it says. -/
theorem receive_awaited (follows : registers.Follows true heard)
    (undecided : decided true heard = none) (reply : signal.concernsReply = true) :
    (registers.receive signal).2.Follows true (heard ++ [signal]) := by
  have awaits : registers.awaitsReply = true := by
    have phase := follows.phase_of_undecided undecided
    cases heard <;> simp [awaitsReply, phase, follows.expects]
  cases signal with
  | writeComplete | writeFailed => contradiction
  | readFailed =>
      have decision := decided_concat_with_reply undecided .readFailed (Or.inr (by simp))
      have received : (registers.receive .readFailed).2 = registers.finish false true := by
        simp [receive, awaits]
      rw [received]
      exact of_done follows.expects rfl decision
  | replyReceived bytes =>
      have decision := decided_concat_with_reply undecided (.replyReceived bytes)
        (Or.inr (by simp))
      by_cases fits : bytes.length ≤ Packet.maxFrameLength
      · have received : (registers.receive (.replyReceived bytes)).2 =
            { registers with
              reply := registers.reply.store bytes
              replyLength := bytes.length }.finish false false := by
          simp [receive, awaits, fits]
        rw [received]
        refine of_done follows.expects rfl (decision.trans ?_)
        have readBack := registers.reply.read_store fits
        simp only [Signal.concernsReply, if_true, endOfReply, if_pos fits, Registers.verdict,
          Scheduler.verdict, finish, outcome, follows.expects, readBack]
        cases Packet.decode bytes <;> rfl
      · have received : (registers.receive (.replyReceived bytes)).2 =
            registers.finish false true := by
          simp [receive, awaits, fits]
        rw [received]
        refine of_done follows.expects rfl (decision.trans ?_)
        simp [Signal.concernsReply, endOfReply, fits, Registers.verdict, Scheduler.verdict,
          finish, outcome]

theorem receive_with_reply (follows : registers.Follows true heard)
    (undecided : decided true heard = none) (signal : Signal) :
    (registers.receive signal).2.Follows true (heard ++ [signal]) := by
  have phase := follows.phase_of_undecided undecided
  cases signal with
  | replyReceived _ | readFailed => exact follows.receive_awaited undecided rfl
  | writeComplete =>
      have decision := decided_concat_with_reply undecided .writeComplete (Or.inr (by simp))
      cases heard with
      | nil =>
          have received : (registers.receive .writeComplete).2 =
              { registers with phase := .awaitingReply } := by
            simp [receive, phase, follows.expects]
          rw [received]
          exact of_waiting follows.expects rfl decision
      | cons first rest =>
          have received : (registers.receive .writeComplete).2 = registers := by
            simp [receive, phase]
          rw [received]
          exact of_waiting follows.expects phase decision
  | writeFailed =>
      cases heard with
      | nil =>
          have received : (registers.receive .writeFailed).2 = registers.finish true false := by
            simp [receive, phase]
          rw [received]
          exact of_done follows.expects rfl rfl
      | cons first rest =>
          have decision := decided_concat_with_reply undecided .writeFailed
            (Or.inl (by simp))
          have received : (registers.receive .writeFailed).2 = registers := by
            simp [receive, phase]
          rw [received]
          exact of_waiting follows.expects phase decision

/-- Every signal is followed. -/
theorem receive (follows : registers.Follows expectsReply heard) (signal : Signal) :
    (registers.receive signal).2.Follows expectsReply (heard ++ [signal]) := by
  cases decision : decided expectsReply heard with
  | some status =>
      obtain ⟨done, spoken⟩ := follows.done_of_decided status decision
      rw [follows.receive_of_decided decision]
      apply of_done follows.expects done
      rw [spoken]
      exact decided_append decision [signal]
  | none =>
      cases expectsReply with
      | false => exact follows.receive_without_reply decision signal
      | true => exact follows.receive_with_reply decision signal

/-- Armed for an exchange, the storage follows it through all its signals. -/
theorem hear_arm (registers : Registers) (expectsReply : Bool) (heard : List Signal) :
    ((registers.arm expectsReply).hear heard).Follows expectsReply heard := by
  induction heard using List.reverseRecOn with
  | nil => exact arm registers expectsReply
  | append_singleton earlier signal ih =>
      rw [hear_concat]
      exact ih.receive signal

end Follows

end Completion.Registers

end MapleBus
