import MapleBus.Bench.ScriptedWire
import MapleBus.Proofs.Scheduler.Lifespan
import MapleBus.Proofs.Scheduler.Outcome

/-!
# An attempt that the wire refuses

The cell is armed before a frame is handed to the wire, so a wire that refuses may have
raised any signals before it does.  Whatever they were, nothing of the attempt remains: the
transmission waits as before, the cell takes no signal until the next attempt, and the
attempt that succeeds, after any number of refused ones, sends the same frame and ends by
the signals raised from then on.
-/

namespace MapleBus.Scheduler

open Exchange

variable {scheduler : Scheduler} {handle : Handle} {tx : Transmission} {operation : Operation}
  {operations : List Operation}

/-! ## A cell without an exchange -/

/-- Whether an operation may hand a frame to a wire. -/
def Operation.isDispatch : Operation → Bool
  | @Operation.dispatch _ _ _ => true
  | _ => false

/-- A cell without an exchange is not armed, and takes no signal. -/
theorem refuses_of_idle (idle : scheduler.completion.phase = .idle) :
    scheduler.completion.askArmed.1 = false ∧
      ∀ signal, (scheduler.signal signal).1 = false ∧
        (scheduler.signal signal).2.completion.registers = scheduler.completion.registers := by
  constructor
  · change scheduler.completion.phase.isArmed = false
    rw [idle]
    rfl
  · intro signal
    have refused : (scheduler.completion.registers.receive signal).1 = false := by
      rw [← Bool.not_eq_true]
      intro accepted
      exact Completion.Registers.phase_ne_idle_of_receive accepted idle
    exact ⟨refused, Completion.Registers.receive_of_refused refused⟩

/-- Only a dispatch starts an exchange. -/
theorem idle_perform (idle : scheduler.completion.phase = .idle)
    (rests : operation.isDispatch = false) :
    (scheduler.perform operation).value.completion.phase = .idle := by
  cases operation with
  | dispatch _ => contradiction
  | schedule packet expectsReply =>
      rw [perform, Logged.value_map, completion_schedule]
      exact idle
  | service =>
      have waiting : scheduler.completion.phase ≠ .done := by simp [idle]
      obtain ⟨lock, served⟩ := service_of_waiting waiting
      rw [perform, served]
      exact idle
  | nextEvent =>
      rw [perform, nextEvent_eq]
      exact idle
  | release other =>
      rcases release_cases scheduler other with ⟨_, -, -, released⟩ | ⟨-, kept⟩
      · rw [perform, released]
        exact idle
      · rw [perform, kept]
        exact idle
  | signal signal => exact (Completion.phase_signal_eq_idle_iff _ signal).mpr idle
  | cancel _ | cancelByRecipient _ | cancelAll | askArmed => exact idle

theorem idle_after (idle : scheduler.completion.phase = .idle)
    (rest : ∀ operation ∈ operations, operation.isDispatch = false) :
    (scheduler.after operations).completion.phase = .idle := by
  induction operations generalizing scheduler with
  | nil => exact idle
  | cons operation others ih =>
      obtain ⟨first, later⟩ := List.forall_mem_cons.mp rest
      exact ih (idle_perform idle first) later

/-! ## A transmission that waits -/

/-- Whether a wire takes a pending transmission that an operation hands to it. -/
def Operation.takes : Operation → Transmission → Bool
  | @Operation.dispatch _ _ wire, tx => (offer wire tx).result.isOk
  | _, _ => false

/-- An operation leaves a pending transmission where it is: it does not drop it, and no
wire takes it. -/
def Operation.Spares (operation : Operation) (tx : Transmission) : Prop :=
  operation.withdraws tx = false ∧ operation.takes tx = false

theorem fate_of_spares (pending : tx.status = .pending) (spares : operation.Spares tx) :
    scheduler.fate handle tx operation = some tx := by
  obtain ⟨kept, untaken⟩ := spares
  cases operation with
  | dispatch wire =>
      rw [Operation.takes] at untaken
      rw [fate, untaken, Bool.and_false]
      rfl
  | service | release _ => simp [fate, pending, Status.isSent, Status.isTerminal]
  | cancel _ | cancelByRecipient _ | cancelAll => simp [fate, kept]
  | schedule _ _ | nextEvent | signal _ | askArmed => rfl

/-- Over operations that leave it where it is, a pending transmission waits. -/
theorem get?_after_of_spares (inStep : scheduler.InStep)
    (found : scheduler.get? handle = some tx) (pending : tx.status = .pending)
    (spares : ∀ operation ∈ operations, operation.Spares tx) :
    (scheduler.after operations).InStep ∧
      (scheduler.after operations).get? handle = some tx := by
  induction operations generalizing scheduler with
  | nil => exact ⟨inStep, found⟩
  | cons operation others ih =>
      obtain ⟨first, later⟩ := List.forall_mem_cons.mp spares
      have stays := get?_perform inStep found operation
      rw [fate_of_spares pending first] at stays
      exact ih (inStep.perform operation) stays later

/-! ## The attempt -/

/-- What a refused attempt to send a pending transmission comes to. -/
structure Undone {W : Type} [Wire W] (scheduler : Scheduler) (wire : W) (handle : Handle)
    (tx : Transmission) : Prop where
  /-- The wire met the frame, and nothing went out. -/
  nothing_sent : (scheduler.dispatch wire).value.1 = none ∧
    (scheduler.dispatch wire).value.2.2 =
      (Wire.transmit wire tx.packet.encode tx.expectsReply).wire
  /-- Table, events, counters and identifiers are as they were. -/
  unchanged : (scheduler.dispatch wire).value.2.1 =
    { scheduler with completion := (scheduler.dispatch wire).value.2.1.completion }
  /-- Until the next dispatch, whatever else is done, the cell is not armed and takes no
  signal. -/
  deaf : ∀ others : List Operation,
    (∀ operation ∈ others, operation.isDispatch = false) →
      let current := (scheduler.dispatch wire).value.2.1.after others
      current.completion.askArmed.1 = false ∧
        ∀ signal, (current.signal signal).1 = false ∧
          (current.signal signal).2.completion.registers = current.completion.registers
  /-- The next wire that takes the transmission, after any refused attempts, meets the same
  frame, and what comes of it is what the signals raised from then on decide. -/
  sent_again : ∀ meanwhile : List Operation,
    (∀ operation ∈ meanwhile, operation.Spares tx) →
      ∀ {V : Type} [Wire V] (next : V), (offer next tx).result = .ok () →
        let sent := ((scheduler.dispatch wire).value.2.1.after meanwhile).dispatch next
        sent.value.1 = some handle ∧
          sent.value.2.2 = (Wire.transmit next tx.packet.encode tx.expectsReply).wire ∧
          ∀ later, sent.value.2.1.StaysOpen handle later →
            let own := (offer next tx).signals ++ later.flatMap Operation.signals
            (sent.value.2.1.after later).service.value.get? handle =
              some { tx with status := (decided tx.expectsReply own).getD .sent }

/-- A pending transmission that a wire takes goes out. -/
theorem dispatched_of_acceptance {W : Type} [Wire W] {wire : W} (inStep : scheduler.InStep)
    (found : scheduler.get? handle = some tx) (pending : tx.status = .pending)
    (accepted : (offer wire tx).result = .ok ()) :
    (scheduler.dispatch wire).value.1 = some handle ∧
      (scheduler.dispatch wire).value.2.2 =
        (Wire.transmit wire tx.packet.encode tx.expectsReply).wire := by
  rw [dispatch_of_acceptance (inStep.find?_pending_of_known found pending) accepted]
  exact ⟨rfl, rfl⟩

/-- After every run, an attempt to send a pending transmission that the wire refuses comes
to nothing, whatever signals were raised in it. -/
theorem undone_after {W : Type} [Wire W] (before : List Operation) (wire : W)
    (handle : Handle) (tx : Transmission) (refusal : BusError)
    (found : (Scheduler.after {} before).get? handle = some tx)
    (pending : tx.status = .pending) (refused : (offer wire tx).result = .error refusal) :
    (Scheduler.after {} before).Undone wire handle tx := by
  have inStep := InStep.after before
  generalize Scheduler.after {} before = scheduler at inStep found ⊢
  have attempt := dispatch_of_refusal (inStep.find?_pending_of_known found pending) refused
  have afterwards : (scheduler.dispatch wire).value.2.1.InStep := inStep.dispatch wire
  have remains : (scheduler.dispatch wire).value.2.1.get? handle = some tx := by
    rw [attempt]
    exact found
  have idle : (scheduler.dispatch wire).value.2.1.completion.phase = .idle := by
    rw [attempt]
    exact Completion.phase_disarm _
  constructor
  · rw [attempt]
    exact ⟨rfl, rfl⟩
  · rw [attempt]
  · intro others rest
    exact refuses_of_idle (idle_after idle rest)
  · intro meanwhile spares V _ next accepted
    obtain ⟨current, waits⟩ := get?_after_of_spares afterwards remains pending spares
    obtain ⟨dispatched, met⟩ := dispatched_of_acceptance current waits pending accepted
    refine ⟨dispatched, met, ?_⟩
    intro later stays
    exact ((Aloft.of_dispatch current waits dispatched).after stays).get?_service

/-- A wire that answers every frame and refuses it nevertheless. -/
def fickle : Bench.ScriptedWire where
  fallback := .reply query.encode
  rejectingLate := true

/-- The query that is refused. -/
def refusedQuery : Transmission where
  id := 1
  packet := query
  expectsReply := true

/-- What happens between the first refusal and the attempt that succeeds: the query is
refused again, and a late signal arrives. -/
def refusedAgain : List Operation :=
  [.service, .dispatch fickle, .signal .writeComplete, .schedule query false]

/-- The reply that came with the refusals is not taken for the reply to the attempt that
succeeded, which fails for want of one. -/
theorem undone_answeredAndRefused :
    (offer fickle refusedQuery).signals = [.writeComplete, .replyReceived query.encode] ∧
      (((((Scheduler.after {} [.schedule query true]).dispatch fickle).value.2.1.after
        refusedAgain).dispatch PromptWire.mk).value.2.1.after
          [.signal .readFailed]).service.value.get? ⟨0, 1⟩ =
        some { refusedQuery with status := .failed .read } := by
  have undone := undone_after [.schedule query true] fickle ⟨0, 1⟩ refusedQuery
    .physicalLayerRejected (by decide +kernel) rfl rfl
  have spares : ∀ operation ∈ refusedAgain, operation.Spares refusedQuery := by
    simp only [refusedAgain, List.forall_mem_cons, List.not_mem_nil, false_implies,
      implies_true, and_true]
    exact ⟨⟨rfl, rfl⟩, ⟨rfl, rfl⟩, ⟨rfl, rfl⟩, ⟨rfl, rfl⟩⟩
  obtain ⟨-, -, ends⟩ := undone.sent_again refusedAgain spares PromptWire.mk rfl
  refine ⟨rfl, ends [.signal .readFailed] ?_⟩
  intro earlier initial
  have settles : earlier = [] := by
    rcases earlier with _ | ⟨first, rest⟩
    · rfl
    · simp at initial
  rw [settles]
  decide +kernel

end MapleBus.Scheduler
