import MapleBus.Proofs.Device.Motion
import MapleBus.Proofs.Device.Storing
import MapleBus.Proofs.Device.Vibrating

/-!
# What becomes of cancelled work

Whether cancelled work goes out again depends on where a device keeps it.  A storage
device leaves its request in the mailbox and submits it again.  A vibration pack has taken
the effect out of the mailbox, and a mouse has taken the share of a report out of its
accumulator; both overwrite what they remember, and the work is lost.
-/

namespace MapleBus.Device

open Journal PlayerBus

namespace Mouse

variable {Q W : Type}

/-- The motion of cancelled reports is lost. -/
structure Loses (session : Session (Mouse ⊕ Q) W) : Prop where
  /-- The motion that was cancelled is missing from what the mouse has and reports. -/
  missing : ∃ mouse, session.bus.peripherals.filterMap Sum.getLeft? = [mouse] ∧
    ∀ axis : Axis, axis.Unsaturated session.journal →
      axis.read session.journal - axis.total (dropped isReport session.journal) =
        axis.total (delivered isReport session.journal) + axis.underway session.journal +
          axis.amount mouse.motion
  /-- The report after a cancelled one carries what was read and neither delivered nor
  cancelled. -/
  carries : ∀ sequel ∈ session.journal.sequels isReport, ∀ axis : Axis,
    axis.Unsaturated sequel.earlier →
      axis.carried sequel.tx.packet =
        Saturating.between (-axisRange) axisRange (axis.remaining sequel.earlier)
  /-- It makes up for the cancelled one only where that carried no motion. -/
  resumes_iff : ∀ sequel ∈ session.journal.sequels isReport, ∀ axis : Axis,
    axis.Unsaturated sequel.earlier → -axisRange ≤ axis.remaining sequel.earlier →
      axis.remaining sequel.earlier ≤ axisRange →
        (axis.carried sequel.tx.packet =
            axis.carried sequel.cancelled + axis.remaining sequel.earlier ↔
          axis.carried sequel.cancelled = 0)

variable [Peripheral Q] [Wire W]

theorem loses_after (stationary : Stationary Q) {address : Address} {player : Player}
    {serial : String} {input : Source Snapshot} {timing : Timing}
    {session : Session (Mouse ⊕ Q) W}
    (hosts : Hosts (create address player serial input timing) Fed session)
    (distinct : session.journal.Distinct) : Loses session := by
  have started (occupant : Option Transmission) :
      Books address occupant ([] : Journal (Mouse ⊕ Q))
        (create address player serial input timing) := by
    apply Books.start <;> rfl
  rcases hosts.habit stationary habit_books started (Or.inr distinct) with ⟨mouse, alone, books⟩
  have carries : ∀ sequel ∈ session.journal.sequels isReport, ∀ axis : Axis,
      axis.Unsaturated sequel.earlier →
        axis.carried sequel.tx.packet =
          Saturating.between (-axisRange) axisRange (axis.remaining sequel.earlier) := by
    rintro sequel mem axis unsaturated
    have sound := books.reported.of_sequel mem
    exact sound.1 sequel.device sequel.tx rfl sound.2.1 axis unsaturated
  constructor
  · exists mouse
    constructor
    · exact alone.devices
    · rintro axis unsaturated
      have balance : axis.remaining session.journal =
          axis.underway session.journal + axis.amount mouse.motion :=
        books.balance axis unsaturated
      simp only [Axis.remaining] at balance
      omega
  · exact carries
  · rintro sequel mem axis unsaturated low high
    rw [carries sequel mem axis unsaturated]
    simp only [Saturating.between]
    omega

end Mouse

/-! ## All devices -/

/-- In every run in which no identifier is given twice, a storage device resumes cancelled
requests, a vibration pack forgets cancelled effects, and a mouse loses the motion of
cancelled reports. -/
theorem cancelled_after {Q W : Type} [Peripheral Q] [Wire W] (stationary : Stationary Q) :
    (∀ {storage : Storage} {session : Session (Storage ⊕ Q) W},
        Hosts storage Storage.Served session → storage.inFlight = none →
          session.journal.Distinct → Storage.Resumes session) ∧
      (∀ {pack : Vibration} {session : Session (Vibration ⊕ Q) W},
        Hosts pack Vibration.Driven session → pack.inFlight = none →
          session.journal.Distinct → Vibration.Forgets session) ∧
      ∀ {address : Address} {player : Player} {serial : String}
        {input : Source Mouse.Snapshot} {timing : Timing} {session : Session (Mouse ⊕ Q) W},
        Hosts (Mouse.create address player serial input timing) Mouse.Fed session →
          session.journal.Distinct → Mouse.Loses session := by
  constructor
  · exact fun hosts idle distinct => Storage.resumes_after stationary hosts idle distinct
  constructor
  · exact fun hosts idle distinct => Vibration.forgets_after stationary hosts idle distinct
  · exact fun hosts distinct => Mouse.loses_after stationary hosts distinct

/-! ## Runs -/

/-- A wire that can be made to refuse every frame. -/
structure Gate where
  refusing : Bool := false

instance : Wire Gate where
  transmit wire _ _ :=
    { wire
      signals := []
      result := if wire.refusing then .error .physicalLayerRejected else .ok () }

/-- A storage device that is asked for its media information. -/
def asked : Storage :=
  (Storage.post { address := ⟨0x20⟩, player := {}, definitionWord := 0 } .mediaInfo).2

/-- A vibration pack that is to vibrate. -/
def shaken : Vibration :=
  Vibration.post { address := ⟨0x20⟩, player := {}, definitionWord := 0 } 0 (.lasting 2 10)

/-- A mouse that has been moved by five steps. -/
def moved : Mouse :=
  Mouse.create ⟨0x20⟩ {} "" { state := { motion := { dx := 5 } }, draining := true } {}

/-- What a device sends is refused by the wire and cancelled. -/
def cancelling {D : Type} : List (Occurrence (D ⊕ Recorder) Gate) :=
  [.rewire fun _ => { refusing := true }, .task 0 [], .cancel .everything, .task 1 []]

/-- After that a stop is posted. -/
def stopping : List (Occurrence (Vibration ⊕ Recorder) Gate) :=
  cancelling ++ [.influence (Sum.map (fun pack => pack.post 0 .stop) id), .task 2 []]

/-- A mouse identifies itself, its condition report is cancelled, and another one follows. -/
def moving : List (Occurrence (Mouse ⊕ Recorder) Gate) :=
  [ .task 0 [], .rewire fun _ => { refusing := true }, .task 1 [[.writeComplete]],
    .cancel .everything, .task 20000 [] ]

/-- In these runs each device sends something after the cancelled transmission. -/
theorem cancelled_cancelling :
    let storing := (Session.opened (bare {} [asked])).after cancelling
    let driving := (Session.opened (bare {} [shaken])).after stopping
    let shifting := (Session.opened (bare {} [moved])).after moving
    ((storing.journal.sequels anything).length = 1 ∧ Storage.Resumes storing) ∧
      ((driving.journal.sequels anything).length = 1 ∧ Vibration.Forgets driving) ∧
        (shifting.journal.sequels Mouse.isReport).length = 1 ∧ Mouse.Loses shifting := by
  intro storing driving shifting
  rcases cancelled_after (W := Gate) steadfast_recorder.stationary with
    ⟨resumes, forgets, loses⟩
  constructor
  · have hosts : Hosts asked Storage.Served storing := by
      apply hosts_bare rfl
      · simp [cancelling]
      · decide +kernel
    have distinct : storing.journal.Distinct := by
      decide +kernel
    have length : (storing.journal.sequels anything).length = 1 := by
      decide +kernel
    exact ⟨length, resumes hosts rfl distinct⟩
  constructor
  · have hosts : Hosts shaken Vibration.Driven driving := by
      apply hosts_bare rfl
      · rintro change mem
        simp only [stopping, cancelling, List.cons_append, List.nil_append, List.mem_cons,
          Occurrence.influence.injEq, reduceCtorEq, false_or, or_false, List.not_mem_nil] at mem
        subst mem
        constructor
        · exact fun pack => ⟨pack.post 0 .stop, rfl, .posted pack 0 .stop⟩
        · exact fun other => ⟨other, rfl, rfl⟩
      · decide +kernel
    have distinct : driving.journal.Distinct := by
      decide +kernel
    have length : (driving.journal.sequels anything).length = 1 := by
      decide +kernel
    exact ⟨length, forgets hosts rfl distinct⟩
  · have hosts : Hosts moved Mouse.Fed shifting := by
      apply hosts_bare rfl
      · simp [moving]
      · decide +kernel
    have distinct : shifting.journal.Distinct := by
      decide +kernel
    have length : (shifting.journal.sequels Mouse.isReport).length = 1 := by
      decide +kernel
    exact ⟨length, loses hosts distinct⟩

/-- The report of the mouse that follows the cancelled one does not make up for it. -/
theorem not_resumed_moving :
    ¬ ∀ sequel ∈ ((Session.opened (bare {} [moved])).after moving).journal.sequels Mouse.isReport,
      Mouse.Axis.x.carried sequel.cancelled + Mouse.Axis.x.remaining sequel.earlier ≤
          Mouse.axisRange →
        Mouse.Axis.x.carried sequel.tx.packet =
          Mouse.Axis.x.carried sequel.cancelled + Mouse.Axis.x.remaining sequel.earlier := by
  decide +kernel

end MapleBus.Device
