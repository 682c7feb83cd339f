import MapleBus.Proofs.Device.Books

/-!
# Motion is conserved

On a bus with a mouse and any other peripherals, whatever the wire does and whenever
signals arrive, no motion is lost as long as the mouse stays plugged in, no condition
report of it is cancelled and its accumulator does not saturate.
-/

namespace MapleBus.Device.Mouse

open Journal PlayerBus

variable {Q W : Type} {address : Address}

/-- Nothing but snapshots reaches a mouse from outside. -/
def Fed (mouse later : Mouse) : Prop :=
  ∃ source, later = { mouse with source }

/-- Everything that happens around a mouse keeps its books. -/
theorem habit_books :
    Habit address Fed (Clear isReport) (fun occupant (journal : Journal (Mouse ⊕ Q)) mouse =>
      Books address occupant journal mouse) where
  before suffix clear := clear.of_suffix suffix
  here books := books.here
  foreign books foreign := books.foreign foreign
  accept other books _ clear := books.accept_other other clear
  cancel books _ := books.cancel
  send books _ := books.send .sent
  start books _ _ := by
    apply books.aside
    · exact ⟨rfl, rfl, rfl, rfl, rfl, by rintro _ _ ⟨⟩⟩
    · exact books.custody.neutral trivial
  lose books _ _ elsewhere := books.lose (books.custody.idle_of_elsewhere elsewhere) _
  conclude books _ terminal _ := books.conclude terminal
  work {desk mouse} now books tidy := by
    rintro ran clear
    have began : (desk.write (.began (.inl mouse))).scheduler.Tidy := tidy
    rcases mouse.play_task now (Sum.inl mouse) began with ⟨-, ended, cycle, result⟩
    have collected : Books address (desk.write (.began (.inl mouse))).scheduler.occupant?
        (desk.write (.began (.inl mouse))).journal mouse.collected :=
      books.collect
    have parted := collected.turn cycle clear
    rw [← result] at parted
    exact parted
  influence books fed := by
    rcases fed with ⟨source, rfl⟩
    exact books.frame rfl

variable [Peripheral Q] [Wire W]

/-- After every run of a bus with a mouse on it no condition report of which was
cancelled, all condition reports that went out are in range, and on each axis what was
read is what was delivered, what is under way and what the mouse holds back, unless its
accumulator saturated. -/
theorem motion_after (stationary : Stationary Q) {player : Player} {serial : String}
    {input : Source Snapshot} {timing : Timing} {session : Session (Mouse ⊕ Q) W}
    (hosts : Hosts (create address player serial input timing) Fed session)
    (undisturbed : dropped isReport session.journal = []) :
    ∃ mouse, session.bus.peripherals.filterMap Sum.getLeft? = [mouse] ∧
      (∀ packet ∈ transmitted isReport session.journal, IsCondition packet) ∧
      ∀ axis : Axis, axis.apart mouse = axis.underway session.journal ∧
        (axis.Unsaturated session.journal →
          axis.read session.journal =
            axis.total (delivered isReport session.journal) + axis.underway session.journal +
              axis.amount mouse.motion) := by
  have started (occupant : Option Transmission) :
      Books address occupant ([] : Journal (Mouse ⊕ Q))
        (create address player serial input timing) := by
    apply Books.start <;> rfl
  have clear : Clear isReport session.journal := Or.inl undisturbed
  rcases hosts.habit stationary habit_books started clear with ⟨mouse, alone, books⟩
  exists mouse
  constructor
  · exact alone.devices
  constructor
  · exact books.transmitted
  intro axis
  constructor
  · exact books.apart_eq undisturbed axis
  · rintro unsaturated
    have balance : axis.remaining session.journal =
        axis.underway session.journal + axis.amount mouse.motion :=
      books.balance axis unsaturated
    have nothing : axis.total (dropped isReport session.journal) = 0 := by
      rw [undisturbed]
      rfl
    simp only [Axis.remaining, nothing] at balance
    omega

/-- A mouse that has been moved further than a report can tell. -/
def swept : Mouse :=
  create ⟨0x20⟩ {} "" { state := { motion := { dx := 700, wheel := -3 } }, draining := true } {}

/-- The mouse identifies itself, its first condition report fails, the second one succeeds
and the third one goes out. -/
def sweeping : List (Occurrence (Mouse ⊕ Recorder) SilentWire) :=
  [ .task 0 [], .task 1 [[.writeComplete]], .task 2 [[.writeFailed]],
    .task 3 [[.writeComplete]], .task 20000 [] ]

/-- Of a motion of 700 steps, 511 were delivered and 189 are under way. -/
theorem motion_sweeping :
    let session := (Session.opened (bare {} [swept])).after sweeping
    Hosts swept Fed session ∧ dropped isReport session.journal = [] ∧
      Axis.x.total (delivered isReport session.journal) = 511 ∧
      Axis.x.underway session.journal = 189 ∧ Axis.x.read session.journal = 511 + 189 := by
  intro session
  have hosts : Hosts swept Fed session := by
    apply hosts_bare rfl
    · simp [sweeping]
    · decide +kernel
  have undisturbed : dropped isReport session.journal = [] := by
    decide +kernel
  have delivered : Axis.x.total (delivered isReport session.journal) = 511 := by
    decide +kernel
  have underway : Axis.x.underway session.journal = 189 := by
    decide +kernel
  have unsaturated : Axis.x.Unsaturated session.journal := by
    decide +kernel
  have resting : (session.bus.peripherals.filterMap Sum.getLeft?).map Mouse.motion = [{}] := by
    decide +kernel
  rcases motion_after steadfast_recorder.stationary hosts undisturbed with
    ⟨mouse, mice, -, balance⟩
  rw [mice] at resting
  have rests : mouse.motion = {} := List.singleton_inj.mp resting
  have read := (balance .x).2 unsaturated
  rw [delivered, underway, rests] at read
  exact ⟨hosts, undisturbed, delivered, underway, read⟩

end MapleBus.Device.Mouse
