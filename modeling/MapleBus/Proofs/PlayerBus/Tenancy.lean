import MapleBus.Proofs.PlayerBus.Plain

/-!
# Histories of a bus

A history is a list of happenings in any order: peripherals come and go, cycles
run, the wire reports, and wire and peripherals change from outside.  It is
followed on a bus whose peripherals keep diaries; the diaries of those that
left are kept as well.
-/

namespace MapleBus.PlayerBus

variable {P W : Type} [Peripheral P]

/-- Anything that can happen to a bus. -/
inductive Happening (P W : Type) [Peripheral P] where
  | attach (peripheral : P)
  | detach (address : Address)
  | handle (event : PlugEvent P)
  | task (now : UInt64)
  | signal (signal : Signal)
  /-- The wire is changed from outside. -/
  | rewire (change : W → W)
  /-- The peripherals are changed from outside, and keep their addresses. -/
  | influence (change : P → P)
      (steady : ∀ peripheral, Peripheral.address (change peripheral) =
        Peripheral.address peripheral)

/-! ## The plain bus -/

/-- The bus that an attempt to plug in leaves behind. -/
def orSame (bus : PlayerBus P W) (result : Except PeripheralError (PlayerBus P W)) :
    PlayerBus P W :=
  match result with
  | .ok next => next
  | .error _ => bus

section Plain

variable [Wire W]

/-- A bus after a happening. -/
def occur (bus : PlayerBus P W) : Happening P W → PlayerBus P W
  | .attach peripheral => bus.orSame (bus.attach peripheral).value
  | .detach address => bus.orSame ((bus.detach address).value.map Prod.snd)
  | .handle event => bus.orSame ((bus.handle event).value.map Prod.snd)
  | .task now => (bus.task now).value
  | .signal signal => { bus with scheduler := (bus.scheduler.signal signal).2 }
  | .rewire change => { bus with wire := change bus.wire }
  | .influence change _ => { bus with peripherals := bus.peripherals.map change }

/-- A bus after a history. -/
def after (bus : PlayerBus P W) : List (Happening P W) → PlayerBus P W
  | [] => bus
  | happening :: rest => (bus.occur happening).after rest

end Plain

/-! ## The bus with diaries -/

/-- A bus whose peripherals keep diaries, and those that were unplugged from
it. -/
structure Tenancy (P W : Type) where
  bus : PlayerBus (Diarist P) W
  departed : List (Diarist P) := []

/-- An exchange on the wire is displaced when the peripheral at its recipient's
address was never told that it started: the one that submitted it is gone, and
this one was plugged in since. -/
def Displaced (bus : PlayerBus (Diarist P) W) : Prop :=
  ∃ handle tx, bus.scheduler.table.find? (fun tx => tx.status.isSent) = some (handle, tx) ∧
    ∃ diarist ∈ bus.peripherals, Peripheral.address diarist = tx.recipient ∧
      .started tx ∉ diarist.diary

theorem displaced_iff {bus : PlayerBus (Diarist P) W} {handle : Handle} {tx : Transmission}
    (found : bus.scheduler.table.find? (fun tx => tx.status.isSent) = some (handle, tx)) :
    bus.Displaced ↔
      ∃ diarist ∈ bus.peripherals, Peripheral.address diarist = tx.recipient ∧
        .started tx ∉ diarist.diary := by
  constructor
  · rintro ⟨other, otherTx, otherFound, displaced⟩
    rw [found] at otherFound
    cases otherFound
    exact displaced
  · intro displaced
    exact ⟨handle, tx, found, displaced⟩

instance (bus : PlayerBus (Diarist P) W) : Decidable bus.Displaced :=
  match found : bus.scheduler.table.find? (fun tx => tx.status.isSent) with
  | none => isFalse (by simp [Displaced, found])
  | some (_, _) => decidable_of_iff _ (displaced_iff found).symm

namespace Tenancy

/-- Everybody on a bus starts a blank diary. -/
def opened (bus : PlayerBus P W) : Tenancy P W where
  bus := { bus with peripherals := bus.peripherals.map fun peripheral => { peripheral } }

theorem plain_opened {P W : Type} (bus : PlayerBus P W) : (opened bus).bus.plain = bus := by
  simp [opened, plain, plainly, Function.comp_def]

/-- Everybody who is or was plugged in. -/
def everyone (tenancy : Tenancy P W) : List (Diarist P) :=
  tenancy.bus.peripherals ++ tenancy.departed

/-- The result of plugging in or out.  What is refused changes nothing. -/
def plug (tenancy : Tenancy P W)
    (result : Except PeripheralError (List (Diarist P) × PlayerBus (Diarist P) W)) :
    Tenancy P W :=
  match result with
  | .ok (removed, bus) => { bus, departed := tenancy.departed ++ removed }
  | .error _ => tenancy

section Run

variable [Wire W]

/-- The bus and its peripherals after a happening. -/
def occur (tenancy : Tenancy P W) : Happening P W → Tenancy P W
  | .attach peripheral =>
      tenancy.plug ((tenancy.bus.attach { peripheral }).value.map fun bus => ([], bus))
  | .detach address => tenancy.plug (tenancy.bus.detach address).value
  | .handle event => tenancy.plug (tenancy.bus.handle (blank event)).value
  | .task now => { tenancy with bus := (tenancy.bus.task now).value }
  | .signal signal =>
      { tenancy with
        bus :=
          { tenancy.bus with scheduler := (tenancy.bus.scheduler.signal signal).2 } }
  | .rewire change =>
      { tenancy with bus := { tenancy.bus with wire := change tenancy.bus.wire } }
  | .influence change _ =>
      { tenancy with
        bus :=
          { tenancy.bus with
            peripherals := tenancy.bus.peripherals.map fun diarist =>
              { diarist with peripheral := change diarist.peripheral } } }

/-- The bus and its peripherals after a history. -/
def after (tenancy : Tenancy P W) : List (Happening P W) → Tenancy P W
  | [] => tenancy
  | happening :: rest => (tenancy.occur happening).after rest

/-- A cycle that is going to settle a displaced exchange. -/
def Displaces (tenancy : Tenancy P W) : Happening P W → Prop
  | .task _ =>
      tenancy.bus.scheduler.completion.phase = .done ∧ tenancy.bus.Displaced
  | _ => False

instance (tenancy : Tenancy P W) : DecidablePred tenancy.Displaces
  | .task _ =>
      inferInstanceAs (Decidable
        (tenancy.bus.scheduler.completion.phase = .done ∧ tenancy.bus.Displaced))
  | .attach _ | .detach _ | .handle _ | .signal _ | .rewire _ | .influence _ _ =>
      inferInstanceAs (Decidable False)

/-- No cycle of a history settles a displaced exchange. -/
def NeverDisplaces (tenancy : Tenancy P W) : List (Happening P W) → Prop
  | [] => True
  | happening :: rest =>
      ¬ tenancy.Displaces happening ∧ (tenancy.occur happening).NeverDisplaces rest

instance decidableNeverDisplaces (tenancy : Tenancy P W) :
    DecidablePred tenancy.NeverDisplaces
  | [] => inferInstanceAs (Decidable True)
  | happening :: rest =>
      have := decidableNeverDisplaces (tenancy.occur happening) rest
      inferInstanceAs (Decidable
        (¬ tenancy.Displaces happening ∧ (tenancy.occur happening).NeverDisplaces rest))

/-- The diaries do not influence what happens. -/
theorem plain_occur (tenancy : Tenancy P W) (happening : Happening P W) :
    (tenancy.occur happening).bus.plain = tenancy.bus.plain.occur happening := by
  cases happening with
  | attach peripheral =>
      have same := attach_plain tenancy.bus { peripheral }
      simp only [occur, PlayerBus.occur, same]
      cases (tenancy.bus.attach { peripheral }).value <;> rfl
  | detach address =>
      have same := detach_plain tenancy.bus address
      simp only [occur, PlayerBus.occur, same]
      cases (tenancy.bus.detach address).value <;> rfl
  | handle event =>
      have same := handle_plain tenancy.bus event
      simp only [occur, PlayerBus.occur, same]
      cases (tenancy.bus.handle (blank event)).value <;> rfl
  | task now =>
      rw [occur, PlayerBus.occur, task_plain]
  | signal signal => rfl
  | rewire change => rfl
  | influence change steady =>
      simp only [occur, PlayerBus.occur, plain, plainly, List.map_map]
      rfl

theorem plain_after (tenancy : Tenancy P W) (happenings : List (Happening P W)) :
    (tenancy.after happenings).bus.plain = tenancy.bus.plain.after happenings := by
  induction happenings generalizing tenancy with
  | nil => rfl
  | cons happening rest ih =>
      rw [after, ih, plain_occur]
      rfl

end Run

end Tenancy

end MapleBus.PlayerBus
