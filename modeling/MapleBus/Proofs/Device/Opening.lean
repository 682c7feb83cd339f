import MapleBus.Proofs.Device.Driving

/-!
# The first transmission of a vibration pack

A pack that was not driven yet sends a stop in the first cycle in which it finds the bus free,
unless an effect is due by then.  The effect goes out instead, and the stop is forgotten.  So
a pack starts from rest if no effect was due when its first transmission was accepted, and
otherwise it starts with that effect.
-/

namespace MapleBus

open Journal

/-! ## First transmissions -/

namespace Tale

variable {D Q C : Type}

/-- The transmission of the device that was accepted first, and what was told before. -/
def first? : Tale D Q C → Option (Transmission × Tale D Q C)
  | [] => none
  | .entry (.accepted (.inl _) tx) :: earlier => (first? earlier).or (some (tx, earlier))
  | _ :: earlier => first? earlier

variable {tale earlier : Tale D Q C} {record : Record D Q C} {tx : Transmission}

/-- Before the first transmission there was none. -/
theorem first?_eq_some (isFirst : tale.first? = some (tx, earlier)) :
    earlier.first? = none ∧
      ∃ device, .entry (.accepted (.inl device) tx) :: earlier <:+ tale := by
  fun_induction first? tale with
  | case1 => contradiction
  | case2 device accepted before ih =>
      cases unsent : first? before with
      | none =>
          rw [unsent] at isFirst
          cases isFirst
          exact ⟨unsent, device, List.suffix_rfl⟩
      | some first =>
          rw [unsent] at isFirst
          rcases ih (unsent.trans isFirst) with ⟨none, device, suffix⟩
          exact ⟨none, device, suffix.trans (List.suffix_cons _ _)⟩
  | case3 other before _ ih =>
      rcases ih isFirst with ⟨none, device, suffix⟩
      exact ⟨none, device, suffix.trans (List.suffix_cons _ _)⟩

theorem first?_cons_eq_none_iff :
    first? (record :: tale) = none ↔
      first? tale = none ∧ ∀ device tx, record ≠ .entry (.accepted (.inl device) tx) := by
  cases record with
  | called device call => simp [first?]
  | entry entry =>
      cases entry with
      | accepted author tx => cases author <;> simp [first?]
      | _ => simp [first?]

/-- Without a transmission, none is under way. -/
theorem underway?_of_unsent (unsent : tale.first? = none) :
    underway? anything tale.journal = none := by
  induction tale with
  | nil => rfl
  | cons record before ih =>
      rcases first?_cons_eq_none_iff.mp unsent with ⟨none, apart⟩
      cases record with
      | called device call => exact ih none
      | entry entry =>
          cases entry with
          | accepted author tx =>
              cases author with
              | inl device => exact absurd rfl (apart device tx)
              | inr other => rfl
          | settled tx | cancelled tx => rfl
          | _ => exact ih none

/-- Without a transmission, none is cancelled. -/
theorem dropped_of_unsent (unsent : tale.first? = none) : dropped anything tale.journal = [] := by
  induction tale with
  | nil => rfl
  | cons record before ih =>
      have none := (first?_cons_eq_none_iff.mp unsent).1
      cases record with
      | called device call => exact ih none
      | entry entry =>
          change dropped anything (entry :: journal before) = []
          rw [dropped, passed_cons_of_idle (underway?_of_unsent none)]
          exact ih none

end Tale

namespace Device.Vibration

open PlayerBus

variable {Q W : Type}

/-! ## The first effect -/

/-- The first transmission is a stop. -/
def StartsFromRest (tale : Tale Vibration Q Call) : Prop :=
  ∀ first ∈ tale.first?, Carries first.1 .stop

section Steps

variable {origin pack : Vibration} {tale : Tale Vibration Q Call} {effect other : Effect}
  {tx : Transmission} {now : UInt64}

instance (tx : Transmission) (effect : Effect) : Decidable (Carries tx effect) :=
  inferInstanceAs (Decidable (_ ∧ _))

instance (tale : Tale Vibration Q Call) : Decidable (StartsFromRest tale) :=
  inferInstanceAs (Decidable (∀ first ∈ tale.first?, _))

theorem Carries.iff (carries : Carries tx effect) :
    Carries tx other ↔ effect.word = other.word := by
  rw [Carries, carries.2, and_iff_right carries.1]
  simp

/-- Nothing is driven before the first transmission. -/
theorem drive?_of_unsent (unsent : tale.first? = none) : drive? origin tale = none := by
  induction tale with
  | nil => rfl
  | cons record before ih =>
      rcases Tale.first?_cons_eq_none_iff.mp unsent with ⟨none, apart⟩
      have idle := ih none
      cases record with
      | called device call =>
          cases call with
          | queue time effect => rw [drive?, idle, Option.map_none]
          | takeFault => exact idle
      | entry entry =>
          rw [drive?_entry fun author tx is => apart author tx (congrArg Record.entry is), idle]
          split <;> rfl

/-- With nothing to repeat, a transmission carries the effect that is due, or a stop. -/
theorem Chosen.carries_of_unsent (chosen : Chosen origin tale tx) (unsent : tale.first? = none) :
    Carries tx ((due? origin tale).getD .stop) := by
  cases chosen with
  | due now time effect clock waits reached carries =>
      have isDue : due? origin tale = some effect :=
        dueAt?_eq_some_iff.mpr ⟨now, time, clock, waits, reached⟩
      rw [isDue]
      exact carries
  | again drive driven =>
      rw [drive?_of_unsent unsent] at driven
      contradiction
  | first nothing early carries =>
      rw [early]
      exact carries

/-- A pack starts from rest unless an effect is due first that has another word. -/
theorem startsFromRest_iff_of_carries
    (carries : ∀ tx earlier, tale.first? = some (tx, earlier) →
      Carries tx ((due? origin earlier).getD .stop)) :
    StartsFromRest tale ↔
      ∀ tx earlier effect, tale.first? = some (tx, earlier) →
        due? origin earlier = some effect → effect.word = Effect.stop.word := by
  constructor
  · rintro rests tx earlier effect isFirst isDue
    have carried := carries tx earlier isFirst
    rw [isDue] at carried
    exact carried.iff.mp (rests (tx, earlier) isFirst)
  · rintro same ⟨tx, earlier⟩ isFirst
    have carried := carries tx earlier isFirst
    cases isDue : due? origin earlier with
    | none =>
        rw [isDue] at carried
        exact carried
    | some effect =>
        rw [isDue] at carried
        exact carried.iff.mpr (same tx earlier effect isFirst isDue)

/-- A pack that has transmitted nothing has the effect to send that is due, or a stop. -/
theorem Keeps.next?_of_unsent (keeps : Keeps origin tale pack) (unsent : tale.first? = none)
    (idle : tale.flying? = none) (now : UInt64) :
    pack.supersede.next? now = some ((pack.mailbox.due? now).getD .stop) := by
  have nothing : drive? origin tale = none := drive?_of_unsent unsent
  have fresh : pack.first = true := by
    rw [keeps.first, nothing]
    rfl
  have quiet : pack.retry = none := by
    rw [Option.eq_none_iff_forall_ne_some]
    rintro effect again
    rcases keeps.repeated effect idle again with ⟨drive, driven, -⟩
    rw [nothing] at driven
    contradiction
  have unrepeated : pack.supersede.retry = none := by
    rcases pack.supersede_cases with same | same <;> rw [same]
    exact quiet
  rw [next?, mailbox_supersede, unrepeated, first_supersede, fresh]
  cases pack.mailbox.due? now <;> rfl

/-- A pack that has transmitted nothing submits the effect that is due, or a stop, as soon as
it finds the bus free. -/
theorem submits_of_unsent {address : Address} {occupant : Option Transmission}
    (attends : follower.Attends (Keeps origin) address occupant tale pack)
    (unsent : tale.first? = none) (now : UInt64) (author : Vibration ⊕ Q)
    {desk : Desk (Vibration ⊕ Q)} (tidy : desk.scheduler.Tidy)
    (free : desk.scheduler.occupant? = none) :
    ∃ tx, ((Peripheral.task pack now).play author desk).2.journal =
        .accepted author tx :: desk.journal ∧
      Carries tx ((pack.mailbox.due? now).getD .stop) := by
  have idle : tale.flying? = none := attends.flying.trans (Tale.underway?_of_unsent unsent)
  have nothing := attends.held_eq_none idle (Tale.dropped_of_unsent unsent)
  have forgotten : pack.inFlight = none := Option.map_eq_none_iff.mp nothing
  have offers : follower.offer pack now =
      some (pack.packet ((pack.mailbox.due? now).getD .stop)) := by
    change offer? { pack with inFlight := none } now = _
    rw [← forgotten, offer?, attends.keeps.next?_of_unsent unsent idle now]
    rfl
  have errand := lawful.errand pack now author tidy attends.first
  rw [nothing, offers] at errand
  generalize (Peripheral.task pack now).play author desk = ran at errand ⊢
  rcases ran with ⟨ended, later⟩
  generalize seen : later.view = view at errand
  have written : later.journal = view.2 := congrArg Prod.snd seen
  cases errand with
  | waited handle isHeld => contradiction
  | rested lost none => contradiction
  | refused lost tx busy =>
      rw [free] at busy
      contradiction
  | submitted vacant packet offered handle first tx carries =>
      cases offered
      exact ⟨tx, written, carries ▸ ⟨rfl, rfl⟩⟩

end Steps

/-! ## Runs -/

/-- How a vibration pack starts. -/
structure Opens (origin : Vibration) (telling : Telling Vibration Q W Call) : Prop where
  told : telling.tale.journal = telling.session.journal
  /-- The first transmission carries the effect that is due when it is accepted, and a stop if
  none is. -/
  first : ∀ tx earlier, telling.tale.first? = some (tx, earlier) →
    Carries tx ((due? origin earlier).getD .stop)
  /-- It is a stop unless an effect is due that has another word. -/
  startsFromRest_iff : StartsFromRest telling.tale ↔
    ∀ tx earlier effect, telling.tale.first? = some (tx, earlier) →
      due? origin earlier = some effect → effect.word = Effect.stop.word
  /-- As long as there is none, the pack submits it when it finds the bus free. -/
  prompt : telling.tale.first? = none → ∃ pack : Vibration,
    telling.session.bus.peripherals.filterMap Sum.getLeft? = [pack] ∧
      pack.mailbox = contents origin telling.tale ∧
      ∀ (now : UInt64) (desk : Desk (Vibration ⊕ Q)), desk.scheduler.Tidy →
        desk.scheduler.occupant? = none →
          ∃ tx, ((Peripheral.task pack now).play (.inl pack) desk).2.journal =
              .accepted (.inl pack) tx :: desk.journal ∧
            Carries tx ((pack.mailbox.due? now).getD .stop)

section Runs

variable [Peripheral Q] {origin : Vibration} {address : Address}
  {telling : Telling Vibration Q W Call} {earlier : Tale Vibration Q Call} {tx : Transmission}

/-- Whatever happened since, the first transmission was chosen as the tale tells. -/
theorem carries_of_first
    (isAttended : telling.IsAttended follower (Keeps origin) address)
    (stays : Stays telling.session.journal) (isFirst : telling.tale.first? = some (tx, earlier)) :
    Carries tx ((due? origin earlier).getD .stop) := by
  rcases Tale.first?_eq_some isFirst with ⟨unsent, pack, suffix⟩
  have before : earlier.journal <:+ telling.session.view.journal := by
    rw [← isAttended.attended.told]
    exact ((List.suffix_cons _ _).trans suffix).filterMap _
  have stayed : Stays earlier.journal := fun entry mem => stays entry (before.subset mem)
  have undisturbed := Tale.dropped_of_unsent unsent
  rcases isAttended.attended.kept _ _ suffix pack tx rfl stayed undisturbed with ⟨later, keeps⟩
  have drives := keeps.drives _ _ List.suffix_rfl
  exact (drives.transmitted pack tx rfl).carries_of_unsent unsent

/-- In every run with calls, a vibration pack that was not driven yet starts with the effect
that is due first, or else with a stop. -/
theorem opens_after [Wire W] (stationary : Stationary Q) (recounts : telling.Recounts serve origin)
    (idle : origin.inFlight = none) (quiet : origin.retry = none) (untried : origin.attempts = 0)
    (fresh : origin.first = true) : Opens origin telling := by
  have nothing : follower.held origin = none := Option.map_eq_none_iff.mpr idle
  rcases recounts.isAttended stationary (upkeep origin) nothing (.start fresh quiet untried) with
    ⟨isAttended, stays⟩
  have first (tx : Transmission) (earlier : Tale Vibration Q Call)
      (isFirst : telling.tale.first? = some (tx, earlier)) :
      Carries tx ((due? origin earlier).getD .stop) :=
    carries_of_first isAttended stays isFirst
  constructor
  · exact isAttended.attended.told
  · exact first
  · exact startsFromRest_iff_of_carries first
  · rintro unsent
    have undisturbed := Tale.dropped_of_unsent unsent
    rw [isAttended.attended.told] at undisturbed
    rcases isAttended.attended.hosted stays undisturbed with ⟨pack, alone, attends⟩
    refine ⟨pack, alone.devices, attends.keeps.mailbox, ?_⟩
    rintro now desk tidy free
    exact submits_of_unsent attends unsent now (.inl pack) tidy free

end Runs

/-- An effect is queued for later, so a stop goes out first, which fails. -/
def restful : List (Move Vibration Recorder SilentWire Call) :=
  [ .call (.queue 10 (.lasting 2 10)), .occur (.task 0 []), .cycle 1 [[.writeFailed]] [] [],
    .occur (.task 10 []) ]

theorem opens_restful :
    let telling := (Telling.opened (bare {} [resting])).after serve restful
    telling.tale.first?.isSome ∧ StartsFromRest telling.tale ∧ Opens resting telling := by
  intro telling
  have recounts : telling.Recounts serve resting := by
    apply Telling.recounts_bare rfl
    · simp [restful]
    · decide +kernel
  exact ⟨by decide +kernel, by decide +kernel,
    opens_after steadfast_recorder.stationary recounts rfl rfl rfl rfl⟩

/-- An effect is queued before the first cycle. -/
def eager : List (Move Vibration Recorder SilentWire Call) :=
  [.call (.queue 0 (.lasting 2 10)), .occur (.task 0 [])]

theorem not_startsFromRest_eager :
    ¬ StartsFromRest ((Telling.opened (bare {} [resting])).after serve eager).tale := by
  decide +kernel

end Device.Vibration

end MapleBus
