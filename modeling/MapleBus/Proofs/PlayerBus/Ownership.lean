import MapleBus.Device.Recorder
import MapleBus.Proofs.PlayerBus.Plugging

/-!
# Who is told of what

Over any history of a bus, every callback that a peripheral receives is about
a transmission of its own, except in one situation: a peripheral is unplugged
while its exchange is on the wire, another one is plugged in at the same
address, and it is still there when the outcome is harvested.  The newcomer is
then told of an end it has nothing to do with, since the recipient of an event
is looked up by address.
-/

namespace MapleBus.PlayerBus

open Diarist

variable {P W : Type} [Peripheral P]

namespace Tenancy

/-- Scheduler and diaries agree. -/
def IsTended (tenancy : Tenancy P W) : Prop :=
  Tended tenancy.bus.scheduler (seats tenancy.bus.peripherals)

variable {tenancy : Tenancy P W} {happening : Happening P W}

theorem seats_everyone (tenancy : Tenancy P W) :
    seats tenancy.everyone = seats tenancy.bus.peripherals ++ seats tenancy.departed :=
  List.map_append

theorem allOwn_everyone {tenancy : Tenancy P W} :
    Seat.AllOwn (seats tenancy.everyone) ↔
      Seat.AllOwn (seats tenancy.bus.peripherals) ∧ Seat.AllOwn (seats tenancy.departed) := by
  rw [seats_everyone]
  exact Seat.allOwn_append

/-- Changing peripherals from outside changes no seat. -/
theorem seats_influence {change : P → P}
    (steady : ∀ peripheral, Peripheral.address (change peripheral) =
      Peripheral.address peripheral) (diarists : List (Diarist P)) :
    seats (diarists.map fun diarist => { diarist with peripheral := change diarist.peripheral }) =
      seats diarists := by
  rw [seats, List.map_map]
  apply List.map_congr_left
  intro diarist _
  exact congrArg (Seat.mk · diarist.diary) (steady diarist.peripheral)

/-! ## When nobody is told -/

/-- Nobody wrote anything: every diary is kept, and blank ones are added at
most. -/
structure Quiet (former later : Tenancy P W) : Prop where
  tended : later.IsTended
  kept : ∀ seat ∈ seats former.everyone, seat ∈ seats later.everyone
  nothing_new : ∀ seat ∈ seats later.everyone,
    seat ∈ seats former.everyone ∨ seat.diary = []

namespace Quiet

variable {former later : Tenancy P W}

theorem of_seats_eq (tended : later.IsTended)
    (same : seats later.everyone = seats former.everyone) : Quiet former later where
  tended := tended
  kept := by
    intro seat mem
    rwa [same]
  nothing_new := by
    intro seat mem
    rw [same] at mem
    exact Or.inl mem

theorem grow (quiet : Quiet former later) :
    Seat.Grow (seats former.everyone) (seats later.everyone) :=
  fun seat mem => ⟨seat, quiet.kept seat mem, List.suffix_refl _⟩

theorem allOwn (quiet : Quiet former later) (own : Seat.AllOwn (seats former.everyone)) :
    Seat.AllOwn (seats later.everyone) := by
  intro seat mem
  rcases quiet.nothing_new seat mem with known | isBlank
  · exact own seat known
  · rw [isBlank]
    trivial

end Quiet

section Run

variable [Wire W]

theorem quiet_attach (tended : tenancy.IsTended) (peripheral : P) :
    Quiet tenancy (tenancy.occur (.attach peripheral)) := by
  simp only [occur]
  cases attached : (tenancy.bus.attach { peripheral }).value with
  | error fault => exact Quiet.of_seats_eq tended rfl
  | ok bus =>
      obtain ⟨result, front, back, former, later⟩ := tended_attach tended attached
      have everyone : seats (plug tenancy (.ok ([], bus))).everyone =
          (front ++ ⟨Peripheral.address peripheral, []⟩ :: back) ++ seats tenancy.departed := by
        rw [seats_everyone, ← later]
        simp [plug]
      change Quiet tenancy (plug tenancy (.ok ([], bus)))
      exact {
        tended := result
        kept := by
          intro seat mem
          rw [everyone]
          rw [seats_everyone, former] at mem
          simp only [List.mem_append, List.mem_cons] at mem ⊢
          rcases mem with (inFront | inBack) | gone
          · exact Or.inl (Or.inl inFront)
          · exact Or.inl (Or.inr (Or.inr inBack))
          · exact Or.inr gone
        nothing_new := by
          intro seat mem
          rw [everyone] at mem
          rw [seats_everyone, former]
          simp only [List.mem_append, List.mem_cons] at mem ⊢
          rcases mem with (inFront | rfl | inBack) | gone
          · exact Or.inl (Or.inl (Or.inl inFront))
          · exact Or.inr rfl
          · exact Or.inl (Or.inl (Or.inr inBack))
          · exact Or.inl (Or.inr gone)
      }

theorem quiet_detach (tended : tenancy.IsTended) (address : Address) :
    Quiet tenancy (tenancy.occur (.detach address)) := by
  simp only [occur]
  cases detached : (tenancy.bus.detach address).value with
  | error fault => exact Quiet.of_seats_eq tended rfl
  | ok result =>
      obtain ⟨removed, bus⟩ := result
      have result := tended_detach tended detached
      obtain ⟨leaves, rfl, remaining, -⟩ := of_detached detached
      have same : ∀ diarist, diarist ∈ tenancy.everyone ↔
          diarist ∈
            (plug tenancy (.ok (tenancy.bus.peripherals.filter leaves, bus))).everyone := by
        intro diarist
        cases leaving : leaves diarist <;>
          simp [everyone, plug, remaining, leaving, or_comm]
      exact {
        tended := result
        kept := by
          intro seat mem
          obtain ⟨diarist, diaristMem, rfl⟩ := List.mem_map.mp mem
          exact List.mem_map_of_mem ((same diarist).mp diaristMem)
        nothing_new := by
          intro seat mem
          obtain ⟨diarist, diaristMem, rfl⟩ := List.mem_map.mp mem
          exact Or.inl (List.mem_map_of_mem ((same diarist).mpr diaristMem))
      }

/-- Nothing but a cycle makes anybody write. -/
theorem quiet_occur (tended : tenancy.IsTended) (happening : Happening P W)
    (noCycle : ∀ now, happening ≠ .task now) : Quiet tenancy (tenancy.occur happening) := by
  cases happening with
  | attach peripheral => exact quiet_attach tended peripheral
  | detach address => exact quiet_detach tended address
  | handle event =>
      cases event with
      | attached peripheral => exact quiet_attach tended peripheral
      | detached address => exact quiet_detach tended address
  | task now => exact absurd rfl (noCycle now)
  | signal signal => exact Quiet.of_seats_eq (Tended.signal tended signal) rfl
  | rewire change => exact Quiet.of_seats_eq tended rfl
  | influence change steady =>
      have same := seats_influence steady tenancy.bus.peripherals
      apply Quiet.of_seats_eq
      · rw [IsTended]
        simp only [occur, same]
        exact tended
      · rw [seats_everyone, seats_everyone]
        simp only [occur, same]

/-! ## One happening -/

theorem bus_occur_task (tenancy : Tenancy P W) (now : UInt64) :
    (tenancy.occur (.task now)).bus = (tenancy.bus.task now).value := by
  rw [occur]

theorem departed_occur_task (tenancy : Tenancy P W) (now : UInt64) :
    (tenancy.occur (.task now)).departed = tenancy.departed :=
  rfl

/-- Every happening keeps the bus tended. -/
theorem tended_occur (steadfast : Steadfast P) (tended : tenancy.IsTended)
    (happening : Happening P W) : (tenancy.occur happening).IsTended := by
  cases happening with
  | task now =>
      rw [IsTended, bus_occur_task]
      exact tended_cycle steadfast now tended
  | _ => exact (quiet_occur tended _ (by simp)).tended

/-- Diaries are never lost, whether the peripheral stays or leaves. -/
theorem grow_occur (steadfast : Steadfast P) (tended : tenancy.IsTended)
    (happening : Happening P W) :
    Seat.Grow (seats tenancy.everyone) (seats (tenancy.occur happening).everyone) := by
  cases happening with
  | task now =>
      rw [seats_everyone, seats_everyone, bus_occur_task, departed_occur_task]
      exact (grow_cycle steadfast now tended).append (Seat.Grow.refl _)
  | _ => exact (quiet_occur tended _ (by simp)).grow

/-- While no displaced exchange is settled, everybody's diary stays their own. -/
theorem allOwn_occur (steadfast : Steadfast P) (tended : tenancy.IsTended)
    (own : Seat.AllOwn (seats tenancy.everyone)) (placed : ¬ tenancy.Displaces happening) :
    Seat.AllOwn (seats (tenancy.occur happening).everyone) := by
  cases happening with
  | task now =>
      rw [allOwn_everyone] at own ⊢
      rw [bus_occur_task, departed_occur_task]
      exact ⟨allOwn_cycle steadfast now tended own.1 fun done displaced =>
        placed ⟨done, displaced⟩, own.2⟩
  | _ => exact (quiet_occur tended _ (by simp)).allOwn own

/-- When a displaced exchange is settled, some diary is no longer founded. -/
theorem not_allFounded_occur (steadfast : Steadfast P) (tended : tenancy.IsTended)
    (displaces : tenancy.Displaces happening) :
    ¬ Seat.AllFounded (seats (tenancy.occur happening).everyone) := by
  cases happening with
  | task now =>
      intro founded
      rw [seats_everyone, bus_occur_task] at founded
      exact not_allFounded_cycle steadfast now tended displaces.1 displaces.2
        (List.forall_mem_append.mp founded).1
  | _ => exact absurd displaces id

/-! ## Histories -/

/-- Every history keeps the bus tended. -/
theorem tended_after (steadfast : Steadfast P) (tended : tenancy.IsTended)
    (happenings : List (Happening P W)) : (tenancy.after happenings).IsTended := by
  induction happenings generalizing tenancy with
  | nil => exact tended
  | cons happening rest ih => exact ih (tended_occur steadfast tended happening)

/-- While no displaced exchange is settled, everybody is told of their own
transmissions only. -/
theorem allOwn_after (steadfast : Steadfast P) (tended : tenancy.IsTended)
    (own : Seat.AllOwn (seats tenancy.everyone)) {happenings : List (Happening P W)}
    (never : tenancy.NeverDisplaces happenings) :
    Seat.AllOwn (seats (tenancy.after happenings).everyone) := by
  induction happenings generalizing tenancy with
  | nil => exact own
  | cons happening rest ih =>
      exact ih (tended_occur steadfast tended happening)
        (allOwn_occur steadfast tended own never.1) never.2

/-- A history that leaves every diary founded began with founded diaries. -/
theorem allFounded_of_after (steadfast : Steadfast P) (tended : tenancy.IsTended)
    {happenings : List (Happening P W)}
    (founded : Seat.AllFounded (seats (tenancy.after happenings).everyone)) :
    Seat.AllFounded (seats tenancy.everyone) := by
  induction happenings generalizing tenancy with
  | nil => exact founded
  | cons happening rest ih =>
      have next := ih (tended_occur steadfast tended happening) founded
      exact next.of_grow (grow_occur steadfast tended happening)

/-- A history that leaves every diary founded settles no displaced exchange. -/
theorem neverDisplaces_of_allFounded (steadfast : Steadfast P) (tended : tenancy.IsTended)
    {happenings : List (Happening P W)}
    (founded : Seat.AllFounded (seats (tenancy.after happenings).everyone)) :
    tenancy.NeverDisplaces happenings := by
  induction happenings generalizing tenancy with
  | nil => trivial
  | cons happening rest ih =>
      have next := tended_occur steadfast tended happening
      constructor
      · intro displaces
        exact not_allFounded_occur steadfast tended displaces
          (allFounded_of_after steadfast next founded)
      · exact ih next founded

/-- The histories that leave every diary founded are those that settle no displaced
exchange. -/
theorem allFounded_after_iff (steadfast : Steadfast P) (tended : tenancy.IsTended)
    (own : Seat.AllOwn (seats tenancy.everyone)) (happenings : List (Happening P W)) :
    Seat.AllFounded (seats (tenancy.after happenings).everyone) ↔
      tenancy.NeverDisplaces happenings := by
  constructor
  · exact neverDisplaces_of_allFounded steadfast tended
  · intro never
    exact (allOwn_after steadfast tended own never).allFounded

end Run

/-- A bus that was just created has nobody plugged in and nothing to do. -/
theorem opened_of_created {settings : Settings} {wire : W} {bus : PlayerBus P W}
    (created : create settings wire = .ok bus) :
    (opened bus).IsTended ∧ (opened bus).everyone = [] := by
  unfold create at created
  cases valid : settings.validate with
  | error fault =>
      rw [valid] at created
      contradiction
  | ok _ =>
      rw [valid] at created
      cases created
      exact ⟨Tended.start, rfl⟩

end Tenancy

/-- Over every history of a bus, whether a peripheral stays or leaves, it is told
of the start and of the end of its own transmissions only, as long as no cycle
settles a displaced exchange; once a cycle does, somebody was told of a
transmission they never submitted.  Either way nothing that ended is kept. -/
theorem ownership_after [Wire W] (steadfast : Steadfast P) {settings : Settings} {wire : W}
    {bus : PlayerBus P W} (created : create settings wire = .ok bus)
    (happenings : List (Happening P W)) :
    let tenancy := (Tenancy.opened bus).after happenings
    tenancy.bus.plain = bus.after happenings ∧
      ((Tenancy.opened bus).NeverDisplaces happenings →
        ∀ diarist ∈ tenancy.everyone, diarist.diary.IsOwn) ∧
      ((∀ diarist ∈ tenancy.everyone, diarist.diary.IsFounded) →
        (Tenancy.opened bus).NeverDisplaces happenings) ∧
      ∀ slot tx, tenancy.bus.scheduler.table.entry slot = some tx →
        tx.status.isOutstanding = true := by
  obtain ⟨tended, nobody⟩ := Tenancy.opened_of_created created
  have own : Seat.AllOwn (seats (Tenancy.opened bus).everyone) := by
    rw [nobody]
    exact List.forall_mem_nil _
  refine ⟨?_, ?_, ?_, (Tenancy.tended_after steadfast tended happenings).outstanding⟩
  · rw [Tenancy.plain_after, Tenancy.plain_opened]
  · intro never diarist mem
    have told := Tenancy.allOwn_after steadfast tended own never
    exact told (seat diarist) (List.mem_map_of_mem mem)
  · intro founded
    apply (Tenancy.allFounded_after_iff steadfast tended own happenings).mp
    exact List.forall_mem_map.mpr founded

/-! ## Recorders on a silent wire -/

/-- A wire that takes every frame and stays silent. -/
structure SilentWire where

instance : Wire SilentWire where
  transmit wire _ _ := { wire, signals := [], result := .ok () }

/-- Recorders keep their addresses and submit packets to themselves only. -/
theorem steadfast_recorder : Steadfast Device.Recorder where
  task := by
    intro recorder now
    change (Device.Recorder.task recorder now).StaysAt recorder.address _
    unfold Device.Recorder.task
    cases passive : recorder.passive with
    | true =>
        simp only [Device.Recorder.record, passive, if_true]
        rfl
    | false =>
        simp only [Device.Recorder.record, passive, Bool.false_eq_true, if_false]
        exact ⟨rfl, fun _ => rfl⟩
  started := fun _ _ => rfl
  failed := fun _ _ _ => rfl
  completed := fun _ _ _ => rfl

/-- A bus without peripherals on a silent wire. -/
def silentBus : PlayerBus Device.Recorder SilentWire where
  settings := {}
  wire := {}
  failures := { threshold := ({} : Settings).failureWarnThreshold }

/-- A recorder that is unplugged while its packet is on the wire. -/
def unpluggedOnTheWire : List (Happening Device.Recorder SilentWire) :=
  [ .attach { address := ⟨0x20⟩ }, .task 0, .detach ⟨0x20⟩ ]

/-- Another recorder that is plugged in before the outcome is harvested. -/
def replaced : List (Happening Device.Recorder SilentWire) :=
  unpluggedOnTheWire ++
    [.attach { address := ⟨0x20⟩, passive := true }, .signal .writeComplete, .task 1]

/-- Another recorder that is plugged in after the outcome was harvested. -/
def succeeded : List (Happening Device.Recorder SilentWire) :=
  unpluggedOnTheWire ++
    [.signal .writeComplete, .task 1, .attach { address := ⟨0x20⟩ }, .task 2]

/-- A recorder that replaces another one is told of the end of the other's
transmission. -/
theorem not_isFounded_replaced :
    ¬ ∀ diarist ∈ ((Tenancy.opened silentBus).after replaced).everyone,
      diarist.diary.IsFounded := by
  decide +kernel

/-- A recorder that succeeds another one is told of its own transmission only. -/
theorem isOwn_succeeded :
    create {} {} = .ok silentBus ∧ (Tenancy.opened silentBus).NeverDisplaces succeeded ∧
      ∀ diarist ∈ ((Tenancy.opened silentBus).after succeeded).everyone,
        diarist.diary.IsOwn := by
  have created : create {} {} = .ok silentBus := by rfl
  have never : (Tenancy.opened silentBus).NeverDisplaces succeeded := by decide +kernel
  exact ⟨created, never, (ownership_after steadfast_recorder created succeeded).2.1 never⟩

end MapleBus.PlayerBus
