import MapleBus.Proofs.PlayerBus.Told

/-!
# Devices on a bus

A device that is plugged in next to any other peripherals is left alone with its own
transmissions, its own program and its own callbacks.  What holds of the occupant, the
journal and the device when it is plugged in, and is kept by everything that can happen
to them, holds after every run.
-/

namespace MapleBus

/-! ## Two sorts of peripherals -/

section Sum

variable {P Q : Type} [Peripheral P] [Peripheral Q]

/-- Peripherals of two sorts on one bus. -/
instance : Peripheral (P ⊕ Q) where
  name := Sum.elim Peripheral.name Peripheral.name
  address := Sum.elim Peripheral.address Peripheral.address
  functions := Sum.elim Peripheral.functions Peripheral.functions
  definition := Sum.elim Peripheral.definition Peripheral.definition
  info := Sum.elim Peripheral.info Peripheral.info
  task
    | .inl first, now => Sum.inl <$> Peripheral.task first now
    | .inr second, now => Sum.inr <$> Peripheral.task second now
  started
    | .inl first, tx => Sum.inl <$> Peripheral.started first tx
    | .inr second, tx => Sum.inr <$> Peripheral.started second tx
  failed
    | .inl first, failure, tx => Sum.inl <$> Peripheral.failed first failure tx
    | .inr second, failure, tx => Sum.inr <$> Peripheral.failed second failure tx
  completed
    | .inl first, reply, tx => Sum.inl <$> Peripheral.completed first reply tx
    | .inr second, reply, tx => Sum.inr <$> Peripheral.completed second reply tx

open PlayerBus (conclude)

theorem conclude_inl (first : P) (tx : Transmission) :
    (conclude (Sum.inl first : P ⊕ Q) tx).value = .inl (conclude first tx).value := by
  unfold conclude
  cases tx.status.failure? <;> rfl

theorem conclude_inr (second : Q) (tx : Transmission) :
    (conclude (Sum.inr second : P ⊕ Q) tx).value = .inr (conclude second tx).value := by
  unfold conclude
  cases tx.status.failure? <;> rfl

end Sum

/-! ## Journals grow -/

section Growth

variable {P : Type}

theorem Request.suffix {rule : Packet → Prop} {author : P}
    {former later : Option Transmission × Journal P} (request : Request rule author former later) :
    former.2 <:+ later.2 := by
  cases request <;> exact List.suffix_cons _ _

theorem Request.suffix_all {rule : Packet → Prop} {author : P}
    {former later : Option Transmission × Journal P}
    (requests : Relation.ReflTransGen (Request rule author) former later) :
    former.2 <:+ later.2 := by
  induction requests with
  | refl => exact List.suffix_rfl
  | tail _ next ih => exact ih.trans next.suffix

/-- A program only adds to the journal. -/
theorem Endpoint.suffix_play {α : Type} (program : Endpoint α) (author : P) {desk : Desk P}
    (tidy : desk.scheduler.Tidy) : desk.journal <:+ (program.play author desk).2.journal :=
  Request.suffix_all (requests_play program.obeys_true author tidy).1.2

/-- A stage only adds to the journal. -/
theorem PlayerBus.Stage.suffix [Peripheral P] {kind : (P → P) → Prop} {former later : View P}
    (stage : Stage kind former later) : former.journal <:+ later.journal := by
  cases stage with
  | waited _ now => exact List.suffix_cons _ _
  | concluded tx status front back peripheral journal now =>
      exact List.suffix_append [_, _, _] journal
  | forgotten tx status peripherals journal now => exact List.suffix_append [_, _] journal
  | worked front back peripheral desk now tidy =>
      have began : (desk.write (.began peripheral)).scheduler.Tidy := tidy
      exact (List.suffix_cons _ _).trans
        (Endpoint.suffix_play (Peripheral.task peripheral now) peripheral began)
  | launched tx front back peripheral journal => exact List.suffix_append [_, _] journal
  | slipped tx peripherals journal => exact List.suffix_cons _ _
  | attached occupant front back peripheral journal => exact List.suffix_cons _ _
  | detached _ leaves => exact List.suffix_append _ _
  | withdrawn tx peripherals journal leaves =>
      exact (List.suffix_cons _ journal).trans (List.suffix_append _ _)
  | influenced _ change => exact List.suffix_rfl

end Growth

namespace PlayerBus

variable {D Q W : Type} [Peripheral Q]

/-! ## A device and its neighbours -/

section Alone

variable {address : Address} {device : D} {front back peripherals : List (D ⊕ Q)} {other : Q}

/-- A change from outside that affects the device in certain ways only, and leaves
everybody else at their address. -/
structure Within (input : D → D → Prop) (change : D ⊕ Q → D ⊕ Q) : Prop where
  device : ∀ device, ∃ changed, change (.inl device) = .inl changed ∧ input device changed
  other : ∀ other, ∃ changed, change (.inr other) = .inr changed ∧
    Peripheral.address changed = Peripheral.address other

/-- A single device is plugged in, and nobody else is at an address. -/
structure Alone (address : Address) (device : D) (peripherals : List (D ⊕ Q)) : Prop where
  devices : peripherals.filterMap Sum.getLeft? = [device]
  apart : ∀ other : Q, .inr other ∈ peripherals → Peripheral.address other ≠ address

namespace Alone

theorem mem (alone : Alone address device peripherals) : .inl device ∈ peripherals := by
  have found : device ∈ peripherals.filterMap Sum.getLeft? := by
    rw [alone.devices]
    exact List.mem_singleton_self device
  rcases List.mem_filterMap.mp found with ⟨peripheral, present, isDevice⟩
  cases peripheral with
  | inl first =>
      cases isDevice
      exact present
  | inr second => contradiction

/-- A device among the peripherals is the device. -/
theorem eq_of_split {first : D} (alone : Alone address device (front ++ .inl first :: back)) :
    first = device := by
  have found : first ∈ (front ++ .inl first :: back).filterMap Sum.getLeft? := by simp
  rw [alone.devices] at found
  exact List.mem_singleton.mp found

/-- The device may change. -/
theorem renew (alone : Alone address device (front ++ .inl device :: back)) (later : D) :
    Alone address later (front ++ .inl later :: back) := by
  have devices := alone.devices
  simp only [List.filterMap_append, List.filterMap_cons, Sum.getLeft?_inl,
    List.append_eq_singleton_iff, List.cons_ne_nil, and_false, List.cons.injEq, true_and,
    or_false] at devices
  constructor
  · simp only [List.filterMap_append, List.filterMap_cons, Sum.getLeft?_inl, devices,
      List.nil_append]
  · rintro other mem
    apply alone.apart
    simpa using mem

/-- Others may change where they are. -/
theorem replace {changed : Q} (alone : Alone address device (front ++ .inr other :: back))
    (stays : Peripheral.address changed = Peripheral.address other) :
    Alone address device (front ++ .inr changed :: back) := by
  constructor
  · rw [← alone.devices]
    simp only [List.filterMap_append, List.filterMap_cons, Sum.getLeft?_inr]
  · rintro another mem
    rcases List.mem_append.mp mem with before | rest
    · exact alone.apart another (List.mem_append_left _ before)
    · rcases List.mem_cons.mp rest with same | after
      · cases same
        rw [stays]
        apply alone.apart
        simp
      · apply alone.apart
        simp [after]

/-- Others may be plugged in elsewhere. -/
theorem plugIn (alone : Alone address device (front ++ back))
    (elsewhere : Peripheral.address other ≠ address) :
    Alone address device (front ++ .inr other :: back) := by
  constructor
  · rw [← alone.devices]
    simp only [List.filterMap_append, List.filterMap_cons, Sum.getLeft?_inr]
  · rintro another mem
    rcases List.mem_append.mp mem with before | rest
    · exact alone.apart another (List.mem_append_left _ before)
    · rcases List.mem_cons.mp rest with same | after
      · cases same
        exact elsewhere
      · exact alone.apart another (List.mem_append_right _ after)

/-- Others may be unplugged. -/
theorem plugOut (alone : Alone address device peripherals) {leaves : D ⊕ Q → Bool}
    (stays : ∀ first, .inl first ∉ peripherals.filter leaves) :
    Alone address device (peripherals.filter fun peripheral => !leaves peripheral) := by
  constructor
  · rw [← alone.devices, List.filterMap_filter]
    apply List.filterMap_congr
    rintro (first | second) mem
    · have remains : leaves (.inl first) = false := by
        have absent := stays first
        simpa [List.mem_filter, mem] using absent
      simp [remains]
    · simp
  · rintro another mem
    exact alone.apart another (List.mem_of_mem_filter mem)

/-- The device and the others may be changed from outside. -/
theorem influence {input : D → D → Prop} (alone : Alone address device peripherals)
    {change : D ⊕ Q → D ⊕ Q} (within : Within input change) :
    ∃ later, input device later ∧ Alone address later (peripherals.map change) := by
  rcases within.device device with ⟨later, changed, allowed⟩
  exists later
  let renewed (first : D) : D := (change (.inl first)).getLeft?.getD first
  constructor
  · exact allowed
  constructor
  · have everyone : (peripherals.map change).filterMap Sum.getLeft? =
        (peripherals.filterMap Sum.getLeft?).map renewed := by
      rw [List.filterMap_map, List.map_filterMap]
      apply List.filterMap_congr
      rintro (first | second) -
      · rcases within.device first with ⟨given, is, -⟩
        simp [renewed, is]
      · rcases within.other second with ⟨given, is, -⟩
        simp [is]
    rw [everyone, alone.devices]
    simp [renewed, changed]
  · rintro another mem
    rcases List.mem_map.mp mem with ⟨peripheral, present, given⟩
    cases peripheral with
    | inl first =>
        rcases within.device first with ⟨changed, impossible, -⟩
        rw [impossible] at given
        contradiction
    | inr second =>
        rcases within.other second with ⟨changed, is, stays⟩
        rw [is] at given
        cases given
        rw [stays]
        exact alone.apart second present

end Alone

end Alone

end PlayerBus

/-! ## Habits -/

variable {D Q W : Type}

/-- An entry that is neither about the device nor about the occupant of the bus. -/
def JournalEntry.IsForeign : JournalEntry (D ⊕ Q) → Prop
  | .cycle _ | .failed (.inr _) _ _ | .completed (.inr _) _ _ | .began (.inr _)
  | .refused (.inr _) _ _ | .started (.inr _) _ | .attached (.inr _) | .detached (.inr _) => True
  | _ => False

/-- A device is plugged in or unplugged. -/
def JournalEntry.isMove : JournalEntry (D ⊕ Q) → Bool
  | .attached (.inl _) | .detached (.inl _) => true
  | _ => false

theorem JournalEntry.isForeign_conclusion (other : Q) (tx : Transmission) :
    (conclusion (.inr other : D ⊕ Q) tx).IsForeign := by
  unfold conclusion
  cases tx.status.failure? <;> trivial

namespace PlayerBus

variable [Peripheral D]

/-- What everything that can happen around a device at an address keeps, as long as the
journal is fair.  From outside the device is changed in certain ways only. -/
structure Habit (address : Address) (input : D → D → Prop) (fair : Journal (D ⊕ Q) → Prop)
    (holds : Option Transmission → Journal (D ⊕ Q) → D → Prop) : Prop where
  /-- A journal was fair before. -/
  before : ∀ {earlier later}, earlier <:+ later → fair later → fair earlier
  here : ∀ {occupant journal device}, holds occupant journal device →
    Peripheral.address device = address
  foreign : ∀ {occupant journal device entry}, holds occupant journal device →
    entry.IsForeign → holds occupant (entry :: journal) device
  /-- Somebody else submits. -/
  accept : ∀ {journal device tx} (other : Q), holds none journal device → tx.status = .pending →
    fair (.accepted (.inr other) tx :: journal) →
    holds (some tx) (.accepted (.inr other) tx :: journal) device
  cancel : ∀ {journal device tx}, holds (some tx) journal device → tx.status = .pending →
    holds none (.cancelled tx :: journal) device
  /-- The wire takes the occupant. -/
  send : ∀ {journal device tx}, holds (some tx) journal device → tx.status = .pending →
    holds (some { tx with status := .sent }) (.sent { tx with status := .sent } :: journal) device
  /-- The device is told of a start. -/
  start : ∀ {journal device tx}, holds (some tx) journal device → tx.status = .sent →
    tx.recipient = address →
    holds (some tx) (.started (.inl device) tx :: journal) (Peripheral.started device tx).value
  /-- The occupant ends, and the device is not told. -/
  lose : ∀ {journal device tx status}, holds (some tx) journal device → tx.status = .sent →
    status.isTerminal = true → tx.recipient ≠ address →
    holds none (.settled { tx with status } :: journal) device
  /-- The occupant ends, and the device is told. -/
  conclude : ∀ {journal device tx status}, holds (some tx) journal device → tx.status = .sent →
    status.isTerminal = true → tx.recipient = address →
    holds none
      (.conclusion (.inl device) { tx with status } :: .settled { tx with status } :: journal)
      (conclude device { tx with status }).value
  /-- The program of the device runs. -/
  work : ∀ {desk : Desk (D ⊕ Q)} {device} (now : UInt64),
    holds desk.scheduler.occupant? desk.journal device → desk.scheduler.Tidy →
    let ran := (Peripheral.task device now).play (.inl device) (desk.write (.began (.inl device)))
    fair ran.2.journal → holds ran.2.scheduler.occupant? ran.2.journal ran.1
  influence : ∀ {occupant journal device later}, holds occupant journal device →
    input device later → holds occupant journal later

namespace Habit

variable {address : Address} {input : D → D → Prop} {fair : Journal (D ⊕ Q) → Prop}
  {holds : Option Transmission → Journal (D ⊕ Q) → D → Prop}

/-- What others ask for is kept. -/
theorem request (habit : Habit address input fair holds) {rule : Packet → Prop} {author : Q}
    {former later : Option Transmission × Journal (D ⊕ Q)} {device : D}
    (held : holds former.1 former.2 device) (request : Request rule (.inr author) former later)
    (isFair : fair later.2) : holds later.1 later.2 device := by
  cases request with
  | refused tx packet journal => exact habit.foreign held trivial
  | accepted tx journal pending follows => exact habit.accept author held pending isFair
  | cancelled tx journal pending => exact habit.cancel held pending

theorem requests (habit : Habit address input fair holds) {rule : Packet → Prop} {author : Q}
    {former later : Option Transmission × Journal (D ⊕ Q)} {device : D}
    (held : holds former.1 former.2 device)
    (requests : Relation.ReflTransGen (Request rule (.inr author)) former later)
    (isFair : fair later.2) : holds later.1 later.2 device := by
  induction requests with
  | refl => exact held
  | tail _ next ih => exact habit.request (ih (habit.before next.suffix isFair)) next isFair

/-- Others are unplugged. -/
theorem detach (habit : Habit address input fair holds) {occupant : Option Transmission}
    {journal : Journal (D ⊕ Q)} {device : D} (held : holds occupant journal device)
    {removed : List (D ⊕ Q)} (stays : ∀ first, .inl first ∉ removed) :
    holds occupant (removed.map .detached ++ journal) device := by
  induction removed with
  | nil => exact held
  | cons peripheral rest ih =>
      have others := ih fun first mem => stays first (List.mem_cons_of_mem _ mem)
      cases peripheral with
      | inl first => exact absurd List.mem_cons_self (stays first)
      | inr second => exact habit.foreign others trivial

end Habit

variable [Peripheral Q]

/-- A device is plugged in alone of its sort and at its address, and a habit holds of it. -/
def Hosted (address : Address) (holds : Option Transmission → Journal (D ⊕ Q) → D → Prop)
    (view : View (D ⊕ Q)) : Prop :=
  ∃ device, Alone address device view.peripherals ∧ holds view.occupant view.journal device

/-- Nobody of the sort of the device is plugged in or unplugged. -/
def Stays (journal : Journal (D ⊕ Q)) : Prop :=
  ∀ entry ∈ journal, entry.isMove = false

instance (journal : Journal (D ⊕ Q)) : Decidable (Stays journal) :=
  inferInstanceAs (Decidable (∀ entry ∈ journal, _))

omit [Peripheral D] [Peripheral Q] in
/-- Nobody who leaves is the device. -/
theorem Stays.not_mem {removed : List (D ⊕ Q)} {journal : Journal (D ⊕ Q)}
    (stays : Stays (removed.map .detached ++ journal)) : ∀ first, .inl first ∉ removed := by
  rintro first mem
  have detached := stays _ (List.mem_append_left _ (List.mem_map_of_mem mem))
  contradiction

namespace Habit

variable {address : Address} {input : D → D → Prop} {fair : Journal (D ⊕ Q) → Prop}
  {holds : Option Transmission → Journal (D ⊕ Q) → D → Prop}

/-- Every program keeps a habit. -/
theorem program (stationary : Stationary Q) (habit : Habit address input fair holds)
    {front back : List (D ⊕ Q)} {peripheral : D ⊕ Q} {desk : Desk (D ⊕ Q)} (now : UInt64)
    (tidy : desk.scheduler.Tidy)
    (hosted : Hosted address holds
      ⟨desk.scheduler.occupant?, front ++ peripheral :: back, desk.journal⟩) :
    let ran := (Peripheral.task peripheral now).play peripheral (desk.write (.began peripheral))
    fair ran.2.journal →
      Hosted address holds ⟨ran.2.scheduler.occupant?, front ++ ran.1 :: back, ran.2.journal⟩ := by
  intro ran isFair
  rcases hosted with ⟨device, alone, held⟩
  cases peripheral with
  | inl first =>
      cases alone.eq_of_split
      have played : ran = (Sum.inl ((Peripheral.task device now).play (Sum.inl device)
          (desk.write (.began (.inl device)))).1, _) :=
        Endpoint.play_map (Sum.inl device) Sum.inl (Peripheral.task device now) _
      rw [played] at isFair ⊢
      exact ⟨_, alone.renew _, habit.work now held tidy isFair⟩
  | inr second =>
      let keeps (changed : D ⊕ Q) : Prop := ∃ later, changed = .inr later ∧
        Peripheral.address later = Peripheral.address second
      have program : (Peripheral.task (.inr second : D ⊕ Q) now).Obeys (fun _ => True) keeps :=
        Endpoint.obeys_map (stationary.task second now) fun later stays => ⟨later, rfl, stays⟩
      have began : (desk.write (.began (.inr second))).scheduler.Tidy := tidy
      rcases Endpoint.requests_play program (.inr second) began with
        ⟨⟨-, requests⟩, later, result, stays⟩
      have started : holds desk.scheduler.occupant? (.began (.inr second) :: desk.journal)
          device :=
        habit.foreign held trivial
      rw [result]
      exact ⟨device, alone.replace stays, habit.requests started requests isFair⟩

/-- Somebody is told of the end of the occupant. -/
theorem ended (stationary : Stationary Q) (habit : Habit address input fair holds)
    {tx : Transmission} {status : Status} {front back : List (D ⊕ Q)} {peripheral : D ⊕ Q}
    {journal : Journal (D ⊕ Q)} (now : UInt64)
    (hosted : Hosted address holds ⟨some tx, front ++ peripheral :: back, journal⟩)
    (sent : tx.status = .sent) (terminal : status.isTerminal = true)
    (here : Peripheral.address peripheral = tx.recipient) :
    Hosted address holds
      ⟨none, front ++ (PlayerBus.conclude peripheral { tx with status }).value :: back,
        .conclusion peripheral { tx with status } :: .settled { tx with status } ::
          .cycle now :: journal⟩ := by
  rcases hosted with ⟨device, alone, held⟩
  have began : holds (some tx) (.cycle now :: journal) device := habit.foreign held trivial
  cases peripheral with
  | inl first =>
      cases alone.eq_of_split
      rw [conclude_inl]
      exact ⟨_, alone.renew _,
        habit.conclude began sent terminal (here.symm.trans (habit.here held))⟩
  | inr second =>
      have elsewhere : tx.recipient ≠ address := by
        rw [← here]
        exact alone.apart second (by simp)
      rw [conclude_inr]
      exact ⟨device, alone.replace (address_conclude stationary second _),
        habit.foreign (habit.lose began sent terminal elsewhere)
          (JournalEntry.isForeign_conclusion second _)⟩

/-- Somebody is told of the start of the occupant. -/
theorem wentOut (stationary : Stationary Q) (habit : Habit address input fair holds)
    {tx : Transmission} {front back : List (D ⊕ Q)} {peripheral : D ⊕ Q}
    {journal : Journal (D ⊕ Q)}
    (hosted : Hosted address holds ⟨some tx, front ++ peripheral :: back, journal⟩)
    (pending : tx.status = .pending) (here : Peripheral.address peripheral = tx.recipient) :
    Hosted address holds
      ⟨some { tx with status := .sent },
        front ++ (Peripheral.started peripheral { tx with status := .sent }).value :: back,
        .started peripheral { tx with status := .sent } ::
          .sent { tx with status := .sent } :: journal⟩ := by
  rcases hosted with ⟨device, alone, held⟩
  have gone := habit.send held pending
  cases peripheral with
  | inl first =>
      cases alone.eq_of_split
      exact ⟨_, alone.renew _, habit.start gone rfl (here.symm.trans (habit.here held))⟩
  | inr second =>
      exact ⟨device, alone.replace (stationary.started second _), habit.foreign gone trivial⟩

/-- Every stage keeps a habit, while the device stays plugged in. -/
theorem stage (stationary : Stationary Q) (habit : Habit address input fair holds)
    {former later : View (D ⊕ Q)} (hosted : Hosted address holds former)
    (stage : Stage (Within input) former later) (stays : Stays later.journal)
    (isFair : fair later.journal) : Hosted address holds later := by
  rcases id hosted with ⟨device, alone, held⟩
  have ours : Peripheral.address (Sum.inl device : D ⊕ Q) = address := habit.here held
  cases stage with
  | waited _ now => exact ⟨device, alone, habit.foreign held trivial⟩
  | concluded tx status front back peripheral journal now sent terminal here before =>
      exact habit.ended stationary now hosted sent terminal here
  | forgotten tx status peripherals journal now sent terminal nobody =>
      have began : holds (some tx) (.cycle now :: journal) device := habit.foreign held trivial
      have elsewhere : tx.recipient ≠ address := by
        rw [← ours]
        exact (nobody _ alone.mem).symm
      exact ⟨device, alone, habit.lose began sent terminal elsewhere⟩
  | worked front back peripheral desk now tidy =>
      exact habit.program stationary now tidy hosted isFair
  | launched tx front back peripheral journal pending here before =>
      exact habit.wentOut stationary hosted pending here
  | slipped tx peripherals journal pending nobody => exact ⟨device, alone, habit.send held pending⟩
  | attached occupant front back peripheral journal free =>
      cases peripheral with
      | inl first =>
          have attached := stays _ List.mem_cons_self
          contradiction
      | inr second =>
          have elsewhere : Peripheral.address second ≠ address := by
            rw [← ours]
            rintro same
            exact free (same ▸ List.mem_map_of_mem alone.mem)
          exact ⟨device, alone.plugIn elsewhere, habit.foreign held trivial⟩
  | detached _ leaves kept =>
      have remains := Stays.not_mem stays
      exact ⟨device, alone.plugOut remains, habit.detach held remains⟩
  | withdrawn tx peripherals journal leaves pending =>
      have remains := Stays.not_mem stays
      exact ⟨device, alone.plugOut remains, habit.detach (habit.cancel held pending) remains⟩
  | influenced _ change within =>
      rcases alone.influence within with ⟨changed, allowed, alone⟩
      exact ⟨changed, alone, habit.influence held allowed⟩

theorem stages (stationary : Stationary Q) (habit : Habit address input fair holds)
    {former later : View (D ⊕ Q)} (hosted : Hosted address holds former)
    (stages : Stages (Within input) former later) (stays : Stays later.journal)
    (isFair : fair later.journal) : Hosted address holds later := by
  induction stages with
  | refl => exact hosted
  | tail _ next ih =>
      have before : Stays _ := fun entry mem => stays entry (next.suffix.mem mem)
      have kept := ih before (habit.before next.suffix isFair)
      exact habit.stage stationary kept next stays isFair

end Habit

/-! ## Runs -/

/-- A session with a bus that hosts a device from the time on when it was plugged in,
whatever happened to the bus before. -/
inductive Hosts [Wire W] (newcomer : D) (input : D → D → Prop) : Session (D ⊕ Q) W → Prop where
  | intro {settings : Settings} {wire : W} {bus joined : PlayerBus (D ⊕ Q) W}
      {prelude occurrences : List (Occurrence (D ⊕ Q) W)}
      (created : create settings wire = .ok bus)
      (nobody : ((Session.opened bus).after prelude).bus.peripherals.filterMap
        Sum.getLeft? = [])
      (joins : (((Session.opened bus).after prelude).bus.attach (.inl newcomer)).value =
        .ok joined)
      (within : ∀ change, .influence change ∈ occurrences → Within input change)
      (stays : Stays ((Session.opened joined).after occurrences).journal) :
      Hosts newcomer input ((Session.opened joined).after occurrences)

/-- Whoever is plugged in where nobody of its sort is, is alone. -/
theorem alone_of_joins {bus joined : PlayerBus (D ⊕ Q) W} {newcomer : D}
    (nobody : bus.peripherals.filterMap Sum.getLeft? = [])
    (joins : (bus.attach (.inl newcomer)).value = .ok joined) :
    Alone (Peripheral.address newcomer) newcomer joined.peripherals ∧
      joined.scheduler = bus.scheduler := by
  rcases of_attached joins with ⟨free, rfl⟩
  rcases exists_insert (Sum.inl newcomer) bus.peripherals with ⟨front, back, split, inserted⟩
  rw [split, List.filterMap_append, List.append_eq_nil_iff] at nobody
  constructor
  · change Alone _ _ (insert (Sum.inl newcomer) bus.peripherals)
    rw [inserted]
    constructor
    · simp only [List.filterMap_append, List.filterMap_cons, Sum.getLeft?_inl, nobody,
        List.nil_append]
    · rintro other mem same
      have present : .inr other ∈ front ++ back := by
        simpa using mem
      have used : Peripheral.address (Sum.inr other : D ⊕ Q) ∈ bus.addresses := by
        rw [addresses, split]
        exact List.mem_map_of_mem present
      exact free (same ▸ used)
  · rfl

/-- A habit that a device has when it is plugged in, it has after every run. -/
theorem Hosts.habit [Wire W] {newcomer : D} {input : D → D → Prop} {session : Session (D ⊕ Q) W}
    (hosts : Hosts newcomer input session) (stationary : Stationary Q)
    {fair : Journal (D ⊕ Q) → Prop} {holds : Option Transmission → Journal (D ⊕ Q) → D → Prop}
    (habit : Habit (Peripheral.address newcomer) input fair holds)
    (start : ∀ occupant, holds occupant [] newcomer) (isFair : fair session.journal) :
    Hosted (Peripheral.address newcomer) holds session.view := by
  rcases hosts with ⟨created, nobody, joins, within, stays⟩
  rename_i settings wire bus joined prelude occurrences
  have any : ∀ change, Occurrence.influence change ∈ prelude → True := fun _ _ => trivial
  have opened := (Session.opened_of_created created).1
  have before := (Session.after_stages (fun _ => True) opened any).1
  rcases alone_of_joins nobody joins with ⟨alone, same⟩
  have tidy : (Session.opened joined).bus.scheduler.Tidy := by
    change joined.scheduler.Tidy
    rw [same]
    exact before
  have run := (Session.after_stages (Within input) tidy within).2
  have joining : Hosted (Peripheral.address newcomer) holds (Session.opened joined).view :=
    ⟨newcomer, alone, start _⟩
  exact habit.stages stationary joining run stays isFair

/-- A bus with default settings and nothing but devices on it. -/
def bare (wire : W) (devices : List D) : PlayerBus (D ⊕ Device.Recorder) W where
  settings := {}
  wire
  peripherals := devices.map .inl
  failures := { threshold := ({} : Settings).failureWarnThreshold }

/-- A device that is plugged in alone is hosted. -/
theorem hosts_bare [Wire W] {wire : W} {device : D} {input : D → D → Prop}
    {occurrences : List (Occurrence (D ⊕ Device.Recorder) W)}
    (joins : ((bare wire []).attach (.inl device)).value = .ok (bare wire [device]))
    (within : ∀ change, .influence change ∈ occurrences → Within input change)
    (stays : Stays ((Session.opened (bare wire [device])).after occurrences).journal) :
    Hosts device input ((Session.opened (bare wire [device])).after occurrences) := by
  have created : create {} wire = .ok (bare wire ([] : List D)) := rfl
  have nobody : ((Session.opened (bare wire ([] : List D))).after []).bus.peripherals.filterMap
      Sum.getLeft? = [] := rfl
  exact .intro created nobody joins within stays

end PlayerBus

end MapleBus
