import MapleBus.Proofs.PlayerBus.Calling
import MapleBus.Proofs.PlayerBus.Lifecycle
import MapleBus.Proofs.PlayerBus.Occupancy

/-!
# What a peripheral is told of its transmissions

Where peripherals keep their addresses, every stage of a session continues the
course of the transmission that was accepted last, or begins a new one when that
is over.  So every run tells whole courses: whoever stays plugged in is told of
the start and of the end of a transmission, each once and at its time.
-/

namespace MapleBus

/-- Peripherals that keep their addresses. -/
structure Stationary (P : Type) [Peripheral P] : Prop where
  task : ∀ (peripheral : P) (now : UInt64),
    (Peripheral.task peripheral now).Obeys (fun _ => True) fun result =>
      Peripheral.address result = Peripheral.address peripheral
  started : ∀ (peripheral : P) (tx : Transmission),
    Peripheral.address (Peripheral.started peripheral tx).value = Peripheral.address peripheral
  failed : ∀ (peripheral : P) (failure : Failure) (tx : Transmission),
    Peripheral.address (Peripheral.failed peripheral failure tx).value =
      Peripheral.address peripheral
  completed : ∀ (peripheral : P) (reply : Option Packet) (tx : Transmission),
    Peripheral.address (Peripheral.completed peripheral reply tx).value =
      Peripheral.address peripheral

/-- A program that stays at an address has a result that satisfies the condition,
whatever it submits. -/
theorem Endpoint.StaysAt.obeys {α : Type} {address : Address} {condition : α → Prop}
    {program : Endpoint α} (stays : program.StaysAt address condition) :
    program.Obeys (fun _ => True) condition := by
  induction program with
  | done result => exact stays
  | schedule packet expectsReply next ih => exact ⟨trivial, fun answer => ih _ (stays.2 answer)⟩
  | status handle next ih | cancel handle next ih | cancelByRecipient recipient next ih
  | countRecipients recipient next ih | isIdle next ih =>
      exact fun answer => ih _ (stays answer)
  | note entry next ih => exact ih stays

theorem Steadfast.stationary {P : Type} [Peripheral P] (steadfast : Steadfast P) :
    Stationary P where
  task := fun peripheral now => (steadfast.task peripheral now).obeys
  started := steadfast.started
  failed := steadfast.failed
  completed := steadfast.completed

namespace PlayerBus

variable {P W : Type} [Peripheral P]

/-- A change from outside that leaves everybody at their address. -/
def Steady (change : P → P) : Prop :=
  ∀ peripheral, Peripheral.address (change peripheral) = Peripheral.address peripheral

theorem address_conclude (stationary : Stationary P) (peripheral : P) (tx : Transmission) :
    Peripheral.address (conclude peripheral tx).value = Peripheral.address peripheral := by
  unfold conclude
  cases tx.status.failure? with
  | some failure => exact stationary.failed peripheral failure tx
  | none => exact stationary.completed peripheral tx.reply? tx

/-- Whoever stays where another was, leaves the addresses as they are. -/
theorem addresses_replace {front back : List P} {former renewed : P}
    (stays : Peripheral.address renewed = Peripheral.address former) :
    (front ++ renewed :: back).map Peripheral.address =
      (front ++ former :: back).map Peripheral.address := by
  rw [List.map_append, List.map_append, List.map_cons, List.map_cons, stays]

theorem addresses_map_of_steady {change : P → P} (steady : Steady change)
    (peripherals : List P) :
    (peripherals.map change).map Peripheral.address = peripherals.map Peripheral.address := by
  rw [List.map_map]
  exact List.map_congr_left fun peripheral _ => steady peripheral

/-- The journal tells courses, and no two peripherals share an address. -/
structure View.Narrated (view : View P) : Prop where
  nodup : (view.peripherals.map Peripheral.address).Nodup
  narrates : Narrates view.occupant view.journal (view.peripherals.map Peripheral.address)

namespace View.Narrated

/-- Of the peripherals only the addresses count. -/
theorem of_addresses {occupant : Option Transmission} {journal : Journal P}
    {former later : List P}
    (same : later.map Peripheral.address = former.map Peripheral.address)
    (nodup : (former.map Peripheral.address).Nodup)
    (narrates : Narrates occupant journal (former.map Peripheral.address)) :
    Narrated ⟨occupant, later, journal⟩ := by
  rw [← same] at nodup narrates
  exact ⟨nodup, narrates⟩

/-- A peripheral that works narrates. -/
theorem work (stationary : Stationary P) {front back : List P} {peripheral : P} {desk : Desk P}
    (now : UInt64) (tidy : desk.scheduler.Tidy)
    (narrated : Narrated ⟨desk.scheduler.occupant?, front ++ peripheral :: back, desk.journal⟩) :
    let ran := (Peripheral.task peripheral now).play peripheral (desk.write (.began peripheral))
    Narrated ⟨ran.2.scheduler.occupant?, front ++ ran.1 :: back, ran.2.journal⟩ := by
  intro ran
  have began : (desk.write (.began peripheral)).scheduler.Tidy := tidy
  obtain ⟨⟨-, requests⟩, stayed⟩ :=
    Endpoint.requests_play (stationary.task peripheral now) peripheral began
  have present : Peripheral.address peripheral ∈
      (front ++ peripheral :: back).map Peripheral.address := by
    simp
  have start : Narrates desk.scheduler.occupant? (.began peripheral :: desk.journal) _ :=
    narrated.narrates.push fun _ => trivial
  apply of_addresses (addresses_replace stayed) narrated.nodup
  exact Narrates.requests start present requests

/-- Somebody is plugged in at a free address. -/
theorem plugIn {occupant : Option Transmission} {front back : List P} {journal : Journal P}
    (narrated : Narrated ⟨occupant, front ++ back, journal⟩) (peripheral : P)
    (free : Peripheral.address peripheral ∉ (front ++ back).map Peripheral.address) :
    Narrated ⟨occupant, front ++ peripheral :: back, .attached peripheral :: journal⟩ := by
  have nodup := narrated.nodup
  constructor
  · rw [List.map_append, List.map_cons, List.nodup_middle]
    rw [List.map_append] at free nodup
    exact List.nodup_cons.mpr ⟨free, nodup⟩
  · apply (narrated.narrates.attach peripheral free).mono
    rintro address mem
    simp only [List.map_append, List.map_cons, List.mem_append, List.mem_cons] at mem ⊢
    exact mem.imp_right Or.inr

/-- Whoever is left is at an address that nobody left. -/
theorem remaining {occupant : Option Transmission} {journal : Journal P}
    {peripherals : List P} (leaves : P → Bool)
    (narrates : Narrates occupant journal
      ((peripherals.map Peripheral.address).filter fun address =>
        address ∉ (peripherals.filter leaves).map Peripheral.address)) :
    Narrates occupant journal
      ((peripherals.filter fun peripheral => !leaves peripheral).map Peripheral.address) := by
  apply narrates.mono
  rintro address mem
  obtain ⟨used, left⟩ := List.mem_filter.mp mem
  obtain ⟨peripheral, peripheralMem, rfl⟩ := List.mem_map.mp used
  refine List.mem_map_of_mem (List.mem_filter.mpr ⟨peripheralMem, ?_⟩)
  cases leaving : leaves peripheral with
  | false => rfl
  | true =>
      have gone : Peripheral.address peripheral ∈
          (peripherals.filter leaves).map Peripheral.address :=
        List.mem_map_of_mem (List.mem_filter.mpr ⟨peripheralMem, leaving⟩)
      simp only [decide_eq_true_eq] at left
      exact absurd gone left

/-- Every stage narrates. -/
theorem stage (stationary : Stationary P) {former later : View P} (narrated : former.Narrated)
    (stage : Stage Steady former later) : later.Narrated := by
  have nodup := narrated.nodup
  have narrates := narrated.narrates
  cases stage with
  | waited _ now => exact ⟨nodup, narrates.push fun _ => trivial⟩
  | concluded tx status front back peripheral journal now sent terminal here before =>
      have stays := address_conclude stationary peripheral { tx with status }
      apply of_addresses (addresses_replace stays) nodup
      exact narrates.conclude sent terminal now peripheral here
  | forgotten tx status peripherals journal now sent terminal nobody =>
      refine ⟨nodup, narrates.lose sent terminal now ?_⟩
      rintro present
      obtain ⟨peripheral, mem, here⟩ := List.mem_map.mp present
      exact nobody peripheral mem here
  | worked front back peripheral desk now tidy => exact narrated.work stationary now tidy
  | launched tx front back peripheral journal pending here before =>
      apply of_addresses (addresses_replace (stationary.started peripheral _)) nodup
      exact narrates.launch pending peripheral here
  | slipped tx peripherals journal pending nobody =>
      refine ⟨nodup, narrates.slip pending ?_⟩
      rintro present
      obtain ⟨peripheral, mem, here⟩ := List.mem_map.mp present
      exact nobody peripheral mem here
  | attached occupant front back peripheral journal free =>
      exact narrated.plugIn peripheral free
  | detached _ leaves kept =>
      refine ⟨nodup.sublist (List.filter_sublist.map _), ?_⟩
      exact remaining leaves (narrates.detachAll _ kept)
  | withdrawn tx peripherals journal leaves pending =>
      refine ⟨nodup.sublist (List.filter_sublist.map _), ?_⟩
      exact remaining leaves ((narrates.cancel pending).detachAll _ (by simp))
  | influenced _ change steady =>
      exact of_addresses (addresses_map_of_steady steady former.peripherals) nodup narrates

theorem stages (stationary : Stationary P) {former later : View P} (narrated : former.Narrated)
    (stages : Stages Steady former later) : later.Narrated := by
  induction stages with
  | refl => exact narrated
  | tail _ next ih => exact ih.stage stationary next

end View.Narrated

namespace Session

variable [Wire W]

/-- After every run of a bus whose peripherals keep their addresses, the journal tells
courses: whoever stays plugged in until a transmission to themselves ends is told of
its start exactly when the wire takes it, and of its end, as it was recorded, exactly
when the outcome is harvested, and of nothing else.  The bus stands where the last
course does.  At every moment of the run, callbacks are made as they are written down. -/
theorem told_after (stationary : Stationary P) {settings : Settings} {wire : W}
    {bus : PlayerBus P W} (created : create settings wire = .ok bus)
    {occurrences : List (Occurrence P W)}
    (steady : ∀ change, .influence change ∈ occurrences → Steady change) :
    let session := (opened bus).after occurrences
    session.bus.addresses.Nodup ∧
      (∃ current, Told session.journal current ∧
        Stands current session.bus.scheduler.occupant? session.bus.addresses) ∧
      ∀ earlier, earlier <+: occurrences → ((opened bus).after earlier).CallsAsWritten := by
  intro session
  obtain ⟨start, nothing⟩ := opened_of_created created
  obtain ⟨-, stages⟩ := after_stages Steady start steady
  have blank : View.Narrated (⟨none, [], []⟩ : View P) := {
    nodup := List.nodup_nil
    narrates := ⟨none, .nothing [] (List.forall_mem_nil _), rfl⟩ }
  rw [nothing] at stages
  have narrated := blank.stages stationary stages
  exact ⟨narrated.nodup, narrated.narrates, fun earlier _ => callsAsWritten _⟩

/-- A recorder whose packet completes in the middle of its second cycle, and who
submits the next one in its third. -/
def answered : List (Occurrence Device.Recorder SilentWire) :=
  [ .attach { address := ⟨0x20⟩ }, .task 0 [], .task 1 [[], [.writeComplete]],
    .influence id, .task 2 [] ]

/-- The second packet of that recorder is on the wire. -/
theorem told_answered :
    create {} {} = .ok silentBus ∧
      (∀ change, .influence change ∈ answered → Steady change) ∧
      ((opened silentBus).after answered).bus.scheduler.occupant?.map Transmission.id =
        some 2 ∧
      ∃ current, Told ((opened silentBus).after answered).journal current ∧
        Stands current ((opened silentBus).after answered).bus.scheduler.occupant?
          ((opened silentBus).after answered).bus.addresses := by
  have created : create {} {} = .ok silentBus := by rfl
  have steady : ∀ change, .influence change ∈ answered → Steady change := by
    rintro change mem
    have same : change = id := by simpa [answered] using mem
    rw [same]
    exact fun _ => rfl
  have second : ((opened silentBus).after answered).bus.scheduler.occupant?.map
      Transmission.id = some 2 := by
    decide +kernel
  have told := told_after steadfast_recorder.stationary created steady
  exact ⟨created, steady, second, told.2.1⟩

end Session

end PlayerBus

end MapleBus
