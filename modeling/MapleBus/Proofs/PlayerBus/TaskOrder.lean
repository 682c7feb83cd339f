import MapleBus.Proofs.PlayerBus.News
import MapleBus.Proofs.PlayerBus.Roster

/-!
# The order of programs

In a cycle every peripheral runs one program, in the order in which the bus keeps the
peripherals.  Where peripherals keep their addresses, every run leaves the addresses in
use a roster, so the order in which peripherals were plugged in leaves no trace in the
order of their programs.  A request that is turned down leaves no trace at all.
-/

namespace MapleBus

/-! ## Cycles -/

section Programs

variable {P : Type} [Peripheral P] {entry : JournalEntry P} {journal news : Journal P}

/-- The address whose program begins. -/
def JournalEntry.program? : JournalEntry P → Option Address
  | .began peripheral => some (Peripheral.address peripheral)
  | _ => none

/-- The addresses whose programs began, in order. -/
def Journal.programs (journal : Journal P) : List Address :=
  (journal.filterMap JournalEntry.program?).reverse

theorem Journal.programs_append (nothing : ∀ entry ∈ news, entry.program? = none) :
    Journal.programs (news ++ journal) = journal.programs := by
  have noPrograms : news.filterMap JournalEntry.program? = [] :=
    List.filterMap_eq_nil_iff.mpr nothing
  rw [programs, List.filterMap_append, noPrograms, List.nil_append]
  rfl

theorem Journal.programs_began (peripheral : P) :
    Journal.programs (.began peripheral :: journal) =
      journal.programs ++ [Peripheral.address peripheral] := by
  have here : (JournalEntry.began peripheral).program? = some (Peripheral.address peripheral) := rfl
  rw [programs, List.filterMap_cons_some here, List.reverse_cons]
  rfl

/-- A callback begins no program. -/
theorem JournalEntry.IsCallback.program? (callback : entry.IsCallback) : entry.program? = none := by
  cases entry <;> first | rfl | exact False.elim callback

theorem JournalEntry.IsRequest.program? {rule : Packet → Prop} {author : P}
    (request : entry.IsRequest rule author) : entry.program? = none := by
  cases entry <;> first | rfl | exact False.elim request

end Programs

namespace PlayerBus

variable {P W : Type} [Peripheral P]

/-- A program leaves a peripheral at its address and begins no other. -/
theorem play_task (stationary : Stationary P) (now : UInt64) (peripheral : P) (desk : Desk P) :
    let ran := (Peripheral.task peripheral now).play peripheral (desk.write (.began peripheral))
    Journal.programs ran.2.journal =
        Journal.programs desk.journal ++ [Peripheral.address peripheral] ∧
      Peripheral.address ran.1 = Peripheral.address peripheral := by
  intro ran
  obtain ⟨⟨news, split, requests⟩, stays⟩ := Endpoint.news_play (stationary.task peripheral now)
    peripheral (desk.write (.began peripheral))
  constructor
  · rw [split, Journal.programs_append fun entry mem => (requests entry mem).program?]
    exact Journal.programs_began peripheral
  · exact stays

/-- The programs of a cycle run in the order of the peripherals, who stay where they
are. -/
theorem playTasks_in_order (stationary : Stationary P) (now : UInt64) (peripherals : List P)
    (desk : Desk P) :
    Journal.programs (playTasks now peripherals desk).2.journal =
        Journal.programs desk.journal ++ peripherals.map Peripheral.address ∧
      (playTasks now peripherals desk).1.map Peripheral.address =
        peripherals.map Peripheral.address := by
  induction peripherals generalizing desk with
  | nil => exact ⟨(List.append_nil _).symm, rfl⟩
  | cons peripheral rest ih =>
      obtain ⟨first, stays⟩ := play_task stationary now peripheral desk
      obtain ⟨others, othersStay⟩ := ih
        ((Peripheral.task peripheral now).play peripheral (desk.write (.began peripheral))).2
      constructor
      · rw [List.map_cons, List.append_cons, ← first]
        exact others
      · exact congrArg₂ List.cons stays othersStay

namespace Session

/-- Nobody comes or goes, and no program begins. -/
structure Undisturbed (former later : Session P W) : Prop where
  settings : later.bus.settings = former.bus.settings
  addresses : later.bus.addresses = former.bus.addresses
  programs : Journal.programs later.journal = Journal.programs former.journal

theorem Undisturbed.tell {former between later : Session P W}
    (first : Undisturbed former between) (second : Tells between later) :
    Undisturbed former later where
  settings := second.settings.trans first.settings
  addresses := second.addresses.trans first.addresses
  programs := by
    obtain ⟨news, split, callbacks⟩ := second.news
    rw [split, Journal.programs_append fun entry mem => (callbacks entry mem).program?]
    exact first.programs

theorem undisturbed_settle (stationary : Stationary P) (session : Session P W)
    (signals : List Signal) (now : UInt64) :
    Undisturbed session ((session.hear signals).settle now) := by
  apply Undisturbed.tell _ (tells_deliver stationary _)
  constructor
  · rfl
  · rfl
  · cases (session.hear signals).bus.scheduler.settled? <;> rfl

theorem undisturbed_launch [Wire W] (stationary : Stationary P) (session : Session P W)
    (signals : List Signal) : Undisturbed session (session.hear signals).launch := by
  apply Undisturbed.tell _ (tells_deliver stationary _)
  constructor
  · rfl
  · rfl
  · cases (session.hear signals).bus.scheduler.sent? (session.hear signals).bus.wire <;> rfl

theorem work_in_order (stationary : Stationary P) (session : Session P W) (now : UInt64)
    (arrivals : List (List Signal)) :
    (session.work now arrivals).1.bus.settings = session.bus.settings ∧
      (session.work now arrivals).1.bus.addresses = session.bus.addresses ∧
      Journal.programs (session.work now arrivals).1.journal =
        Journal.programs session.journal ++ session.bus.addresses := by
  obtain ⟨programs, addresses⟩ := playTasks_in_order stationary now session.bus.peripherals
    { scheduler := session.bus.scheduler, arrivals, journal := session.journal }
  rw [work_eq]
  exact ⟨rfl, addresses, programs⟩

/-- A cycle runs one program of each peripheral, in the order they are kept. -/
theorem task_in_order [Wire W] (stationary : Stationary P) (session : Session P W)
    (now : UInt64) (arrivals : List (List Signal)) :
    (session.task now arrivals).bus.settings = session.bus.settings ∧
      (session.task now arrivals).bus.addresses = session.bus.addresses ∧
      Journal.programs (session.task now arrivals).journal =
        Journal.programs session.journal ++ session.bus.addresses := by
  let settled := (session.hear (arrivals.headD [])).settle now
  let worked := settled.work now arrivals.tail
  have before : Undisturbed session settled :=
    undisturbed_settle stationary session (arrivals.headD []) now
  have afterwards : Undisturbed worked.1 (session.task now arrivals) := by
    rw [task_eq]
    exact undisturbed_launch stationary worked.1 (worked.2.headD [])
  obtain ⟨settings, addresses, programs⟩ := work_in_order stationary settled now arrivals.tail
  refine ⟨(afterwards.settings.trans settings).trans before.settings, ?_, ?_⟩
  · rw [afterwards.addresses, addresses, before.addresses]
  · rw [afterwards.programs, programs, before.programs, before.addresses]

/-! ## Runs -/

section Run

variable [Wire W] {session : Session P W}

omit [Wire W] in
theorem roster_attached (roster : Roster session.bus.settings.playerIndex session.bus.addresses)
    (peripheral : P) :
    (session.attach peripheral).bus.settings = session.bus.settings ∧
      Roster session.bus.settings.playerIndex (session.attach peripheral).bus.addresses := by
  rw [attach]
  cases attached : (session.bus.attach peripheral).value with
  | error fault => exact ⟨rfl, roster⟩
  | ok after =>
      have settings : after.settings = session.bus.settings := by
        rw [(pluggedIn attached).nothing_else]
      have joined := roster_attach roster attached
      rw [settings] at joined
      exact ⟨settings, joined⟩

omit [Wire W] in
theorem roster_detached (roster : Roster session.bus.settings.playerIndex session.bus.addresses)
    (address : Address) :
    (session.detach address).bus.settings = session.bus.settings ∧
      Roster session.bus.settings.playerIndex (session.detach address).bus.addresses := by
  rw [detach]
  cases detached : (session.bus.detach address).value with
  | error fault => exact ⟨rfl, roster⟩
  | ok result =>
      have settings : result.2.settings = session.bus.settings := by
        rw [(pluggedOut roster.nodup detached).nothing_else]
      have left := roster_detach roster detached
      rw [settings] at left
      exact ⟨settings, left⟩

/-- Every occurrence that leaves everybody at their address keeps the roster. -/
theorem roster_occur (stationary : Stationary P)
    (roster : Roster session.bus.settings.playerIndex session.bus.addresses)
    {occurrence : Occurrence P W}
    (steady : ∀ change, occurrence = .influence change → Steady change) :
    (session.occur occurrence).bus.settings = session.bus.settings ∧
      Roster session.bus.settings.playerIndex (session.occur occurrence).bus.addresses := by
  cases occurrence with
  | attach peripheral => exact roster_attached roster peripheral
  | detach address => exact roster_detached roster address
  | handle event =>
      cases event with
      | attached peripheral => exact roster_attached roster peripheral
      | detached address => exact roster_detached roster address
  | task now arrivals =>
      obtain ⟨settings, addresses, -⟩ := task_in_order stationary session now arrivals
      rw [occur, addresses]
      exact ⟨settings, roster⟩
  | signal raised => exact ⟨rfl, roster⟩
  | cancel cancellation => exact ⟨rfl, roster⟩
  | rewire change => exact ⟨rfl, roster⟩
  | influence change =>
      have stay : (session.occur (.influence change)).bus.addresses = session.bus.addresses :=
        addresses_map_of_steady (steady change rfl) _
      rw [stay]
      exact ⟨rfl, roster⟩

omit [Peripheral P] [Wire W] in
/-- On a bus that was just created nobody is plugged in, and nothing is counted. -/
theorem of_created {settings : Settings} {wire : W} {bus : PlayerBus P W}
    (created : create settings wire = .ok bus) :
    bus.settings = settings ∧ bus.peripherals = [] ∧ bus.failures.length = 0 := by
  unfold create at created
  cases valid : settings.validate with
  | error fault =>
      rw [valid] at created
      contradiction
  | ok _ =>
      rw [valid] at created
      cases created
      exact ⟨rfl, rfl, rfl⟩

/-- After every run the addresses in use are a roster of the player. -/
theorem roster_of_run (stationary : Stationary P) {settings : Settings} {wire : W}
    {bus : PlayerBus P W} (created : create settings wire = .ok bus)
    {occurrences : List (Occurrence P W)}
    (steady : ∀ change, .influence change ∈ occurrences → Steady change) :
    ((opened bus).after occurrences).bus.settings = settings ∧
      Roster settings.playerIndex ((opened bus).after occurrences).bus.addresses := by
  let holds (session : Session P W) : Prop :=
    session.bus.settings = settings ∧ Roster settings.playerIndex session.bus.addresses
  have start : holds (opened bus) := by
    obtain ⟨same, nobody, -⟩ := of_created created
    refine ⟨same, ?_⟩
    change Roster _ (bus.peripherals.map Peripheral.address)
    rw [nobody]
    exact Roster.nil _
  apply after_induction _ start
  rintro session ⟨same, roster⟩ occurrence mem
  rw [← same] at roster
  have ofThisOne : ∀ change, occurrence = .influence change → Steady change := by
    rintro change rfl
    exact steady change mem
  obtain ⟨kept, later⟩ := roster_occur stationary roster ofThisOne
  rw [same] at later
  exact ⟨kept.trans same, later⟩

/-! ## Requests -/

/-- Where there is no room nothing changes; otherwise the one peripheral is plugged in. -/
theorem occur_attach (roster : Roster session.bus.settings.playerIndex session.bus.addresses)
    (peripheral : P) :
    match (session.bus.attach peripheral).value with
    | .error _ => session.occur (.attach peripheral) = session ∧
        ¬ Vacant session.bus (Peripheral.address peripheral)
    | .ok after => (session.occur (.attach peripheral)).bus = after ∧
        PluggedIn session.bus peripheral after := by
  cases attached : (session.bus.attach peripheral).value with
  | error fault =>
      constructor
      · simp only [occur, attach, attached]
      · exact of_attach_error roster attached
  | ok after =>
      constructor
      · simp only [occur, attach, attached]
      · exact pluggedIn attached

/-- Where there is nobody nothing changes; otherwise those who leave are taken out. -/
theorem occur_detach (roster : Roster session.bus.settings.playerIndex session.bus.addresses)
    (address : Address) :
    match (session.bus.detach address).value with
    | .error _ => session.occur (.detach address) = session ∧
        address ∉ session.bus.addresses
    | .ok (removed, after) => (session.occur (.detach address)).bus = after ∧
        PluggedOut session.bus address removed after ∧
        removed.length = session.bus.peripherals.length - after.peripherals.length := by
  cases detached : (session.bus.detach address).value with
  | error fault =>
      constructor
      · simp only [occur, detach, detached]
      · exact of_detach_error detached
  | ok result =>
      have plugged := pluggedOut roster.nodup detached
      refine ⟨?_, plugged, ?_⟩
      · simp only [occur, detach, detached]
      · exact Nat.eq_sub_of_add_eq plugged.count

/-- A plug event is the request it speaks of. -/
theorem occur_handle (session : Session P W) (event : PlugEvent P) :
    match event with
    | .attached peripheral =>
        (session.bus.handle event).value =
            (session.bus.attach peripheral).value.map (fun after => ([], after)) ∧
          session.occur (.handle event) = session.occur (.attach peripheral)
    | .detached address =>
        (session.bus.handle event).value = (session.bus.detach address).value ∧
          session.occur (.handle event) = session.occur (.detach address) := by
  cases event with
  | attached peripheral =>
      constructor
      · simp only [handle, Logged.value_bind]
        rfl
      · rfl
  | detached address => exact ⟨rfl, rfl⟩

/-- After every run of a bus whose peripherals keep their addresses, the addresses in use
are a roster of the player, and the programs of the next cycle run in its order, which
any other run to the same addresses shares.  A request to plug in or out changes nothing
where there is no room, or nobody; otherwise it adds the one peripheral, or takes out one
expansion, or everybody with the main one. -/
theorem roster_after (stationary : Stationary P) {settings : Settings} {wire : W}
    {bus : PlayerBus P W} (created : create settings wire = .ok bus)
    {occurrences : List (Occurrence P W)}
    (steady : ∀ change, .influence change ∈ occurrences → Steady change) :
    let session := (opened bus).after occurrences
    session.bus.settings = settings ∧
      Roster settings.playerIndex session.bus.addresses ∧
      (∀ now arrivals, Journal.programs (session.task now arrivals).journal =
        Journal.programs session.journal ++ session.bus.addresses) ∧
      (∀ others : List (Occurrence P W),
        (∀ change, .influence change ∈ others → Steady change) →
        let other := (opened bus).after others
        (∀ address, address ∈ other.bus.addresses ↔ address ∈ session.bus.addresses) →
          other.bus.addresses = session.bus.addresses) ∧
      (∀ peripheral,
        match (session.bus.attach peripheral).value with
        | .error _ => session.occur (.attach peripheral) = session ∧
            ¬ Vacant session.bus (Peripheral.address peripheral)
        | .ok after => (session.occur (.attach peripheral)).bus = after ∧
            PluggedIn session.bus peripheral after) ∧
      (∀ address,
        match (session.bus.detach address).value with
        | .error _ => session.occur (.detach address) = session ∧
            address ∉ session.bus.addresses
        | .ok (removed, after) => (session.occur (.detach address)).bus = after ∧
            PluggedOut session.bus address removed after ∧
            removed.length = session.bus.peripherals.length - after.peripherals.length) ∧
      ∀ event : PlugEvent P,
        match event with
        | .attached peripheral =>
            (session.bus.handle event).value =
                (session.bus.attach peripheral).value.map (fun after => ([], after)) ∧
              session.occur (.handle event) = session.occur (.attach peripheral)
        | .detached address =>
            (session.bus.handle event).value = (session.bus.detach address).value ∧
              session.occur (.handle event) = session.occur (.detach address) := by
  intro session
  obtain ⟨settings, roster⟩ := roster_of_run stationary created steady
  have present : Roster session.bus.settings.playerIndex session.bus.addresses := by
    rw [settings]
    exact roster
  refine ⟨settings, roster, ?_, ?_, occur_attach present, occur_detach present,
    occur_handle session⟩
  · rintro now arrivals
    exact (task_in_order stationary session now arrivals).2.2
  · rintro others steadyToo other same
    exact (roster_of_run stationary created steadyToo).2.eq_of_mem_iff roster same

/-- Recorders that are plugged in out of order, among requests that are turned down. -/
def scrambled : List (Occurrence Device.Recorder SilentWire) :=
  [ .attach { address := ⟨0x01⟩ }, .attach { address := ⟨0x20⟩ }, .attach { address := ⟨0x10⟩ },
    .task 0 [], .handle (.attached { address := ⟨0x01⟩ }), .attach { address := ⟨0x20⟩ },
    .detach ⟨0x02⟩, .influence id, .attach { address := ⟨0x04⟩ }, .handle (.detached ⟨0x10⟩) ]

/-- The recorders that are left are in attach order. -/
theorem roster_scrambled :
    create {} {} = .ok silentBus ∧
      (∀ change, .influence change ∈ scrambled → Steady change) ∧
      ((opened silentBus).after scrambled).bus.addresses = [⟨0x20⟩, ⟨0x01⟩, ⟨0x04⟩] ∧
      Roster 0 ((opened silentBus).after scrambled).bus.addresses := by
  have created : create {} {} = .ok silentBus := by rfl
  have steady : ∀ change, .influence change ∈ scrambled → Steady change := by
    rintro change mem
    have same : change = id := by simpa [scrambled] using mem
    rw [same]
    exact fun _ => rfl
  have left : ((opened silentBus).after scrambled).bus.addresses =
      [⟨0x20⟩, ⟨0x01⟩, ⟨0x04⟩] := by
    decide +kernel
  exact ⟨created, steady, left, (roster_after steadfast_recorder.stationary created steady).2.1⟩

end Run

end Session

end PlayerBus

end MapleBus
