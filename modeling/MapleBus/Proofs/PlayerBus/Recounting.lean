import MapleBus.Proofs.PlayerBus.Attending

/-!
# Runs with calls

A cycle settles and reports, lets the programs run, and launches and reports.  Reports and
the programs of others continue the tale of a follower, its own program continues it by a
cycle of its own, and calls come in between.  So whatever a follower keeps of its tale, it
has kept after every run with calls.
-/

namespace MapleBus

open Journal

variable {D Q C W : Type}

/-- Requests of others are calm. -/
theorem JournalEntry.IsRequest.isCalm {rule : Packet → Prop} {author : Q}
    {entry : JournalEntry (D ⊕ Q)} (request : entry.IsRequest rule (.inr author)) :
    entry.IsCalm := by
  cases entry with
  | accepted other tx =>
      cases request.1
      trivial
  | _ => trivial

theorem JournalEntry.IsRequest.ne_cycle {rule : Packet → Prop} {author : D ⊕ Q}
    {entry : JournalEntry (D ⊕ Q)} (request : entry.IsRequest rule author) (now : UInt64) :
    entry ≠ .cycle now := by
  rintro rfl
  contradiction

theorem JournalEntry.IsReport.ne_cycle {entry : JournalEntry (D ⊕ Q)} (report : entry.IsReport)
    (now : UInt64) : entry ≠ .cycle now := by
  rintro rfl
  contradiction

namespace PlayerBus

theorem Stays.of_append {news journal : Journal (D ⊕ Q)} (stays : Stays (news ++ journal)) :
    Stays journal :=
  fun entry mem => stays entry (List.mem_append_right _ mem)

variable [Peripheral D] [Peripheral Q]

/-- What is seen of a bus is told, and as long as a follower stays plugged in and nothing of
it is cancelled, it attends the tale.  What is to be kept of the tale was kept whenever a
submission was accepted. -/
structure Attended (follower : Follower D) (keeps : Tale D Q C → D → Prop) (address : Address)
    (view : View (D ⊕ Q)) (tale : Tale D Q C) : Prop where
  told : tale.journal = view.journal
  hosted : Stays view.journal → dropped anything view.journal = [] →
    ∃ device, Alone address device view.peripherals ∧
      follower.Attends keeps address view.occupant tale device
  kept : tale.Always (Record.IsKept keeps)

namespace Attended

variable {follower : Follower D} {input : D → D → Prop} {serve : C → D → D}
  {keeps : Tale D Q C → D → Prop} {address : Address} {tale : Tale D Q C}
  {former later : View (D ⊕ Q)} {news : Journal (D ⊕ Q)}

/-- Calm news are told. -/
theorem stages (attended : Attended follower keeps address former tale)
    (stationary : Stationary Q) (upkeep : follower.Upkeep input serve keeps)
    (stages : Stages (Within Eq) former later) (grown : later.journal = news ++ former.journal)
    (calm : ∀ entry ∈ news, entry.IsCalm) :
    Attended follower keeps address later (.tell news tale) where
  told := by rw [Tale.journal_tell, attended.told, grown]
  hosted := by
    rintro stays undisturbed
    have same {other : Journal (D ⊕ Q)} (split : later.journal = other ++ tale.journal) :
        other = news := by
      rw [grown, attended.told] at split
      exact (List.append_cancel_right split).symm
    have stayed : Stays former.journal := .of_append (grown ▸ stays)
    have before := attended.hosted stayed (undisturbed_of_append (grown ▸ undisturbed))
    rcases before with ⟨device, alone, attends⟩
    have start : Hosted address (follower.Continues keeps address tale) former :=
      ⟨device, alone, attends.here, [], attended.told.symm, fun _ _ => attends⟩
    have ends := (upkeep.habit tale).stages stationary start stages stays
      fun other split => same split ▸ calm
    rcases ends with ⟨changed, alone, -, other, split, continues⟩
    cases same split
    exact ⟨changed, alone, continues undisturbed calm⟩
  kept := attended.kept.tell fun entry mem _ => (calm entry mem).isKept keeps _

/-- The device is called. -/
theorem call (attended : Attended follower keeps address former tale)
    (upkeep : follower.Upkeep input serve keeps) (call : C) :
    Attended follower keeps address
      { former with peripherals := former.peripherals.map (Sum.map (serve call) id) }
      ((former.peripherals.filterMap Sum.getLeft?).map (.called · call) ++ tale) where
  told := by
    rw [← attended.told, Tale.journal, List.filterMap_append]
    simp [Tale.journal, List.filterMap_map, Function.comp_def, Record.entry?]
  hosted := by
    rintro stays undisturbed
    rcases attended.hosted stays undisturbed with ⟨device, alone, attends⟩
    have within : Within (fun device later => later = serve call device)
        (Sum.map (serve call) (id : Q → Q)) := {
      device := fun device => ⟨_, rfl, rfl⟩
      other := fun other => ⟨other, rfl, rfl⟩ }
    rcases alone.influence within with ⟨_, rfl, changed⟩
    rw [alone.devices]
    exact ⟨_, changed, attends.call upkeep call⟩
  kept := by
    apply attended.kept.called
    rintro device earlier
    apply Record.IsKept.of_apart
    rintro author tx ⟨⟩

/-- The program of the device runs, while nothing of it is cancelled. -/
theorem work {desk : Desk (D ⊕ Q)} {front back : List (D ⊕ Q)} {first : D}
    (attended : Attended follower keeps address
      ⟨desk.scheduler.occupant?, front ++ .inl first :: back, desk.journal⟩ tale)
    (upkeep : follower.Upkeep input serve keeps) (tidy : desk.scheduler.Tidy) {now : UInt64}
    (clock : tale.clock? = some now) (stays : Stays desk.journal)
    (undisturbed : dropped anything desk.journal = []) :
    let ran := (Peripheral.task (.inl first : D ⊕ Q) now).play (.inl first)
      (desk.write (.began (.inl first)))
    ∃ device news, ran.2.journal = news ++ desk.journal ∧
      Alone address device (front ++ ran.1 :: back) ∧
      follower.Attends keeps address ran.2.scheduler.occupant? (.tell news tale) device ∧
      (Tale.tell news tale).Always (Record.IsKept keeps) := by
  intro ran
  rcases attended.hosted stays undisturbed with ⟨device, alone, attends⟩
  cases alone.eq_of_split
  have played : ran = (Sum.inl ((Peripheral.task first now).play (Sum.inl first)
      (desk.write (.began (.inl first)))).1, _) :=
    Endpoint.play_map (Sum.inl first) Sum.inl (Peripheral.task first now) _
  have began : (desk.write (.began (.inl first))).scheduler.Tidy := tidy
  have errand := upkeep.lawful.errand first now (.inl first) began attends.first
  have quiet : dropped anything tale.journal = [] := attended.told ▸ undisturbed
  rcases attends.work upkeep clock quiet errand with ⟨news, told, works, kept⟩
  rw [played]
  exact ⟨_, news, told, alone.renew _, works, kept attended.kept⟩

/-- What the program of the device adds is told. -/
theorem own {desk : Desk (D ⊕ Q)} {front back : List (D ⊕ Q)} {first : D}
    (attended : Attended follower keeps address
      ⟨desk.scheduler.occupant?, front ++ .inl first :: back, desk.journal⟩ tale)
    (upkeep : follower.Upkeep input serve keeps) (tidy : desk.scheduler.Tidy) {now : UInt64}
    (clock : tale.clock? = some now) :
    let ran := (Peripheral.task (.inl first : D ⊕ Q) now).play (.inl first)
      (desk.write (.began (.inl first)))
    ∀ news, ran.2.journal = news ++ desk.journal → Attended follower keeps address
      ⟨ran.2.scheduler.occupant?, front ++ ran.1 :: back, ran.2.journal⟩ (.tell news tale) := by
  rintro ran news grown
  constructor
  · rw [Tale.journal_tell, attended.told, grown]
  · rintro stays undisturbed
    have stayed : Stays desk.journal := .of_append (grown ▸ stays)
    have before : dropped anything desk.journal = [] := undisturbed_of_append (grown ▸ undisturbed)
    rcases attended.work upkeep tidy clock stayed before with
      ⟨device, added, told, alone, attends, -⟩
    cases List.append_cancel_right (told.symm.trans grown)
    exact ⟨device, alone, attends⟩
  · by_cases steady : Stays desk.journal ∧ dropped anything desk.journal = []
    · rcases attended.work upkeep tidy clock steady.1 steady.2 with ⟨-, added, told, -, -, kept⟩
      cases List.append_cancel_right (told.symm.trans grown)
      exact kept
    · -- Nothing is to be kept any more.
      apply attended.kept.tell
      rintro entry - newer device tx - stays undisturbed
      rw [Tale.journal_tell, attended.told] at stays undisturbed
      exact absurd ⟨stays.of_append, undisturbed_of_append undisturbed⟩ steady

/-- A program runs. -/
theorem program {desk : Desk (D ⊕ Q)} {front back : List (D ⊕ Q)} {peripheral : D ⊕ Q}
    (attended : Attended follower keeps address
      ⟨desk.scheduler.occupant?, front ++ peripheral :: back, desk.journal⟩ tale)
    (stationary : Stationary Q) (upkeep : follower.Upkeep input serve keeps)
    (tidy : desk.scheduler.Tidy) {now : UInt64} (clock : tale.clock? = some now) :
    let ran := (Peripheral.task peripheral now).play peripheral (desk.write (.began peripheral))
    ∃ news, ran.2.journal = news ++ desk.journal ∧ (∀ entry ∈ news, ∀ time, entry ≠ .cycle time) ∧
      Attended follower keeps address
        ⟨ran.2.scheduler.occupant?, front ++ ran.1 :: back, ran.2.journal⟩ (.tell news tale) := by
  intro ran
  have asks := (Endpoint.news_play (Endpoint.obeys_true (Peripheral.task peripheral now))
    peripheral (desk.write (.began peripheral))).1
  rcases asks with ⟨requests, split, asks⟩
  have grown : ran.2.journal = (requests ++ [.began peripheral]) ++ desk.journal :=
    split.trans (List.append_assoc requests [.began peripheral] desk.journal).symm
  refine ⟨requests ++ [.began peripheral], grown, ?_, ?_⟩
  · rintro entry mem
    rcases List.mem_append.mp mem with asked | began
    · exact (asks entry asked).ne_cycle
    · rw [List.mem_singleton.mp began]
      rintro time ⟨⟩
  · cases peripheral with
    | inl first => exact attended.own upkeep tidy clock _ grown
    | inr second =>
        apply attended.stages stationary upkeep (.single (.worked front back _ desk now tidy)) grown
        rintro entry mem
        rcases List.mem_append.mp mem with asked | began
        · exact (asks entry asked).isCalm
        · rw [List.mem_singleton.mp began]
          trivial

end Attended

namespace Telling

variable {follower : Follower D} {input : D → D → Prop} {serve : C → D → D}
  {keeps : Tale D Q C → D → Prop} {address : Address} {telling : Telling D Q W C}

/-- A telling of a tidy bus with a follower that attends. -/
structure IsAttended (follower : Follower D) (keeps : Tale D Q C → D → Prop) (address : Address)
    (telling : Telling D Q W C) : Prop where
  tidy : telling.session.bus.scheduler.Tidy
  attended : Attended follower keeps address telling.session.view telling.tale

namespace IsAttended

/-- A session goes on with calm news. -/
theorem goOn (isAttended : telling.IsAttended follower keeps address)
    (stationary : Stationary Q) (upkeep : follower.Upkeep input serve keeps)
    {next : Session (D ⊕ Q) W}
    (goes : next.bus.scheduler.Tidy ∧ Stages (Within Eq) telling.session.view next.view)
    {news : Journal (D ⊕ Q)} (grown : next.journal = news ++ telling.session.journal)
    (calm : ∀ entry ∈ news, entry.IsCalm) :
    (telling.goOn next).IsAttended follower keeps address := by
  rw [goOn_eq grown]
  constructor
  · exact goes.1
  · exact isAttended.attended.stages stationary upkeep goes.2 grown calm

/-- A session goes on with reports. -/
theorem report (isAttended : telling.IsAttended follower keeps address)
    (stationary : Stationary Q) (upkeep : follower.Upkeep input serve keeps)
    {next : Session (D ⊕ Q) W}
    (goes : next.bus.scheduler.Tidy ∧ Stages (Within Eq) telling.session.view next.view)
    (reported : Reported telling.session.journal next.journal) :
    (telling.goOn next).IsAttended follower keeps address := by
  rcases reported with ⟨news, grown, reports⟩
  exact isAttended.goOn stationary upkeep goes grown fun entry mem => (reports entry mem).isCalm

theorem call (isAttended : telling.IsAttended follower keeps address)
    (upkeep : follower.Upkeep input serve keeps) (call : C) :
    (telling.call serve call).IsAttended follower keeps address where
  tidy := isAttended.tidy
  attended := isAttended.attended.call upkeep call

theorem calls (isAttended : telling.IsAttended follower keeps address)
    (upkeep : follower.Upkeep input serve keeps) (calls : List C) :
    (telling.calls serve calls).IsAttended follower keeps address := by
  induction calls generalizing telling with
  | nil => exact isAttended
  | cons first rest ih => exact ih (isAttended.call upkeep first)

/-- A cycle settles and reports. -/
theorem settle (isAttended : telling.IsAttended follower keeps address)
    (stationary : Stationary Q) (upkeep : follower.Upkeep input serve keeps)
    (signals : List Signal) (now : UInt64) :
    let settled := telling.goOn ((telling.session.hear signals).settle now)
    settled.IsAttended follower keeps address ∧ settled.tale.clock? = some now := by
  intro settled
  have heard := Session.tidy_hear isAttended.tidy signals
  have goes := Session.settle_stage (Within Eq) heard now
  rcases Session.reported_settle heard now with ⟨news, grown, reports⟩
  have grown : ((telling.session.hear signals).settle now).journal =
      (news ++ [.cycle now]) ++ telling.session.journal :=
    grown.trans (List.append_assoc news [.cycle now] telling.session.journal).symm
  constructor
  · apply isAttended.goOn stationary upkeep ⟨goes.1, .single goes.2⟩ grown
    rintro entry mem
    rcases List.mem_append.mp mem with reported | begun
    · exact (reports entry reported).isCalm
    · rw [List.mem_singleton.mp begun]
      trivial
  · have told : settled.tale = .tell news (.entry (.cycle now) :: telling.tale) := by
      change (telling.goOn _).tale = _
      rw [goOn_eq grown, Tale.tell_append]
      rfl
    rw [told, Tale.clock?_tell fun entry mem => (reports entry mem).ne_cycle]
    rfl

/-- The programs run. -/
theorem work (isAttended : telling.IsAttended follower keeps address)
    (stationary : Stationary Q) (upkeep : follower.Upkeep input serve keeps) {now : UInt64}
    (clock : telling.tale.clock? = some now) (arrivals : List (List Signal)) :
    (telling.goOn (telling.session.work now arrivals).1).IsAttended follower keeps address := by
  let attends (peripherals : List (D ⊕ Q)) (desk : Desk (D ⊕ Q)) : Prop :=
    desk.scheduler.Tidy ∧ ∃ news, desk.journal = news ++ telling.session.journal ∧
      Tale.clock? (.tell news telling.tale) = some now ∧
      Attended follower keeps address
        ⟨desk.scheduler.occupant?, peripherals, desk.journal⟩ (.tell news telling.tale)
  have start : attends ([] ++ telling.session.bus.peripherals)
      { scheduler := telling.session.bus.scheduler, arrivals,
        journal := telling.session.journal } :=
    ⟨isAttended.tidy, [], rfl, clock, isAttended.attended⟩
  have program {front : List (D ⊕ Q)} {peripheral : D ⊕ Q} {back : List (D ⊕ Q)}
      {desk : Desk (D ⊕ Q)} (before : attends (front ++ peripheral :: back) desk) :
      let ran := (Peripheral.task peripheral now).play peripheral (desk.write (.began peripheral))
      attends (front ++ ran.1 :: back) ran.2 := by
    rcases before with ⟨tidy, news, grown, clock, attended⟩
    have began : (desk.write (.began peripheral)).scheduler.Tidy := tidy
    have asks := Endpoint.requests_play (Endpoint.obeys_true (Peripheral.task peripheral now))
      peripheral began
    rcases attended.program stationary upkeep tidy clock with ⟨newer, added, timeless, ran⟩
    rw [← Tale.tell_append] at ran
    refine ⟨asks.1.1, newer ++ news, ?_, ?_, ran⟩
    · rw [added, grown, List.append_assoc]
    · rw [Tale.tell_append, Tale.clock?_tell timeless, clock]
  rcases playTasks_induction program start with ⟨tidy, news, grown, -, attended⟩
  have journal : (telling.session.work now arrivals).1.journal =
      news ++ telling.session.journal := by
    rw [Session.work_eq]
    exact grown
  rw [goOn_eq journal, Session.work_eq]
  exact ⟨tidy, attended⟩

variable [Wire W]

theorem cycle (isAttended : telling.IsAttended follower keeps address)
    (stationary : Stationary Q) (upkeep : follower.Upkeep input serve keeps) (now : UInt64)
    (arrivals : List (List Signal)) (early late : List C) :
    (telling.cycle serve now arrivals early late).IsAttended follower keeps address := by
  rcases isAttended.settle stationary upkeep (arrivals.headD []) now with ⟨settled, clock⟩
  have called := settled.calls upkeep early
  rw [← clock?_calls] at clock
  have worked := (called.work stationary upkeep clock arrivals.tail).calls upkeep late
  have heard := Session.tidy_hear worked.tidy
  apply worked.report stationary upkeep
  · exact Session.launch_stages (Within Eq) (heard _)
  · exact Session.reported_launch _

theorem perform (isAttended : telling.IsAttended follower keeps address)
    (stationary : Stationary Q) (upkeep : follower.Upkeep input serve keeps)
    (move : Move D Q W C)
    (within : ∀ change, move = .occur (.influence change) → Within Eq change) :
    (telling.perform serve move).IsAttended follower keeps address := by
  have outside (occurrence : Occurrence (D ⊕ Q) W) (is : move = .occur occurrence)
      (apart : ∀ now arrivals, occurrence ≠ .task now arrivals) :
      (telling.goOn (telling.session.occur occurrence)).IsAttended follower keeps address := by
    apply isAttended.report stationary upkeep
    · apply Session.occur_stages (Within Eq) isAttended.tidy
      rintro change rfl
      exact within change is
    · exact Session.reported_occur telling.session occurrence apart
  cases move with
  | call made => exact isAttended.call upkeep made
  | cycle now arrivals early late =>
      exact isAttended.cycle stationary upkeep now arrivals early late
  | occur occurrence =>
      cases occurrence with
      | task now arrivals => exact isAttended.cycle stationary upkeep now arrivals [] []
      | _ => exact outside _ rfl (by rintro now arrivals ⟨⟩)

theorem after (isAttended : telling.IsAttended follower keeps address)
    (stationary : Stationary Q) (upkeep : follower.Upkeep input serve keeps)
    {moves : List (Move D Q W C)}
    (within : ∀ change, .occur (.influence change) ∈ moves → Within Eq change) :
    (telling.after serve moves).IsAttended follower keeps address := by
  induction moves generalizing telling with
  | nil => exact isAttended
  | cons move rest ih =>
      apply ih
      · apply isAttended.perform stationary upkeep
        rintro change rfl
        exact within change List.mem_cons_self
      · exact fun change mem => within change (List.mem_cons_of_mem _ mem)

end IsAttended

variable [Wire W]

/-- What is told of a follower that remembers nothing when it is plugged in is attended, and
the follower stays plugged in. -/
theorem Recounts.isAttended {newcomer : D} (recounts : Recounts serve newcomer telling)
    (stationary : Stationary Q) (upkeep : follower.Upkeep input serve keeps)
    (idle : follower.held newcomer = none) (fresh : keeps [] newcomer) :
    telling.IsAttended follower keeps (Peripheral.address newcomer) ∧
      Stays telling.session.journal := by
  rcases recounts with ⟨created, nobody, joins, within, stays⟩
  rename_i settings wire bus joined prelude moves
  have any : ∀ change, Occurrence.influence change ∈ prelude → True := fun _ _ => trivial
  have empty := (Session.opened_of_created created).1
  have before := (Session.after_stages (fun _ => True) empty any).1
  rcases alone_of_joins nobody joins with ⟨alone, same⟩
  have opens : (opened joined : Telling D Q W C).IsAttended follower keeps
      (Peripheral.address newcomer) := by
    constructor
    · change joined.scheduler.Tidy
      rw [same]
      exact before
    · exact ⟨rfl, fun _ _ => ⟨newcomer, alone, .start rfl idle fresh _⟩, Tale.always_nil⟩
  exact ⟨opens.after stationary upkeep within, stays⟩

/-- As long as nothing of a follower is cancelled, it attends what is told of it. -/
theorem Recounts.attends {newcomer : D} (recounts : Recounts serve newcomer telling)
    (stationary : Stationary Q) (upkeep : follower.Upkeep input serve keeps)
    (idle : follower.held newcomer = none) (fresh : keeps [] newcomer)
    (undisturbed : dropped anything telling.session.journal = []) :
    telling.tale.journal = telling.session.journal ∧
      ∃ device, telling.session.bus.peripherals.filterMap Sum.getLeft? = [device] ∧
        follower.Attends keeps (Peripheral.address newcomer)
          telling.session.bus.scheduler.occupant? telling.tale device := by
  rcases recounts.isAttended stationary upkeep idle fresh with ⟨isAttended, stays⟩
  rcases isAttended.attended.hosted stays undisturbed with ⟨device, alone, attends⟩
  exact ⟨isAttended.attended.told, device, alone.devices, attends⟩

/-- A device that is plugged in alone is told of. -/
theorem recounts_bare {wire : W} {device : D} {serve : C → D → D}
    {moves : List (Move D Device.Recorder W C)}
    (joins : ((bare wire []).attach (.inl device)).value = .ok (bare wire [device]))
    (within : ∀ change, .occur (.influence change) ∈ moves → Within Eq change)
    (stays : Stays ((opened (bare wire [device])).after serve moves).session.journal) :
    ((opened (bare wire [device])).after serve moves).Recounts serve device := by
  have created : create {} wire = .ok (bare wire ([] : List D)) := rfl
  have nobody : ((Session.opened (bare wire ([] : List D))).after []).bus.peripherals.filterMap
      Sum.getLeft? = [] := rfl
  exact .intro created nobody joins within stays

end Telling

end PlayerBus

end MapleBus
