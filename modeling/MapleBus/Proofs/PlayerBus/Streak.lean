import MapleBus.Proofs.PlayerBus.Outcomes
import MapleBus.Proofs.PlayerBus.Ownership
import MapleBus.Proofs.PlayerBus.TaskOrder

/-!
# The count of failures

A bus counts the failures in a row of what was addressed to its main peripheral, and
starts again when it is unplugged.  An exchange that is on the wire at that moment is
still counted when it fails, although its peripheral is gone; then the count is one more
than the failures of the peripheral that is plugged in, until that one has a success.
-/

namespace MapleBus

namespace PlayerBus

variable {P W : Type} [Peripheral P]

/-! ## Accounting -/

theorem toNat_account (failures : FailureStreak) (recipient : Address) (status : Status) :
    (account failures recipient status).value.length.toNat =
      if recipient.isMain then
        if status.failure?.isSome then min (failures.length.toNat + 1) 0xFFFFFFFF else 0
      else
        failures.length.toNat := by
  unfold account
  by_cases isMain : recipient.isMain = true
  · rw [if_pos isMain, if_pos isMain]
    cases status.failure? with
    | none => rfl
    | some failure => exact Saturating.toNat_word32 _
  · rw [if_neg isMain, if_neg isMain]
    rfl

/-- The end of a transmission is accounted for by the address it was for. -/
theorem failures_deliverEvent_of_end {tx : Transmission} {next : Scheduler}
    (bus : PlayerBus P W) (event : Event) (isEnd : event.kind.isTerminal = true)
    (released : bus.scheduler.release event.handle = (some tx, next)) :
    (bus.deliverEvent event).value.failures =
      (account bus.failures event.recipient tx.status).value := by
  cases kind : event.kind with
  | started =>
      rw [kind] at isEnd
      contradiction
  | failed | completed =>
      simp only [deliverEvent, kind, released]
      rfl

namespace Session

/-! ## The parts of a cycle -/

/-- Nothing is accounted for, and nothing is written down that bears on any address. -/
structure Passes (former later : Session P W) : Prop where
  failures : later.bus.failures = former.bus.failures
  news : ∃ news, later.journal = news ++ former.journal ∧
    ∀ entry ∈ news, ∀ address, entry.bearsOn address = false

/-- When there is an outcome, what is on the wire is settled and accounted for. -/
theorem settle_of_done {session : Session P W} (tidy : session.bus.scheduler.Tidy)
    (done : session.bus.scheduler.completion.phase = .done) (now : UInt64) :
    ∃ tx status callbacks, session.bus.scheduler.occupant? = some tx ∧ tx.status = .sent ∧
      (session.settle now).bus.failures =
        (account session.bus.failures tx.recipient status).value ∧
      (session.settle now).journal =
        callbacks ++ .settled { tx with status } :: .cycle now :: session.journal ∧
      ∀ entry ∈ callbacks, entry.IsCallback := by
  obtain ⟨handle, tx, found, occupied, sent⟩ := tidy.occupant_of_done done
  obtain ⟨queue, -, next, released, -, -⟩ := tidy.service_of_done done found
  let status := (session.bus.scheduler.ruling tx).1
  let event := Scheduler.endOf handle tx status
  let quiet : PlayerBus P W :=
    { session.bus with
      scheduler := { session.bus.scheduler.service.value with events := [] } }
  have harvested := Scheduler.settled?_of_done tidy done found
  have delivery : session.settle now =
      { bus := (quiet.deliverEvent event).value
        journal := (quiet.callback? event).toList ++
          .settled { tx with status } :: .cycle now :: session.journal } := by
    rw [settle, deliver_eq, queue, harvested]
    rfl
  refine ⟨tx, status, (quiet.callback? event).toList, occupied, sent, ?_, ?_, ?_⟩
  · rw [delivery]
    exact failures_deliverEvent_of_end quiet event (isTerminal_endKind status) released
  · rw [delivery]
  · rw [callback?_of_end quiet event (isTerminal_endKind status) released]
    rintro entry mem
    obtain ⟨peripheral, -, rfl⟩ := Option.map_eq_some_iff.mp (Option.mem_toList.mp mem)
    exact JournalEntry.isCallback_conclusion _ _

theorem settle_of_waiting {session : Session P W} (tidy : session.bus.scheduler.Tidy)
    (waiting : session.bus.scheduler.completion.phase ≠ .done) (now : UInt64) :
    Passes session (session.settle now) := by
  obtain ⟨result, -⟩ := tidy.service_of_waiting waiting
  have nothing := Scheduler.settled?_of_waiting waiting
  have settled : session.settle now =
      { bus := { session.bus with scheduler := session.bus.scheduler.service.value }
        journal := .cycle now :: session.journal } := by
    rw [settle, deliver_nil _ result.events_eq_nil, nothing]
    rfl
  rw [settled]
  exact ⟨rfl, [.cycle now], rfl, List.forall_mem_singleton.mpr fun _ => rfl⟩

theorem passes_work (session : Session P W) (now : UInt64) (arrivals : List (List Signal)) :
    Passes session (session.work now arrivals).1 := by
  obtain ⟨news, split, works⟩ := news_work session now arrivals
  have failures : (session.work now arrivals).1.bus.failures = session.bus.failures := by
    rw [work_eq]
  exact ⟨failures, news, split, fun entry mem => (works entry mem).bearsOn⟩

/-- Offering the pending transmission accounts for nothing. -/
theorem failures_launch [Wire W] {session : Session P W} (tidy : session.bus.scheduler.Tidy) :
    session.launch.bus.failures = session.bus.failures := by
  cases search : session.bus.scheduler.table.find? fun tx => tx.status.isPending with
  | none => rw [launch_of_no_pending tidy search]
  | some found =>
      obtain ⟨handle, tx⟩ := found
      rw [launch_eq]
      cases answer : (Scheduler.offer session.bus.wire tx).result with
      | error refusal =>
          have result := (tidy.dispatch_of_refusal search answer).2.1
          rw [deliver_nil _ result.events_eq_nil]
          rfl
      | ok _ =>
          obtain ⟨-, queue, known, -, -⟩ := tidy.dispatch_of_acceptance search answer
          let quiet := session.offered.quieted.bus
          let event := Scheduler.startOf handle tx
          have told := value_deliverEvent_of_start quiet event rfl known
          have delivery : session.offered.deliver.bus = (quiet.deliverEvent event).value := by
            rw [bus_deliver, value_deliver_singleton _ queue]
            rfl
          rw [delivery, told]
          rfl

theorem passes_launch [Wire W] (stationary : Stationary P) {session : Session P W}
    (tidy : session.bus.scheduler.Tidy) : Passes session session.launch := by
  refine ⟨failures_launch tidy, ?_⟩
  obtain ⟨callbacks, split, areCallbacks⟩ := (tells_deliver stationary session.offered).news
  let sent : Journal P :=
    ((session.bus.scheduler.sent? session.bus.wire).map .sent).toList
  refine ⟨callbacks ++ sent, ?_, ?_⟩
  · rw [launch_eq, split, List.append_assoc]
    rfl
  · rintro entry mem
    rcases List.mem_append.mp mem with callback | sent
    · exact (areCallbacks entry callback).bearsOn
    · obtain ⟨tx, -, rfl⟩ := Option.map_eq_some_iff.mp (Option.mem_toList.mp sent)
      exact fun _ => rfl

/-! ## The count and the journal -/

/-- The bus counts the failures in a row at the address of the main peripheral, as far as
the counter goes.  Whoever was unplugged was one of the player's. -/
structure Counts (player : UInt8) (session : Session P W) : Prop where
  gone : ∀ peripheral, .detached peripheral ∈ session.journal →
    (Peripheral.address peripheral).player = player
  count : session.bus.failures.length.toNat =
    min (session.journal.streak (Address.main player)) 0xFFFFFFFF

namespace Counts

variable {player : UInt8} {session former later : Session P W}

theorem passes (counts : Counts player former) (passes : Passes former later) :
    Counts player later := by
  obtain ⟨failures, news, split, aside⟩ := passes
  constructor
  · rintro peripheral mem
    rw [split] at mem
    rcases List.mem_append.mp mem with new | old
    · have elsewhere := aside _ new (Peripheral.address peripheral)
      have here : (JournalEntry.detached peripheral).bearsOn (Peripheral.address peripheral) =
          true :=
        JournalEntry.movesAt_detached rfl
      rw [elsewhere] at here
      contradiction
    · exact counts.gone peripheral old
  · rw [failures, split, Journal.streak_append fun entry mem => aside entry mem _]
    exact counts.count

/-- What is on the wire is for an address of the player. -/
theorem player_of_sent (counts : Counts player session) (tenanted : session.view.Tenanted)
    (roster : Roster player session.bus.addresses) {tx : Transmission}
    (occupied : session.bus.scheduler.occupant? = some tx) (sent : tx.status = .sent) :
    tx.recipient.player = player := by
  rcases tenanted.origin_of_sent occupied sent with ⟨used, -⟩ |
    ⟨peripheral, since, earlier, split, left, -⟩
  · exact roster.ours _ used
  · rw [← left]
    have journal : session.journal = since ++ .detached peripheral :: earlier := split
    apply counts.gone
    rw [journal]
    exact List.mem_append_right _ List.mem_cons_self

theorem settle (counts : Counts player session) (tidy : session.bus.scheduler.Tidy)
    (tenanted : session.view.Tenanted) (roster : Roster player session.bus.addresses)
    (now : UInt64) : Counts player (session.settle now) := by
  by_cases done : session.bus.scheduler.completion.phase = .done
  · obtain ⟨tx, status, callbacks, occupied, sent, failures, journal, areCallbacks⟩ :=
      settle_of_done tidy done now
    have ours := counts.player_of_sent tenanted roster occupied sent
    have isMain : tx.recipient.isMain = true ↔ tx.recipient = Address.main player := by
      constructor
      · rintro isMain
        rw [← ours, Address.main_player isMain]
      · rintro same
        rw [same]
        exact Address.isMain_main player
    constructor
    · rintro peripheral mem
      rw [journal] at mem
      rcases List.mem_append.mp mem with callback | rest
      · exact absurd (areCallbacks _ callback) id
      · apply counts.gone
        simpa using rest
    · rw [failures, toNat_account, journal,
        Journal.streak_append fun entry mem => (areCallbacks entry mem).bearsOn _,
        if_congr isMain rfl rfl, counts.count]
      change _ = min (if tx.recipient = Address.main player then
        if status.failure?.isSome then Journal.streak (Address.main player) session.journal + 1
        else 0
      else Journal.streak (Address.main player) session.journal) 0xFFFFFFFF
      split
      · split <;> omega
      · rfl
  · exact counts.passes (settle_of_waiting tidy done now)

theorem task [Wire W] (steadfast : Steadfast P) (counts : Counts player session)
    (tidy : session.bus.scheduler.Tidy) (tenanted : session.view.Tenanted)
    (roster : Roster player session.bus.addresses) (now : UInt64)
    (arrivals : List (List Signal)) : Counts player (session.task now arrivals) := by
  have heardTidy := tidy_hear tidy (arrivals.headD [])
  have listening : Counts player (session.hear (arrivals.headD [])) := ⟨counts.gone, counts.count⟩
  have settled := listening.settle heardTidy tenanted roster now
  have worked := settled.passes (passes_work _ now arrivals.tail)
  have workedTidy := (work_stages Steady (settle_stage Steady heardTidy now).1 now
    arrivals.tail).1
  rw [task_eq, offering]
  generalize ((session.hear (arrivals.headD [])).settle now).work now arrivals.tail = work
    at worked workedTidy ⊢
  have offered : Counts player (work.1.hear (work.2.headD [])) := ⟨worked.gone, worked.count⟩
  exact offered.passes (passes_launch steadfast.stationary (tidy_hear workedTidy _))

theorem attach (counts : Counts player session) (peripheral : P) :
    Counts player (session.attach peripheral) := by
  rw [Session.attach]
  cases attached : (session.bus.attach peripheral).value with
  | error fault => exact counts
  | ok after =>
      have failures : after.failures = session.bus.failures := by
        rw [(pluggedIn attached).nothing_else]
      constructor
      · rintro leaver mem
        apply counts.gone
        simpa using mem
      · rw [failures]
        exact counts.count

/-- The main peripheral leaves exactly when its address is meant. -/
theorem main_leaves_iff {bus after : PlayerBus P W} {address : Address} {removed : List P}
    (roster : Roster player bus.addresses) (plugged : PluggedOut bus address removed after) :
    Address.main player ∈ removed.map Peripheral.address ↔ address.isMain = true := by
  constructor
  · rintro leaves
    by_contra expansion
    obtain ⟨front, peripheral, back, -, here, one, -⟩ := plugged.alone (by simpa using expansion)
    rw [one, List.map_singleton, List.mem_singleton, here] at leaves
    exact expansion (leaves ▸ Address.isMain_main player)
  · rintro isMain
    rw [(plugged.everybody isMain).1, ← roster.ours address plugged.used, Address.main_player isMain]
    exact plugged.used

theorem detach (counts : Counts player session) (roster : Roster player session.bus.addresses)
    (address : Address) : Counts player (session.detach address) := by
  rw [Session.detach]
  cases detached : (session.bus.detach address).value with
  | error fault => exact counts
  | ok result =>
      obtain ⟨removed, after⟩ := result
      have plugged := pluggedOut roster.nodup detached
      have removedUsed : ∀ leaver ∈ removed, leaver ∈ session.bus.peripherals := by
        obtain ⟨leaves, rfl, -⟩ := of_detached detached
        exact fun leaver mem => List.mem_of_mem_filter mem
      constructor
      · rintro leaver mem
        rcases List.mem_append.mp mem with leaving | rest
        · obtain ⟨peripheral, left, same⟩ := List.mem_map.mp leaving
          cases same
          exact roster.ours _ (List.mem_map_of_mem (removedUsed leaver left))
        · apply counts.gone
          simpa using rest
      · change after.failures.length.toNat = min (Journal.streak (Address.main player)
          (removed.map .detached ++ (_ ++ session.journal))) 0xFFFFFFFF
        rw [Journal.streak_detachedAll, if_congr (main_leaves_iff roster plugged) rfl rfl, plugged.failures]
        split
        · rfl
        · rw [Journal.streak_append, counts.count]
          rintro entry mem
          obtain ⟨tx, -, rfl⟩ := List.mem_map.mp mem
          rfl

/-- Every occurrence keeps the count. -/
theorem occur [Wire W] (steadfast : Steadfast P) (counts : Counts player session)
    (tidy : session.bus.scheduler.Tidy) (tenanted : session.view.Tenanted)
    (roster : Roster player session.bus.addresses) (occurrence : Occurrence P W) :
    Counts player (session.occur occurrence) := by
  cases occurrence with
  | attach peripheral => exact counts.attach peripheral
  | detach address => exact counts.detach roster address
  | handle event =>
      cases event with
      | attached peripheral => exact counts.attach peripheral
      | detached address => exact counts.detach roster address
  | task now arrivals =>
      rw [Session.occur]
      exact counts.task steadfast tidy tenanted roster now arrivals
  | signal raised => exact counts.passes ⟨rfl, [], rfl, List.forall_mem_nil _⟩
  | cancel cancellation =>
      refine counts.passes ⟨rfl, _, rfl, ?_⟩
      rintro entry mem
      obtain ⟨tx, -, rfl⟩ := List.mem_map.mp mem
      exact fun _ => rfl
  | rewire change => exact counts.passes ⟨rfl, [], rfl, List.forall_mem_nil _⟩
  | influence change => exact counts.passes ⟨rfl, [], rfl, List.forall_mem_nil _⟩

end Counts

/-! ## Runs -/

/-- What is known of the count in a run. -/
structure Orderly (settings : Settings) (session : Session P W) : Prop where
  kept : session.bus.settings = settings
  roster : Roster settings.playerIndex session.bus.addresses
  tidy : session.bus.scheduler.Tidy
  tenanted : session.view.Tenanted
  counts : Counts settings.playerIndex session
  reckons : session.view.Reckons (Address.main settings.playerIndex)

/-- Every occurrence that leaves everybody at their address keeps order. -/
theorem Orderly.occur [Wire W] (steadfast : Steadfast P) {settings : Settings}
    {session : Session P W} (orderly : Orderly settings session) {occurrence : Occurrence P W}
    (steady : ∀ change, occurrence = .influence change → Steady change) :
    Orderly settings (session.occur occurrence) := by
  have roster := orderly.roster
  rw [← orderly.kept] at roster
  obtain ⟨same, later⟩ := roster_occur steadfast.stationary roster steady
  obtain ⟨tidy, stages⟩ := occur_stages Steady orderly.tidy occurrence steady
  constructor
  · exact same.trans orderly.kept
  · rw [← orderly.kept]
    exact later
  · exact tidy
  · exact orderly.tenanted.stages steadfast stages
  · exact orderly.counts.occur steadfast orderly.tidy orderly.tenanted orderly.roster occurrence
  · exact View.Reckons.stages steadfast orderly.tenanted orderly.reckons stages

theorem orderly_after [Wire W] (steadfast : Steadfast P) {settings : Settings} {wire : W}
    {bus : PlayerBus P W} (created : create settings wire = .ok bus)
    {occurrences : List (Occurrence P W)}
    (steady : ∀ change, .influence change ∈ occurrences → Steady change) :
    Orderly settings ((opened bus).after occurrences) := by
  have start : Orderly settings (opened bus) := by
    obtain ⟨tidy, blank⟩ := opened_of_created created
    obtain ⟨same, nobody, zero⟩ := of_created created
    constructor
    · exact same
    · change Roster _ (bus.peripherals.map Peripheral.address)
      rw [nobody]
      exact Roster.nil _
    · exact tidy
    · rw [blank]
      exact View.Tenanted.blank
    · constructor
      · rintro peripheral mem
        contradiction
      · change bus.failures.length.toNat = 0
        rw [zero]
        rfl
    · exact Reckoned.nil
  apply after_induction _ start
  rintro session orderly occurrence mem
  apply orderly.occur steadfast
  rintro change rfl
  exact steady change mem

end Session

end PlayerBus

/-! ## Whose failures are counted -/

theorem failuresInARow_of_all {outcomes : List Transmission}
    (failed : ∀ tx ∈ outcomes, tx.status.failure?.isSome = true) (others : List Transmission) :
    failuresInARow (outcomes ++ others) = outcomes.length + failuresInARow others := by
  rw [failuresInARow, List.takeWhile_append_of_pos failed, List.length_append]
  rfl

/-- A success ends what goes before it. -/
theorem failuresInARow_of_success {outcomes : List Transmission}
    (success : ∃ tx ∈ outcomes, tx.status.failure? = none) (others : List Transmission) :
    failuresInARow (outcomes ++ others) = failuresInARow outcomes := by
  induction outcomes with
  | nil =>
      obtain ⟨tx, impossible, -⟩ := success
      contradiction
  | cons first rest ih =>
      rw [List.cons_append, failuresInARow_cons, failuresInARow_cons]
      cases failed : first.status.failure? with
      | none => rfl
      | some failure =>
          have later : ∃ tx ∈ rest, tx.status.failure? = none := by
            obtain ⟨tx, mem, succeeded⟩ := success
            rcases List.mem_cons.mp mem with rfl | inRest
            · rw [failed] at succeeded
              contradiction
            · exact ⟨tx, inRest, succeeded⟩
          rw [ih later]

/-- One outcome more before the others shows unless it is a success, or there is one among
the others, or the counter is at its end. -/
theorem capped_failuresInARow_eq_iff {own strays : List Transmission} (few : strays.length ≤ 1)
    (cap : Nat) :
    min (failuresInARow (own ++ strays)) cap = min (failuresInARow own) cap ↔
      (∀ tx ∈ strays, tx.status.failure? = none) ∨
        (∃ tx ∈ own, tx.status.failure? = none) ∨ cap ≤ own.length := by
  by_cases success : ∃ tx ∈ own, tx.status.failure? = none
  · rw [failuresInARow_of_success success]
    simp [success]
  · have failed : ∀ tx ∈ own, tx.status.failure?.isSome = true := by
      rintro tx mem
      by_contra succeeded
      exact success ⟨tx, mem, by simpa using succeeded⟩
    have alone : failuresInARow own = own.length := by
      have whole := failuresInARow_of_all failed []
      rwa [List.append_nil] at whole
    rw [failuresInARow_of_all failed, alone]
    cases strays with
    | nil => simp [failuresInARow]
    | cons stray rest =>
        have noMore : rest = [] :=
          List.eq_nil_of_length_eq_zero (Nat.le_zero.mp (Nat.le_of_succ_le_succ few))
        rw [noMore, failuresInARow_cons]
        cases failed : stray.status.failure? with
        | none => simp [failed]
        | some failure =>
            have last : failuresInARow [] = 0 := rfl
            simp only [Option.isSome_some, if_true, last, List.mem_singleton, forall_eq, failed,
              reduceCtorEq, success, false_or]
            omega

namespace PlayerBus

variable {P W : Type} [Peripheral P]

namespace Session

/-- The count is that of the main peripheral alone: the failures in a row of what it
submitted since it came, and zero when there is none. -/
def CountsOwn (session : Session P W) : Prop :=
  let main := Address.main session.bus.settings.playerIndex
  session.bus.failures.length.toNat =
    if session.bus.addresses.any Address.isMain then
      min (failuresInARow (session.journal.ownOutcomes main)) 0xFFFFFFFF
    else
      0

instance (session : Session P W) : Decidable session.CountsOwn :=
  inferInstanceAs (Decidable (_ = _))

/-- After every run of a bus whose peripherals keep their addresses and submit packets to
themselves only, the count is that of the failures in a row of the main peripheral and,
before them, of one stray outcome at most, of what had been accepted from its predecessor.
So it is the main peripheral's own exactly when the stray outcome is no failure, or does
not show. -/
theorem failures_after [Wire W] (steadfast : Steadfast P) {settings : Settings} {wire : W}
    {bus : PlayerBus P W} (created : create settings wire = .ok bus)
    {occurrences : List (Occurrence P W)}
    (steady : ∀ change, .influence change ∈ occurrences → Steady change) :
    let session := (opened bus).after occurrences
    let own := session.journal.ownOutcomes (Address.main settings.playerIndex)
    let strays := session.journal.strayOutcomes (Address.main settings.playerIndex)
    strays.length ≤ 1 ∧
      (session.bus.addresses.any Address.isMain = false → own = []) ∧
      session.bus.failures.length.toNat = min (failuresInARow (own ++ strays)) 0xFFFFFFFF ∧
      (session.CountsOwn ↔
        (∀ tx ∈ strays, tx.status.failure? = none) ∨
          (∃ tx ∈ own, tx.status.failure? = none) ∨ 0xFFFFFFFF ≤ own.length) := by
  intro session own strays
  have orderly : Orderly settings session := orderly_after steadfast created steady
  have reckoned : Reckoned (Address.main settings.playerIndex) _ session.journal :=
    orderly.reckons
  have count : session.bus.failures.length.toNat =
      min (failuresInARow (own ++ strays)) 0xFFFFFFFF := by
    rw [orderly.counts.count, reckoned.streak]
  have vacant : session.bus.addresses.any Address.isMain = false → own = [] := by
    rintro noMain
    apply reckoned.vacant
    rintro used
    exact List.any_eq_false.mp noMain _ used (Address.isMain_main _)
  have claimed : session.CountsOwn ↔
      min (failuresInARow (own ++ strays)) 0xFFFFFFFF = min (failuresInARow own) 0xFFFFFFFF := by
    rw [CountsOwn, orderly.kept, count]
    cases present : session.bus.addresses.any Address.isMain with
    | true => rfl
    | false =>
        rw [vacant present]
        rfl
  exact ⟨reckoned.few, vacant, count,
    claimed.trans (capped_failuresInARow_eq_iff reckoned.few 0xFFFFFFFF)⟩

/-- The packet of a recorder fails while it is plugged in. -/
def failing : List (Occurrence Device.Recorder SilentWire) :=
  [ .attach { address := ⟨0x20⟩ }, .task 0 [], .signal .writeFailed, .influence id, .task 1 [] ]

/-- The failure is the recorder's own. -/
theorem countsOwn_failing :
    create {} {} = .ok silentBus ∧
      (∀ change, .influence change ∈ failing → Steady change) ∧
      ((opened silentBus).after failing).bus.failures.length = 1 ∧
      ((opened silentBus).after failing).CountsOwn := by
  have created : create {} {} = .ok silentBus := by rfl
  have steady : ∀ change, .influence change ∈ failing → Steady change := by
    rintro change mem
    have same : change = id := by simpa [failing] using mem
    rw [same]
    exact fun _ => rfl
  have one : ((opened silentBus).after failing).bus.failures.length = 1 := by decide +kernel
  have noStrays : ((opened silentBus).after failing).journal.strayOutcomes ⟨0x20⟩ = [] := by
    decide +kernel
  have harmless : ∀ tx ∈ ((opened silentBus).after failing).journal.strayOutcomes ⟨0x20⟩,
      tx.status.failure? = none := by
    rw [noStrays]
    exact List.forall_mem_nil _
  obtain ⟨-, -, -, ownIff⟩ := failures_after steadfast_recorder created steady
  exact ⟨created, steady, one, ownIff.mpr (Or.inl harmless)⟩

/-- The packet of a recorder fails after the recorder was unplugged. -/
def failingLate : List (Occurrence Device.Recorder SilentWire) :=
  [ .attach { address := ⟨0x20⟩ }, .task 0 [], .detach ⟨0x20⟩, .signal .writeFailed, .task 1 [] ]

/-- The failure is counted although no main peripheral is plugged in. -/
theorem not_countsOwn_failingLate :
    ¬ ((opened silentBus).after failingLate).CountsOwn := by
  decide +kernel

end Session

end PlayerBus

end MapleBus
