import MapleBus.Proofs.Scheduler.Accounts

/-!
# Events in order

As long as transmissions are released only after the event of their end was
taken, no event is lost, doubled or moved: the events taken and those queued
are the events of the transmissions in the order of their acceptance, and the
queue never drops one to make room.
-/

namespace MapleBus.Scheduler

namespace Chronicle

variable {chronicle : Chronicle} {next : Scheduler} {handle : Handle} {tx : Transmission}
  {operation : Operation}

/-- Look at every transmission after a change of the scheduler. -/
def watch (chronicle : Chronicle) (next : Scheduler) : Chronicle where
  scheduler := next
  episodes := chronicle.episodes.map (Episode.observe next)
  popped := chronicle.popped

/-- An operation that neither gets work accepted nor takes an event is only
watched. -/
theorem perform_eq_watch (accepts : chronicle.scheduler.accepted operation = [])
    (takes : chronicle.scheduler.taken operation = []) :
    chronicle.perform operation =
      chronicle.watch (chronicle.scheduler.perform operation).value := by
  simp [perform, watch, accepts, takes]

/-- Accepted work is written down last. -/
theorem perform_eq_accept {newcomer : Episode}
    (accepts : chronicle.scheduler.accepted operation = [newcomer])
    (takes : chronicle.scheduler.taken operation = []) :
    chronicle.perform operation =
      { chronicle.watch (chronicle.scheduler.perform operation).value with
        episodes :=
          (chronicle.watch (chronicle.scheduler.perform operation).value).episodes ++
            [newcomer] } := by
  simp [perform, watch, accepts, takes]

/-- A taken event is written down, also for its transmission. -/
theorem perform_nextEvent {event : Event} {rest : List Event}
    (queue : chronicle.scheduler.events = event :: rest) :
    chronicle.perform .nextEvent =
      { scheduler := { chronicle.scheduler with events := rest }
        episodes :=
          (chronicle.episodes.map
            (Episode.observe { chronicle.scheduler with events := rest })).map
              (Episode.tell [event])
        popped := chronicle.popped ++ [event] } := by
  simp [perform, Scheduler.perform, accepted, taken, nextEvent_eq, queue]

/-- What every permitted run keeps: the episodes track the entries, and
account for the events. -/
structure Sound (chronicle : Chronicle) : Prop where
  inStep : chronicle.scheduler.InStep
  tracks : Tracks chronicle.scheduler chronicle.episodes
  accounts : Accounts chronicle.episodes chronicle.popped chronicle.scheduler.events

namespace Sound

theorem empty : Sound {} where
  inStep := InStep.empty
  tracks := Tracks.empty
  accounts := Accounts.empty

/-- While a transmission occupies the bus, its next event finds room. -/
theorem room (sound : chronicle.Sound) (found : chronicle.scheduler.get? handle = some tx)
    (outstanding : tx.status.isTerminal = false) :
    chronicle.scheduler.events.length < Event.queueCapacity := by
  obtain ⟨earlier, episode, split, held, -, status, -⟩ :=
    sound.tracks.last_of_outstanding found outstanding
  have accounts := sound.accounts
  have tracks := sound.tracks
  rw [split] at accounts tracks
  apply accounts.room tracks held
  rw [← status] at outstanding
  cases episodeStatus : episode.status with
  | pending | sent => simp [Episode.events, episodeStatus]
  | succeeded _ | failed _ =>
      rw [episodeStatus] at outstanding
      contradiction

/-- A change that leaves entries alone or drops those whose events were all
taken. -/
theorem watch_forget (sound : chronicle.Sound) (inStep : next.InStep)
    (events : next.events = chronicle.scheduler.events)
    (kept : ∀ handle tx, next.get? handle = some tx →
      chronicle.scheduler.get? handle = some tx)
    (dropped : ∀ episode ∈ chronicle.episodes, episode.held = true →
      next.get? episode.handle = none → episode.told = episode.events) :
    (chronicle.watch next).Sound where
  inStep := inStep
  tracks := sound.tracks.observe (Continues.of_kept kept)
  accounts := by
    change Accounts _ _ next.events
    rw [events]
    apply sound.accounts.map (fun _ _ => Episode.told_observe)
    · intro episode mem
      cases held : episode.held with
      | false => rw [Episode.observe_of_dropped held]
      | true =>
          cases found : next.get? episode.handle with
          | none =>
              rw [Episode.observe_of_gone held found]
              rfl
          | some tx =>
              obtain ⟨known, knownFound, status, -⟩ :=
                sound.tracks.known_of_held episode mem held
              rw [kept _ _ found] at knownFound
              rw [Episode.observe_of_known held found, Option.some.inj knownFound, status]
    · intro episode mem gone
      cases held : episode.held with
      | false => exact (sound.accounts.informed episode mem).told_of_dropped held
      | true =>
          cases found : next.get? episode.handle with
          | none => exact dropped episode mem held found
          | some tx =>
              rw [Episode.observe_of_known held found, held] at gone
              contradiction

/-- A change that touches neither entries nor events. -/
theorem watch_same (sound : chronicle.Sound) (inStep : next.InStep)
    (table : next.table = chronicle.scheduler.table)
    (events : next.events = chronicle.scheduler.events) : (chronicle.watch next).Sound := by
  have same : ∀ handle, next.get? handle = chronicle.scheduler.get? handle := by
    intro handle
    rw [get?, get?, table]
  apply sound.watch_forget inStep events
  · intro handle tx found
    rwa [← same handle]
  · intro episode mem held gone
    obtain ⟨known, found, -, -⟩ := sound.tracks.known_of_held episode mem held
    rw [← same episode.handle, gone] at found
    contradiction

/-- The transmission that occupies the bus goes on by one status, and its next
event is queued. -/
theorem watch_advance {status : Status} {event : Event} (sound : chronicle.Sound)
    (inStep : next.InStep) (found : chronicle.scheduler.get? handle = some tx)
    (outstanding : tx.status.isTerminal = false)
    (table : next.table = chronicle.scheduler.table.put handle.slot { tx with status })
    (events : next.events = (Event.enqueue chronicle.scheduler.events event).value)
    (grows : ∀ episode : Episode, episode.handle = handle →
      episode.recipient = tx.recipient → episode.status = tx.status →
        ({ episode with status } : Episode).events = episode.events ++ [event]) :
    (chronicle.watch next).Sound where
  inStep := inStep
  tracks := sound.tracks.observe (Continues.of_put found outstanding table)
  accounts := by
    obtain ⟨earlier, episode, split, held, handleEq, statusEq, recipientEq⟩ :=
      sound.tracks.last_of_outstanding found outstanding
    have id : tx.id = handle.id := (Table.get?_eq_some_iff.mp found).2
    have renewed : next.get? handle = some { tx with status } := get?_put_same table id
    have tracks := sound.tracks
    have accounts := sound.accounts
    rw [split] at tracks accounts
    have others : earlier.map (Episode.observe next) = earlier := by
      refine (List.map_congr_left ?_).trans (List.map_id earlier)
      intro other mem
      apply tracks.observe_eq (List.mem_append_left _ mem)
      intro otherHeld
      have elsewhere := tracks.slot_ne held other (List.mem_append_left _ mem) otherHeld
      rw [handleEq] at elsewhere
      exact get?_put_of_ne table elsewhere
    have advanced : episode.observe next = { episode with status } := by
      rw [← handleEq] at renewed
      exact Episode.observe_of_known held renewed
    change Accounts (chronicle.episodes.map (Episode.observe next)) _ next.events
    rw [events, Event.enqueue_of_room (sound.room found outstanding), split, List.map_append,
      List.map_singleton, others, advanced]
    exact accounts.advance rfl held (grows episode handleEq recipientEq statusEq)

/-! ### One step of a run -/

/-- A refused submission is no acceptance. -/
theorem schedule_of_error (sound : chronicle.Sound) {packet : Packet} {expectsReply : Bool}
    {refusal : BusError}
    (refused : (chronicle.scheduler.schedule packet expectsReply).value = (.error refusal, next))
    (table : next.table = chronicle.scheduler.table)
    (events : next.events = chronicle.scheduler.events) :
    (chronicle.perform (.schedule packet expectsReply)).Sound := by
  have inStep := sound.inStep.perform (.schedule packet expectsReply)
  have untouched : (chronicle.scheduler.perform (.schedule packet expectsReply)).value = next :=
    congrArg Prod.snd refused
  rw [perform_eq_watch (by simp [accepted, refused]) rfl]
  rw [untouched] at inStep ⊢
  exact sound.watch_same inStep table events

/-- An accepted submission begins an episode. -/
theorem schedule_of_vacancy (sound : chronicle.Sound) (packet : Packet) (expectsReply : Bool)
    {slot : Slot} (idle : chronicle.scheduler.outstanding? = none)
    (free : chronicle.scheduler.table.free? = some slot) :
    (chronicle.perform (.schedule packet expectsReply)).Sound := by
  have inStep := sound.inStep.perform (.schedule packet expectsReply)
  have vacant := Table.entry_of_free?_eq_some free
  have stored := schedule_of_free idle free packet expectsReply
  have taken : (chronicle.scheduler.perform (.schedule packet expectsReply)).value = _ :=
    congrArg Prod.snd stored
  have quiet : ∀ handle tx, chronicle.scheduler.get? handle = some tx →
      tx.status.isTerminal = true := by
    intro handle tx found
    have settled := outstanding?_eq_none_iff.mp idle handle.slot tx
      (Table.get?_eq_some_iff.mp found).1
    simpa [Status.isOutstanding] using settled
  have table : (chronicle.scheduler.perform (.schedule packet expectsReply)).value.table =
      chronicle.scheduler.table.put slot (chronicle.scheduler.newcomer packet expectsReply) := by
    rw [taken]
  have events : (chronicle.scheduler.perform (.schedule packet expectsReply)).value.events =
      chronicle.scheduler.events := by
    rw [taken]
  have known := sound.tracks.map_observe_eq (get?_put_of_vacant vacant table)
  have accepts : chronicle.scheduler.accepted (.schedule packet expectsReply) =
      [{ handle := ⟨slot, chronicle.scheduler.nextId⟩
         recipient := packet.recipient }] := by
    simp only [accepted, stored]
  rw [perform_eq_accept accepts rfl, watch, known]
  exact {
    inStep := inStep
    tracks := sound.tracks.accept vacant quiet rfl table
    accounts := by
      rw [events]
      exact sound.accounts.accept rfl rfl
  }

theorem schedule (sound : chronicle.Sound) (packet : Packet) (expectsReply : Bool) :
    (chronicle.perform (.schedule packet expectsReply)).Sound := by
  cases busy : chronicle.scheduler.outstanding? with
  | some handle =>
      exact sound.schedule_of_error (schedule_of_outstanding busy packet expectsReply) rfl rfl
  | none =>
      cases free : chronicle.scheduler.table.free? with
      | none => exact sound.schedule_of_error (schedule_of_full busy free packet expectsReply) rfl rfl
      | some slot => exact sound.schedule_of_vacancy packet expectsReply busy free

theorem dispatch {W : Type} [Wire W] (sound : chronicle.Sound) (wire : W) :
    (chronicle.perform (.dispatch wire)).Sound := by
  have inStep := sound.inStep.perform (.dispatch wire)
  rw [perform_eq_watch rfl rfl]
  simp only [Scheduler.perform, Logged.value_map] at inStep ⊢
  cases search : chronicle.scheduler.table.find? (fun tx => tx.status.isPending) with
  | none =>
      rw [dispatch_of_no_pending search] at inStep ⊢
      exact sound.watch_same inStep rfl rfl
  | some result =>
      obtain ⟨handle, tx⟩ := result
      cases answer : (offer wire tx).result with
      | error refusal =>
          rw [dispatch_of_refusal search answer] at inStep ⊢
          exact sound.watch_same inStep rfl rfl
      | ok _ =>
          obtain ⟨found, pending, outstanding⟩ := known_of_pending search
          rw [dispatch_of_acceptance search answer] at inStep ⊢
          apply sound.watch_advance inStep found outstanding rfl rfl
          intro episode handleEq recipientEq statusEq
          simp [Episode.events, Episode.event, statusEq, pending, startOf, handleEq,
            recipientEq]

theorem service (sound : chronicle.Sound) : (chronicle.perform .service).Sound := by
  have inStep := sound.inStep.perform .service
  rw [perform_eq_watch rfl rfl]
  simp only [Scheduler.perform] at inStep ⊢
  by_cases done : chronicle.scheduler.completion.phase = .done
  · obtain ⟨handle, tx, search⟩ := sound.inStep.find?_of_done done
    obtain ⟨found, sent, outstanding⟩ := known_of_sent search
    have terminal : (chronicle.scheduler.ruling tx).1.isTerminal = true :=
      InStep.isTerminal_verdict _ _ _
    rw [service_of_outcome done search] at inStep ⊢
    apply sound.watch_advance inStep found outstanding rfl rfl
    intro episode handleEq recipientEq statusEq
    rw [Episode.events_of_terminal terminal]
    simp [Episode.events, Episode.event, statusEq, sent, endOf, handleEq, recipientEq]
  · obtain ⟨lock, served⟩ := service_of_waiting done
    rw [served] at inStep ⊢
    exact sound.watch_same inStep rfl rfl

/-- A taken event is the next one of its episode. -/
theorem nextEvent (sound : chronicle.Sound) : (chronicle.perform .nextEvent).Sound := by
  have inStep := sound.inStep.perform .nextEvent
  cases queue : chronicle.scheduler.events with
  | nil =>
      rw [perform_eq_watch rfl (by simp [taken, nextEvent_eq, queue])]
      simp only [Scheduler.perform, Logged.value_pure, nextEvent_eq] at inStep ⊢
      exact sound.watch_same inStep rfl (by simp [queue])
  | cons event rest =>
      have same : chronicle.episodes.map
          (Episode.observe { chronicle.scheduler with events := rest }) = chronicle.episodes :=
        sound.tracks.map_observe_eq fun _ _ found => found
      have tracks := sound.tracks
      have accounts := sound.accounts
      rw [queue] at accounts
      rw [perform_nextEvent queue, same]
      simp only [Scheduler.perform, Logged.value_pure, nextEvent_eq, queue] at inStep
      exact {
        inStep := inStep
        tracks := by
          have kept : Continues chronicle.scheduler { chronicle.scheduler with events := rest } :=
            Continues.of_kept fun _ _ found => found
          have watched := tracks.observe kept
          rw [same] at watched
          exact watched.tell [event]
        accounts := accounts.pop tracks
      }

/-- A transmission that is released has told all. -/
theorem release (sound : chronicle.Sound) (permitted : chronicle.Permits (.release handle)) :
    (chronicle.perform (.release handle)).Sound := by
  have inStep := sound.inStep.perform (.release handle)
  rw [perform_eq_watch rfl rfl]
  simp only [Scheduler.perform, Logged.value_pure] at inStep ⊢
  rcases release_cases chronicle.scheduler handle with
    ⟨tx, found, terminal, released⟩ | ⟨-, kept⟩
  · rw [released] at inStep ⊢
    apply sound.watch_forget inStep rfl
    · intro other otherTx otherFound
      obtain ⟨present, id⟩ := Table.get?_eq_some_iff.mp otherFound
      by_cases slot : other.slot = handle.slot
      · rw [slot, Table.entry_vacate_same] at present
        contradiction
      · rw [Table.entry_vacate_of_ne slot] at present
        exact Table.get?_eq_some_iff.mpr ⟨present, id⟩
    · intro episode mem held gone
      obtain ⟨known, knownFound, -, -⟩ := sound.tracks.known_of_held episode mem held
      by_cases slot : episode.handle.slot = handle.slot
      · have same : episode.handle = handle := handle_eq_of_slot_eq found knownFound slot
        exact Episode.told_eq_of_toldEnd (sound.accounts.informed episode mem).told_within
          (permitted episode mem held same)
      · obtain ⟨present, id⟩ := Table.get?_eq_some_iff.mp knownFound
        rw [← Table.entry_vacate_of_ne slot] at present
        have stays := Table.get?_eq_some_iff.mpr ⟨present, id⟩
        rw [get?, stays] at gone
        contradiction
  · rw [kept] at inStep ⊢
    exact sound.watch_same inStep rfl rfl

/-- A pending transmission has nothing to tell. -/
theorem removePending (sound : chronicle.Sound) (condition : Transmission → Bool) :
    (chronicle.watch (chronicle.scheduler.removePending condition).2).Sound := by
  apply sound.watch_forget (sound.inStep.removePending condition) rfl
  · intro handle tx found
    exact get?_of_get?_removePending found
  · intro episode mem held gone
    obtain ⟨known, found, status, -⟩ := sound.tracks.known_of_held episode mem held
    by_cases pending : known.status = .pending
    · have nothing : episode.events = [] := by
        rw [Episode.events, ← status, pending]
      have told := (sound.accounts.informed episode mem).told_within
      rw [nothing] at told ⊢
      exact List.prefix_nil.mp told
    · rw [get?_removePending_of_not_pending found pending] at gone
      contradiction

/-- Dropping all pending work drops no event, and the queue stays in order. -/
theorem cancelAll_eq (sound : chronicle.Sound) :
    chronicle.scheduler.cancelAll = pure (chronicle.scheduler.removePending fun _ => true) := by
  have wanted : ∀ event ∈ chronicle.scheduler.events,
      ((chronicle.scheduler.removePending fun _ => true).2.get? event.handle).isSome =
        true := by
    intro event queued
    obtain ⟨episode, mem, held, handleEq, dispatched⟩ :=
      sound.accounts.owner_of_mem_queue queued
    obtain ⟨known, found, status, -⟩ := sound.tracks.known_of_held episode mem held
    rw [← status] at dispatched
    rw [← handleEq, get?_removePending_of_not_pending found dispatched]
    rfl
  have turned := Event.turn_length
    (fun event => ((chronicle.scheduler.removePending fun _ => true).2.get? event.handle).isSome)
    (sound.accounts.length_queue_le sound.tracks)
  rw [List.filter_eq_self.mpr wanted] at turned
  have unchanged : chronicle.scheduler.cancelAll =
      (do
        let events ← pure chronicle.scheduler.events
        return ((chronicle.scheduler.removePending fun _ => true).1,
          { (chronicle.scheduler.removePending fun _ => true).2 with events })) := by
    rw [← turned]
    rfl
  exact unchanged

theorem cancelAll (sound : chronicle.Sound) : (chronicle.perform .cancelAll).Sound := by
  rw [perform_eq_watch rfl rfl]
  simp only [Scheduler.perform, sound.cancelAll_eq]
  exact sound.removePending _

/-- Every permitted operation keeps the chronicle sound. -/
theorem perform (sound : chronicle.Sound) (permitted : chronicle.Permits operation) :
    (chronicle.perform operation).Sound := by
  cases operation with
  | schedule packet expectsReply => exact sound.schedule packet expectsReply
  | dispatch wire => exact sound.dispatch wire
  | service => exact sound.service
  | nextEvent => exact sound.nextEvent
  | release handle => exact sound.release permitted
  | cancel _ | cancelByRecipient _ =>
      rw [perform_eq_watch rfl rfl]
      exact sound.removePending _
  | cancelAll => exact sound.cancelAll
  | signal signal =>
      rw [perform_eq_watch rfl rfl]
      exact sound.watch_same (sound.inStep.perform (.signal signal)) rfl rfl
  | askArmed =>
      rw [perform_eq_watch rfl rfl]
      exact sound.watch_same (sound.inStep.perform .askArmed) rfl rfl

/-- A chronicle stays sound over every disciplined run. -/
theorem after (sound : chronicle.Sound) {operations : List Operation}
    (disciplined : chronicle.Disciplined operations) : (chronicle.after operations).Sound := by
  induction operations generalizing chronicle with
  | nil => exact sound
  | cons operation rest ih => exact ih (sound.perform disciplined.1) disciplined.2

end Sound

/-! ## What a permitted run guarantees -/

/-- The guarantees about the events of a run. -/
structure Faithful (chronicle : Chronicle) : Prop where
  /-- The events taken, followed by those queued, are the events of the
  transmissions in the order of their acceptance. -/
  events_in_order :
    chronicle.popped ++ chronicle.scheduler.events =
      chronicle.episodes.flatMap Episode.events
  length_queue_le : chronicle.scheduler.events.length ≤ Event.queueCapacity
  /-- Whatever comes next, no event is dropped to make room. -/
  no_eviction : ∀ operation,
    ∀ entry ∈ (chronicle.scheduler.perform operation).entries, entry.level ≠ .warn
  /-- Every transmission that is still known has an episode with its status. -/
  episode_of_known : ∀ handle tx, chronicle.scheduler.get? handle = some tx →
    ∃ episode ∈ chronicle.episodes, episode.held = true ∧ episode.handle = handle ∧
      episode.status = tx.status ∧ episode.recipient = tx.recipient
  /-- The end of a transmission that is still known is queued, or was taken for
  this very transmission. -/
  end_queued_or_taken : ∀ handle tx, chronicle.scheduler.get? handle = some tx →
    tx.status.isTerminal = true →
      endOf handle tx tx.status ∈ chronicle.scheduler.events ∨
      endOf handle tx tx.status ∈ chronicle.popped ∧
        ∃ episode ∈ chronicle.episodes, episode.held = true ∧ episode.handle = handle ∧
          endOf handle tx tx.status ∈ episode.told

namespace Sound

theorem level_of_mem_schedule {packet : Packet} {expectsReply : Bool} {entry : Log.Entry}
    {scheduler : Scheduler} (noted : entry ∈ (scheduler.schedule packet expectsReply).entries) :
    entry.level = .trace := by
  unfold Scheduler.schedule at noted
  split at noted
  · simp only [Logged.entries_bind, Logged.entries_note, Logged.entries_pure,
      List.append_nil, List.mem_singleton] at noted
    rw [noted]
  · split at noted
    · simp at noted
    · simp only [Logged.entries_bind, Logged.entries_note, Logged.entries_pure,
        List.append_nil, List.mem_singleton] at noted
      rw [noted]

theorem level_of_mem_dispatch {W : Type} [Wire W] {wire : W} {entry : Log.Entry}
    (sound : chronicle.Sound)
    (noted : entry ∈ (chronicle.scheduler.dispatch wire).entries) : entry.level ≠ .warn := by
  cases search : chronicle.scheduler.table.find? (fun tx => tx.status.isPending) with
  | none =>
      rw [dispatch_of_no_pending search] at noted
      simp at noted
  | some result =>
      obtain ⟨handle, tx⟩ := result
      obtain ⟨found, -, outstanding⟩ := known_of_pending search
      have room := sound.room found outstanding
      rw [Scheduler.dispatch, search] at noted
      cases answer : (offer wire tx).result with
      | error refusal =>
          rw [offer] at answer
          simp only [Wire.call, answer, Logged.entries_bind, Logged.entries_note,
            Logged.entries_pure, List.append_nil, List.mem_singleton] at noted
          simp [noted]
      | ok _ =>
          rw [offer] at answer
          simp only [Wire.call, answer, push, Event.enqueue_of_room room, Logged.entries_bind,
            Logged.entries_note, Logged.entries_pure, List.append_nil,
            List.mem_singleton] at noted
          simp [noted]

theorem level_of_mem_service {entry : Log.Entry} (sound : chronicle.Sound)
    (noted : entry ∈ chronicle.scheduler.service.entries) : entry.level ≠ .warn := by
  by_cases done : chronicle.scheduler.completion.phase = .done
  · obtain ⟨handle, tx, search⟩ := sound.inStep.find?_of_done done
    obtain ⟨found, -, outstanding⟩ := known_of_sent search
    have room := sound.room found outstanding
    rw [service_eq_settle done search] at noted
    rcases mem_entries_settle noted with ⟨level, -⟩ | ⟨level, -⟩ | ⟨event, appended⟩
    · simp [level]
    · simp [level]
    · change entry ∈ (Event.enqueue chronicle.scheduler.events event).entries at appended
      rw [Event.enqueue_of_room room] at appended
      simp at appended
  · obtain ⟨lock, served⟩ := service_of_waiting done
    rw [served] at noted
    simp at noted

/-- No operation drops an event to make room. -/
theorem no_eviction (sound : chronicle.Sound) (operation : Operation) :
    ∀ entry ∈ (chronicle.scheduler.perform operation).entries, entry.level ≠ .warn := by
  intro entry noted
  cases operation with
  | schedule packet expectsReply =>
      rw [Scheduler.perform, Logged.entries_map] at noted
      simp [level_of_mem_schedule noted]
  | dispatch wire =>
      rw [Scheduler.perform, Logged.entries_map] at noted
      exact sound.level_of_mem_dispatch noted
  | service => exact sound.level_of_mem_service noted
  | cancelAll =>
      rw [Scheduler.perform, Logged.entries_map, sound.cancelAll_eq] at noted
      simp at noted
  | nextEvent | release _ | cancel _ | cancelByRecipient _ | signal _ | askArmed =>
      simp [Scheduler.perform] at noted

/-- An event of an episode was told or waits in the queue. -/
theorem told_or_queued (sound : chronicle.Sound) {episode : Episode} {event : Event}
    (mem : episode ∈ chronicle.episodes) (due : event ∈ episode.events) :
    event ∈ episode.told ∨ event ∈ chronicle.scheduler.events := by
  rw [← Episode.told_append_remaining (sound.accounts.informed episode mem).told_within] at due
  rcases List.mem_append.mp due with told | waiting
  · exact Or.inl told
  · rw [sound.accounts.queue_eq]
    exact Or.inr (List.mem_flatMap.mpr ⟨episode, mem, waiting⟩)

theorem episode_of_known (sound : chronicle.Sound)
    (found : chronicle.scheduler.get? handle = some tx) :
    ∃ episode ∈ chronicle.episodes, episode.held = true ∧ episode.handle = handle ∧
      episode.status = tx.status ∧ episode.recipient = tx.recipient := by
  obtain ⟨episode, mem, held, rfl⟩ := sound.tracks.held_of_known handle tx found
  obtain ⟨known, knownFound, status, recipient⟩ := sound.tracks.known_of_held episode mem held
  rw [found] at knownFound
  cases knownFound
  exact ⟨episode, mem, held, rfl, status.symm, recipient.symm⟩

theorem faithful (sound : chronicle.Sound) : chronicle.Faithful where
  events_in_order := sound.accounts.popped_append_queue
  length_queue_le := sound.accounts.length_queue_le sound.tracks
  no_eviction := sound.no_eviction
  episode_of_known := fun _ _ found => sound.episode_of_known found
  end_queued_or_taken := by
    intro handle tx found terminal
    obtain ⟨episode, mem, held, handleEq, status, recipient⟩ := sound.episode_of_known found
    have due : endOf handle tx tx.status ∈ episode.events := by
      rw [← status] at terminal
      rw [Episode.events_of_terminal terminal]
      simp [Episode.event, endOf, handleEq, status, recipient]
    rcases sound.told_or_queued mem due with told | queued
    · exact Or.inr ⟨(sound.accounts.informed episode mem).told_popped _ told, episode, mem,
        held, handleEq, told⟩
    · exact Or.inl queued

end Sound

/-- As long as transmissions are released only after the event of their end was
taken, every run has its events complete and in order. -/
theorem faithful_after (operations : List Operation)
    (disciplined : Disciplined {} operations) :
    (Chronicle.after {} operations).scheduler = Scheduler.after {} operations ∧
      (Chronicle.after {} operations).Faithful :=
  ⟨scheduler_after {} operations, (Sound.empty.after disciplined).faithful⟩

/-- Three queries: the first is told to its end and released, the second is
cancelled, and the third is on the wire when all pending work is dropped. -/
def threeQueries : List Operation :=
  [ .schedule query false, .dispatch PromptWire.mk, .service, .nextEvent, .nextEvent,
    .release ⟨0, 1⟩, .schedule query true, .cancelByRecipient query.recipient,
    .schedule query true, .dispatch PromptWire.mk, .cancelAll ]

/-- The second query leaves no event, and the third has only started. -/
theorem faithful_after_threeQueries :
    (Chronicle.after {} threeQueries).popped ++
        (Chronicle.after {} threeQueries).scheduler.events =
      [ { handle := ⟨0, 1⟩, recipient := query.recipient, kind := .started },
        { handle := ⟨0, 1⟩, recipient := query.recipient, kind := .completed },
        { handle := ⟨0, 3⟩, recipient := query.recipient, kind := .started } ] := by
  have disciplined : Disciplined {} threeQueries := by decide +kernel
  rw [(faithful_after threeQueries disciplined).2.events_in_order]
  decide +kernel

end Chronicle

end MapleBus.Scheduler
