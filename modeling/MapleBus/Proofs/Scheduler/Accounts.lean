import MapleBus.Proofs.Scheduler.Chronicle
import Mathlib.Data.List.Basic

/-!
# Accounts of the events

The events taken and the events queued are accounted for by the episodes: each
episode has been told the first of its events, the others wait, and the queue
holds what waits, episode after episode.  A slot has room for one held episode
and an episode has two events at most, so the queue never runs out of room.
-/

namespace MapleBus.Scheduler

namespace Episode

variable {episode : Episode} {event : Event}

/-- The events that have not been taken yet. -/
def remaining (episode : Episode) : List Event :=
  episode.events.drop episode.told.length

theorem handle_of_mem_events (mem : event ∈ episode.events) :
    event.handle = episode.handle := by
  unfold events at mem
  split at mem <;> simp only [List.mem_cons, List.not_mem_nil, or_false] at mem
  · rw [mem]
    rfl
  · rcases mem with rfl | rfl <;> rfl
  · rcases mem with rfl | rfl <;> rfl

theorem handle_of_mem_remaining (mem : event ∈ episode.remaining) :
    event.handle = episode.handle :=
  handle_of_mem_events (List.mem_of_mem_drop mem)

theorem length_events_le : episode.events.length ≤ 2 := by
  unfold events
  split <;> simp

theorem length_remaining_le : episode.remaining.length ≤ episode.events.length := by
  rw [remaining, List.length_drop]
  exact Nat.sub_le _ _

theorem told_append_remaining (told : episode.told <+: episode.events) :
    episode.told ++ episode.remaining = episode.events :=
  List.prefix_iff_eq_append.mp told

/-- A transmission that gave rise to an event was dispatched. -/
theorem status_ne_pending_of_mem_remaining (mem : event ∈ episode.remaining) :
    episode.status ≠ .pending := by
  intro pending
  have none : episode.events = [] := by
    rw [events, pending]
  rw [remaining, none, List.drop_nil] at mem
  exact List.not_mem_nil mem

/-- The events of a transmission that has ended. -/
theorem events_of_terminal (terminal : episode.status.isTerminal = true) :
    episode.events = [episode.event .started, episode.event (endKind episode.status)] := by
  unfold events
  cases status : episode.status with
  | pending | sent =>
      rw [status] at terminal
      contradiction
  | succeeded _ | failed _ => rfl

/-- Before the last of two events is taken, no end was taken. -/
theorem not_toldEnd_of_start (told : episode.told <+: [episode.event .started]) :
    episode.toldEnd = false := by
  rw [toldEnd, List.any_eq_false]
  intro known mem
  have start : known = episode.event .started :=
    List.mem_singleton.mp (told.subset mem)
  rw [start]
  exact Bool.false_ne_true

/-- A transmission whose end was taken has nothing left to tell. -/
theorem told_eq_of_toldEnd (told : episode.told <+: episode.events)
    (ended : episode.toldEnd = true) : episode.told = episode.events := by
  cases terminal : episode.status.isTerminal with
  | true =>
      have whole : episode.events =
          [episode.event .started] ++ [episode.event (endKind episode.status)] :=
        events_of_terminal terminal
      rw [whole] at told ⊢
      rcases List.prefix_concat_iff.mp told with all | started
      · exact all
      · rw [not_toldEnd_of_start started] at ended
        contradiction
  | false =>
      have started : episode.events <+: [episode.event .started] := by
        unfold events
        cases status : episode.status with
        | pending => exact List.nil_prefix
        | sent => exact List.prefix_refl _
        | succeeded _ | failed _ =>
            rw [status] at terminal
            contradiction
      rw [not_toldEnd_of_start (told.trans started)] at ended
      contradiction

/-- Taking an event of another transmission is no news. -/
theorem tell_of_handle_ne (ne : event.handle ≠ episode.handle) :
    episode.tell [event] = episode := by
  unfold tell
  split
  · simp [ne]
  · rfl

theorem tell_of_dropped (dropped : episode.held = false) (events : List Event) :
    episode.tell events = episode := by
  simp [tell, dropped]

theorem tell_eq (held : episode.held = true) (handle : event.handle = episode.handle) :
    episode.tell [event] = { episode with told := episode.told ++ [event] } := by
  simp [tell, held, handle]

end Episode

/-- An episode was told the first of its events, all of which were taken, and it was
told all of them before it was lost from sight. -/
structure Episode.Informed (popped : List Event) (episode : Episode) : Prop where
  told_within : episode.told <+: episode.events
  told_of_dropped : episode.held = false → episode.told = episode.events
  told_popped : ∀ event ∈ episode.told, event ∈ popped

/-- Taking more events leaves what was told. -/
theorem Episode.Informed.append {episode : Episode} {popped : List Event}
    (informed : episode.Informed popped) (more : List Event) :
    episode.Informed (popped ++ more) where
  told_within := informed.told_within
  told_of_dropped := informed.told_of_dropped
  told_popped := fun event mem => List.mem_append_left more (informed.told_popped event mem)

/-- A held episode is told the first of what remains. -/
theorem Episode.Informed.tell {episode : Episode} {popped tail : List Event} {event : Event}
    (informed : episode.Informed popped) (held : episode.held = true)
    (waiting : episode.remaining = event :: tail) :
    ({ episode with told := episode.told ++ [event] } : Episode).Informed (popped ++ [event]) ∧
      ({ episode with told := episode.told ++ [event] } : Episode).remaining = tail := by
  have whole := Episode.told_append_remaining informed.told_within
  rw [waiting, List.append_cons] at whole
  refine ⟨⟨⟨tail, whole⟩, ?_, ?_⟩, ?_⟩
  · intro dropped
    rw [held] at dropped
    contradiction
  · intro known mem
    rcases List.mem_append.mp mem with earlierTold | now
    · exact List.mem_append_left _ (informed.told_popped known earlierTold)
    · exact List.mem_append_right _ now
  · change episode.events.drop (episode.told ++ [event]).length = tail
    rw [← whole, List.drop_left]

/-- The events taken and the events queued are those of the episodes, in the
order of the episodes. -/
structure Accounts (episodes : List Episode) (popped queue : List Event) : Prop where
  informed : ∀ episode ∈ episodes, episode.Informed popped
  queue_eq : queue = episodes.flatMap Episode.remaining
  popped_append_queue : popped ++ queue = episodes.flatMap Episode.events

namespace Accounts

variable {episodes earlier later : List Episode} {episode : Episode}
  {popped queue rest : List Event} {event : Event}

theorem empty : Accounts [] [] [] where
  informed := List.forall_mem_nil _
  queue_eq := rfl
  popped_append_queue := rfl

/-- An episode that is lost from sight has nothing left to tell. -/
theorem remaining_eq_nil_of_dropped (accounts : Accounts episodes popped queue)
    (mem : episode ∈ episodes) (dropped : episode.held = false) : episode.remaining = [] := by
  rw [Episode.remaining, (accounts.informed episode mem).told_of_dropped dropped,
    List.drop_length]

theorem held_of_mem_remaining (accounts : Accounts episodes popped queue)
    (mem : episode ∈ episodes) (waiting : event ∈ episode.remaining) :
    episode.held = true := by
  cases held : episode.held with
  | true => rfl
  | false =>
      rw [accounts.remaining_eq_nil_of_dropped mem held] at waiting
      exact absurd waiting List.not_mem_nil

/-- An event in the queue waits for a held episode that was dispatched. -/
theorem owner_of_mem_queue (accounts : Accounts episodes popped queue)
    (queued : event ∈ queue) :
    ∃ episode ∈ episodes, episode.held = true ∧ episode.handle = event.handle ∧
      episode.status ≠ .pending := by
  rw [accounts.queue_eq] at queued
  obtain ⟨episode, mem, waiting⟩ := List.mem_flatMap.mp queued
  exact ⟨episode, mem, accounts.held_of_mem_remaining mem waiting,
    (Episode.handle_of_mem_remaining waiting).symm,
    Episode.status_ne_pending_of_mem_remaining waiting⟩

/-- A look that shows no new events, and loses sight only of what has told
all. -/
theorem map (accounts : Accounts episodes popped queue) {look : Episode → Episode}
    (told : ∀ episode ∈ episodes, (look episode).told = episode.told)
    (events : ∀ episode ∈ episodes, (look episode).events = episode.events)
    (dropped : ∀ episode ∈ episodes, (look episode).held = false →
      episode.told = episode.events) :
    Accounts (episodes.map look) popped queue where
  informed := by
    intro seen mem
    obtain ⟨episode, episodeMem, rfl⟩ := List.mem_map.mp mem
    have before := accounts.informed episode episodeMem
    constructor
    · rw [told episode episodeMem, events episode episodeMem]
      exact before.told_within
    · intro gone
      rw [told episode episodeMem, events episode episodeMem]
      exact dropped episode episodeMem gone
    · rw [told episode episodeMem]
      exact before.told_popped
  queue_eq := by
    rw [List.flatMap_map, accounts.queue_eq]
    apply List.flatMap_congr
    intro episode mem
    rw [Episode.remaining, Episode.remaining, told episode mem, events episode mem]
  popped_append_queue := by
    rw [List.flatMap_map, accounts.popped_append_queue]
    apply List.flatMap_congr
    intro episode mem
    rw [events episode mem]

/-- A new episode that has nothing to tell yet. -/
theorem accept (accounts : Accounts episodes popped queue) (told : episode.told = [])
    (events : episode.events = []) : Accounts (episodes ++ [episode]) popped queue where
  informed := by
    intro other mem
    rcases List.mem_append.mp mem with old | new
    · exact accounts.informed other old
    · rw [List.mem_singleton.mp new]
      constructor
      · rw [told]
        exact List.nil_prefix
      · intro _
        rw [told, events]
      · rw [told]
        exact List.forall_mem_nil _
  queue_eq := by
    rw [List.flatMap_append, List.flatMap_singleton, Episode.remaining, events,
      List.drop_nil, List.append_nil]
    exact accounts.queue_eq
  popped_append_queue := by
    rw [List.flatMap_append, List.flatMap_singleton, events, List.append_nil]
    exact accounts.popped_append_queue

/-- The last episode gives rise to an event, which is queued. -/
theorem advance {renewed : Episode} (accounts : Accounts (earlier ++ [episode]) popped queue)
    (told : renewed.told = episode.told) (held : renewed.held = true)
    (events : renewed.events = episode.events ++ [event]) :
    Accounts (earlier ++ [renewed]) popped (queue ++ [event]) := by
  have last : episode ∈ earlier ++ [episode] := by simp
  have before := accounts.informed episode last
  have remaining : renewed.remaining = episode.remaining ++ [event] := by
    rw [Episode.remaining, told, events,
      List.drop_append_of_le_length before.told_within.length_le]
    rfl
  exact {
    informed := by
      intro other mem
      rcases List.mem_append.mp mem with old | new
      · exact accounts.informed other (List.mem_append_left _ old)
      · rw [List.mem_singleton.mp new]
        constructor
        · rw [told, events]
          exact before.told_within.trans (List.prefix_append _ _)
        · intro dropped
          rw [held] at dropped
          contradiction
        · rw [told]
          exact before.told_popped
    queue_eq := by
      rw [accounts.queue_eq]
      simp only [List.flatMap_append, List.flatMap_singleton, remaining, List.append_assoc]
    popped_append_queue := by
      rw [← List.append_assoc, accounts.popped_append_queue]
      simp only [List.flatMap_append, List.flatMap_singleton, events, List.append_assoc]
  }

/-- Taking the next event of an episode is no news for the others. -/
theorem map_tell_eq {scheduler : Scheduler}
    (tracks : Tracks scheduler (earlier ++ episode :: later)) (held : episode.held = true)
    (handle : event.handle = episode.handle) :
    (earlier ++ episode :: later).map (Episode.tell [event]) =
      earlier ++ { episode with told := episode.told ++ [event] } :: later := by
  have others : ∀ other ∈ earlier ++ later, other.tell [event] = other := by
    intro other mem
    cases otherHeld : other.held with
    | false => exact Episode.tell_of_dropped otherHeld [event]
    | true =>
        apply Episode.tell_of_handle_ne
        intro same
        exact tracks.slot_ne held other mem otherHeld (by rw [← same, handle])
  have same : ∀ part, part ⊆ earlier ++ later → part.map (Episode.tell [event]) = part := by
    intro part subset
    calc
      part.map (Episode.tell [event]) = part.map id :=
        List.map_congr_left fun other mem => others other (subset mem)
      _ = part := List.map_id part
  rw [List.map_append, List.map_cons, same earlier (List.subset_append_left _ _),
    same later (List.subset_append_right _ _), Episode.tell_eq held handle]

/-- The oldest event in the queue is the next one of its episode. -/
theorem pop {scheduler : Scheduler} (accounts : Accounts episodes popped (event :: rest))
    (tracks : Tracks scheduler episodes) :
    Accounts (episodes.map (Episode.tell [event])) (popped ++ [event]) rest := by
  have queue := accounts.queue_eq
  rw [List.flatMap_def] at queue
  obtain ⟨quiet, tail, after, split, silent, restEq⟩ := List.flatten_eq_cons_iff.mp queue.symm
  obtain ⟨earlier, others, rfl, earlierEq, othersEq⟩ := List.map_eq_append_iff.mp split
  obtain ⟨owner, later, rfl, waiting, laterEq⟩ := List.map_eq_cons_iff.mp othersEq
  have ownerMem : owner ∈ earlier ++ owner :: later := by simp
  have next : event ∈ owner.remaining := by
    rw [waiting]
    exact List.mem_cons_self
  have held := accounts.held_of_mem_remaining ownerMem next
  obtain ⟨informed, left⟩ := (accounts.informed owner ownerMem).tell held waiting
  rw [map_tell_eq tracks held (Episode.handle_of_mem_remaining next)]
  exact {
    informed := by
      intro other mem
      simp only [List.mem_append, List.mem_cons] at mem
      rcases mem with old | rfl | old
      · exact (accounts.informed other (by simp [old])).append [event]
      · exact informed
      · exact (accounts.informed other (by simp [old])).append [event]
    queue_eq := by
      have nothing : earlier.flatMap Episode.remaining = [] := by
        rw [List.flatMap_def, earlierEq]
        exact List.flatten_eq_nil_iff.mpr silent
      rw [List.flatMap_append, nothing, List.flatMap_cons, left, List.nil_append, restEq,
        List.flatMap_def, laterEq]
    popped_append_queue := by
      rw [List.append_assoc]
      change popped ++ event :: rest = _
      rw [accounts.popped_append_queue]
      simp only [List.flatMap_append, List.flatMap_cons]
      rfl
  }

/-- Every held episode has two events at most, and the others have none left. -/
theorem length_flatMap_remaining_le
    (silent : ∀ episode ∈ episodes, episode.held = false → episode.remaining = []) :
    (episodes.flatMap Episode.remaining).length ≤
      2 * (episodes.filter Episode.held).length := by
  induction episodes with
  | nil => exact Nat.le_refl 0
  | cons episode rest ih =>
      have others := ih fun other mem => silent other (List.mem_cons_of_mem _ mem)
      rw [List.flatMap_cons, List.length_append]
      cases held : episode.held with
      | false =>
          rw [silent episode List.mem_cons_self held, List.filter_cons_of_neg (by simp [held])]
          simpa using others
      | true =>
          have own : episode.remaining.length ≤ 2 :=
            Nat.le_trans Episode.length_remaining_le Episode.length_events_le
          rw [List.filter_cons_of_pos held, List.length_cons]
          omega

/-- The table has room for so few held episodes that their events fit into the
queue. -/
theorem length_queue_le {scheduler : Scheduler} (accounts : Accounts episodes popped queue)
    (tracks : Tracks scheduler episodes) : queue.length ≤ Event.queueCapacity := by
  have waiting : (episodes.flatMap Episode.remaining).length ≤
      2 * (episodes.filter Episode.held).length :=
    length_flatMap_remaining_le fun _ mem => accounts.remaining_eq_nil_of_dropped mem
  rw [← accounts.queue_eq] at waiting
  exact Nat.le_trans waiting (Nat.mul_le_mul_left 2 tracks.length_held_le)

/-- While the last episode has given rise to one event at most, there is room
for the next one. -/
theorem room {scheduler : Scheduler} (accounts : Accounts (earlier ++ [episode]) popped queue)
    (tracks : Tracks scheduler (earlier ++ [episode])) (held : episode.held = true)
    (few : episode.events.length ≤ 1) : queue.length < Event.queueCapacity := by
  have waiting : (earlier.flatMap Episode.remaining).length ≤
      2 * (earlier.filter Episode.held).length :=
    length_flatMap_remaining_le fun _ mem =>
      accounts.remaining_eq_nil_of_dropped (List.mem_append_left _ mem)
  have own : episode.remaining.length ≤ 1 := Nat.le_trans Episode.length_remaining_le few
  have slots := tracks.length_held_le
  rw [List.filter_append, List.filter_cons_of_pos held, List.length_append, List.filter_nil,
    List.length_singleton, Table.capacity] at slots
  rw [accounts.queue_eq, List.flatMap_append, List.flatMap_singleton, List.length_append,
    Event.queueCapacity]
  omega

end Accounts

end MapleBus.Scheduler
