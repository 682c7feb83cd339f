import MapleBus.Proofs.Scheduler.InStep
import Mathlib.Data.Fintype.Card

/-!
# The chronicle of a run

A run is written down beside the scheduler: an episode for every accepted
transmission, in the order of acceptance, and the events that were taken.  An
episode is told by what the scheduler shows of its transmission after each
operation.  The chronicle only watches; no operation depends on it.
-/

namespace MapleBus.Scheduler

/-- An accepted transmission, as it shows from outside. -/
structure Episode where
  handle : Handle
  recipient : Address
  /-- The status that was seen last. -/
  status : Status := .pending
  /-- Whether the scheduler still knows the transmission. -/
  held : Bool := true
  /-- The events that were taken for it, in order. -/
  told : List Event := []

namespace Episode

/-- An event of the transmission. -/
def event (episode : Episode) (kind : Event.Kind) : Event where
  handle := episode.handle
  recipient := episode.recipient
  kind := kind

/-- The events a transmission has given rise to, by its status.  While it is
pending there are none, and so there are none when it is cancelled then. -/
def events (episode : Episode) : List Event :=
  match episode.status with
  | .pending => []
  | .sent => [episode.event .started]
  | .succeeded _ => [episode.event .started, episode.event .completed]
  | .failed _ => [episode.event .started, episode.event .failed]

/-- Whether the event of the transmission's end was taken. -/
def toldEnd (episode : Episode) : Bool :=
  episode.told.any fun event => event.kind.isTerminal

/-- Look at the transmission once more. -/
def observe (scheduler : Scheduler) (episode : Episode) : Episode :=
  if episode.held then
    match scheduler.get? episode.handle with
    | some tx => { episode with status := tx.status }
    | none => { episode with held := false }
  else
    episode

/-- Take those of the events that are about the transmission. -/
def tell (events : List Event) (episode : Episode) : Episode :=
  if episode.held then
    { episode with
      told := episode.told ++ events.filter fun event => event.handle = episode.handle }
  else
    episode

end Episode

/-- A scheduler together with what was seen of its run. -/
structure Chronicle where
  scheduler : Scheduler := {}
  /-- The accepted transmissions, oldest first. -/
  episodes : List Episode := []
  /-- The events that were taken, oldest first. -/
  popped : List Event := []

/-- The transmission that an operation gets accepted. -/
def accepted (scheduler : Scheduler) : Operation → List Episode
  | .schedule packet expectsReply =>
      match (scheduler.schedule packet expectsReply).value.1 with
      | .ok handle => [{ handle, recipient := packet.recipient }]
      | .error _ => []
  | _ => []

/-- The event that an operation takes. -/
def taken (scheduler : Scheduler) : Operation → List Event
  | .nextEvent => scheduler.nextEvent.1.toList
  | _ => []

namespace Chronicle

/-- Perform an operation and look at what became of every transmission. -/
def perform (chronicle : Chronicle) (operation : Operation) : Chronicle :=
  let next := (chronicle.scheduler.perform operation).value
  let events := chronicle.scheduler.taken operation
  { scheduler := next
    episodes :=
      chronicle.episodes.map (fun episode => (episode.observe next).tell events) ++
        chronicle.scheduler.accepted operation
    popped := chronicle.popped ++ events }

/-- The chronicle after a run. -/
def after (chronicle : Chronicle) : List Operation → Chronicle
  | [] => chronicle
  | operation :: rest => (chronicle.perform operation).after rest

/-- A transmission is released only after the event of its end was taken. -/
def Permits (chronicle : Chronicle) : Operation → Prop
  | .release handle =>
      ∀ episode ∈ chronicle.episodes, episode.held = true → episode.handle = handle →
        episode.toldEnd = true
  | _ => True

instance (chronicle : Chronicle) : DecidablePred chronicle.Permits
  | .release handle =>
      inferInstanceAs (Decidable (∀ episode ∈ chronicle.episodes, episode.held = true →
        episode.handle = handle → episode.toldEnd = true))
  | .schedule _ _ | @Operation.dispatch _ _ _ | .service | .nextEvent | .cancel _
  | .cancelByRecipient _ | .cancelAll | .signal _ | .askArmed =>
      inferInstanceAs (Decidable True)

/-- Every operation of a run is permitted when it is performed. -/
def Disciplined (chronicle : Chronicle) : List Operation → Prop
  | [] => True
  | operation :: rest =>
      chronicle.Permits operation ∧ (chronicle.perform operation).Disciplined rest

instance decidableDisciplined (chronicle : Chronicle) :
    DecidablePred chronicle.Disciplined
  | [] => inferInstanceAs (Decidable True)
  | operation :: rest =>
      have := decidableDisciplined (chronicle.perform operation) rest
      inferInstanceAs (Decidable (chronicle.Permits operation ∧
        (chronicle.perform operation).Disciplined rest))

/-- The chronicle does not influence the run. -/
theorem scheduler_after (chronicle : Chronicle) (operations : List Operation) :
    (chronicle.after operations).scheduler = chronicle.scheduler.after operations := by
  induction operations generalizing chronicle with
  | nil => rfl
  | cons operation rest ih => exact ih (chronicle.perform operation)

end Chronicle

/-! ## Entries over one operation -/

/-- What remains of the entries is what was there, and what had ended stays as
it was. -/
def Continues (scheduler next : Scheduler) : Prop :=
  ∀ handle new, next.get? handle = some new →
    ∃ old, scheduler.get? handle = some old ∧ new.recipient = old.recipient ∧
      (old.status.isTerminal = true → new.status = old.status)

section Continues

variable {scheduler next : Scheduler} {handle other : Handle} {tx otherTx : Transmission}

/-- A change that only loses entries. -/
theorem Continues.of_kept
    (kept : ∀ handle tx, next.get? handle = some tx → scheduler.get? handle = some tx) :
    Continues scheduler next :=
  fun handle new found => ⟨new, kept handle new found, rfl, fun _ => rfl⟩

/-- Entries in different slots do not disturb one another. -/
theorem get?_put_of_ne {slot : Slot} (table : next.table = scheduler.table.put slot tx)
    (ne : other.slot ≠ slot) : next.get? other = scheduler.get? other := by
  simp only [get?, Table.get?, table, Table.entry_put_of_ne ne]

theorem get?_put_same (table : next.table = scheduler.table.put handle.slot tx)
    (id : tx.id = handle.id) : next.get? handle = some tx := by
  rw [get?, Table.get?_eq_some_iff, table]
  exact ⟨Table.entry_put_same, id⟩

/-- No handle resolves to a free slot. -/
theorem slot_ne_of_vacant {slot : Slot} (vacant : scheduler.table.entry slot = none) :
    ∀ handle tx, scheduler.get? handle = some tx → handle.slot ≠ slot := by
  rintro handle tx found rfl
  rw [(Table.get?_eq_some_iff.mp found).1] at vacant
  contradiction

/-- Filling a free slot disturbs no entry. -/
theorem get?_put_of_vacant {slot : Slot} (vacant : scheduler.table.entry slot = none)
    (table : next.table = scheduler.table.put slot tx) :
    ∀ handle tx, scheduler.get? handle = some tx → next.get? handle = some tx := by
  intro handle known found
  rw [← found]
  exact get?_put_of_ne table (slot_ne_of_vacant vacant handle known found)

/-- What is found in the slot of a known handle is known by that handle. -/
theorem handle_eq_of_slot_eq (found : scheduler.get? handle = some tx)
    (otherFound : scheduler.get? other = some otherTx) (slot : other.slot = handle.slot) :
    other = handle := by
  obtain ⟨present, id⟩ := Table.get?_eq_some_iff.mp found
  obtain ⟨otherPresent, otherId⟩ := Table.get?_eq_some_iff.mp otherFound
  rw [slot, present] at otherPresent
  rw [← Option.some.inj otherPresent, id] at otherId
  cases other
  cases handle
  cases slot
  cases otherId
  rfl

/-- A change of the status of a transmission that has not ended. -/
theorem Continues.of_put {status : Status} (found : scheduler.get? handle = some tx)
    (outstanding : tx.status.isTerminal = false)
    (table : next.table = scheduler.table.put handle.slot { tx with status }) :
    Continues scheduler next := by
  intro other new newFound
  have id : tx.id = handle.id := (Table.get?_eq_some_iff.mp found).2
  have renewed : next.get? handle = some { tx with status } := get?_put_same table id
  by_cases slot : other.slot = handle.slot
  · have same : other = handle := handle_eq_of_slot_eq renewed newFound slot
    rw [same, renewed] at newFound
    rw [← Option.some.inj newFound, same]
    refine ⟨tx, found, rfl, ?_⟩
    intro terminal
    rw [outstanding] at terminal
    contradiction
  · rw [get?_put_of_ne table slot] at newFound
    exact ⟨new, newFound, rfl, fun _ => rfl⟩

end Continues

/-! ## Episodes and entries -/

/-- The episodes that are held are the entries of the table, and only the last
one can occupy the bus. -/
structure Tracks (scheduler : Scheduler) (episodes : List Episode) : Prop where
  slots_nodup : ((episodes.filter Episode.held).map fun episode => episode.handle.slot).Nodup
  known_of_held : ∀ episode ∈ episodes, episode.held = true →
    ∃ tx, scheduler.get? episode.handle = some tx ∧ tx.status = episode.status ∧
      tx.recipient = episode.recipient
  held_of_known : ∀ handle tx, scheduler.get? handle = some tx →
    ∃ episode ∈ episodes, episode.held = true ∧ episode.handle = handle
  ended_before : episodes.Pairwise fun earlier _ =>
    earlier.held = true → earlier.status.isTerminal = true

namespace Episode

variable {scheduler : Scheduler} {episode : Episode} {tx : Transmission}

theorem observe_of_known (held : episode.held = true)
    (found : scheduler.get? episode.handle = some tx) :
    episode.observe scheduler = { episode with status := tx.status } := by
  rw [observe, if_pos held, found]

theorem observe_of_gone (held : episode.held = true)
    (gone : scheduler.get? episode.handle = none) :
    episode.observe scheduler = { episode with held := false } := by
  rw [observe, if_pos held, gone]

theorem observe_of_dropped (dropped : episode.held = false) :
    episode.observe scheduler = episode := by
  simp [observe, dropped]

@[simp]
theorem handle_observe : (episode.observe scheduler).handle = episode.handle := by
  unfold observe
  split
  · split <;> rfl
  · rfl

@[simp]
theorem recipient_observe :
    (episode.observe scheduler).recipient = episode.recipient := by
  unfold observe
  split
  · split <;> rfl
  · rfl

@[simp]
theorem told_observe : (episode.observe scheduler).told = episode.told := by
  unfold observe
  split
  · split <;> rfl
  · rfl

/-- An episode is held after a look exactly when it was, and its transmission
is still known. -/
theorem held_observe_iff :
    (episode.observe scheduler).held = true ↔
      episode.held = true ∧ ∃ tx, scheduler.get? episode.handle = some tx := by
  cases held : episode.held with
  | false => simp [observe_of_dropped held, held]
  | true =>
      cases found : scheduler.get? episode.handle with
      | none => simp [observe_of_gone held found]
      | some tx => simp [observe_of_known held found, held]

/-- Looking frees slots only. -/
theorem held_slots_observe (episodes : List Episode) (scheduler : Scheduler) :
    (((episodes.map (Episode.observe scheduler)).filter Episode.held).map fun episode =>
      episode.handle.slot).Sublist
        ((episodes.filter Episode.held).map fun episode => episode.handle.slot) := by
  have same : ((fun episode : Episode => episode.handle.slot) ∘ Episode.observe scheduler) =
      fun episode => episode.handle.slot := by
    funext episode
    simp
  rw [List.filter_map, List.map_map, same]
  apply List.Sublist.map
  apply List.monotone_filter_right episodes
  intro episode held
  exact (held_observe_iff.mp held).1

@[simp]
theorem tell_nil : episode.tell [] = episode := by
  unfold tell
  split
  · rw [List.filter_nil, List.append_nil]
  · rfl

section Tell

variable {events : List Event}

@[simp]
theorem handle_tell : (episode.tell events).handle = episode.handle := by
  unfold tell
  split <;> rfl

@[simp]
theorem recipient_tell : (episode.tell events).recipient = episode.recipient := by
  unfold tell
  split <;> rfl

@[simp]
theorem status_tell : (episode.tell events).status = episode.status := by
  unfold tell
  split <;> rfl

@[simp]
theorem held_tell : (episode.tell events).held = episode.held := by
  unfold tell
  split <;> rfl

end Tell

end Episode

namespace Tracks

variable {scheduler next : Scheduler} {episodes earlier later : List Episode}
  {episode : Episode} {handle : Handle} {slot : Slot} {tx : Transmission}

theorem empty : Tracks {} [] where
  slots_nodup := List.nodup_nil
  known_of_held := by simp
  held_of_known := by simp [get?, Table.get?]
  ended_before := List.Pairwise.nil

/-- The other held episodes stand in other slots. -/
theorem slot_ne (tracks : Tracks scheduler (earlier ++ episode :: later))
    (held : episode.held = true) :
    ∀ other ∈ earlier ++ later, other.held = true →
      other.handle.slot ≠ episode.handle.slot := by
  intro other mem otherHeld slot
  have nodup := tracks.slots_nodup
  rw [List.filter_append, List.filter_cons_of_pos held, List.map_append, List.map_cons,
    List.nodup_middle, List.nodup_cons, ← List.map_append, ← List.filter_append] at nodup
  exact nodup.1 (List.mem_map.mpr ⟨other, List.mem_filter.mpr ⟨mem, otherHeld⟩, slot⟩)

/-- No more episodes are held than there are slots. -/
theorem length_held_le (tracks : Tracks scheduler episodes) :
    (episodes.filter Episode.held).length ≤ Table.capacity := by
  have slots := List.Nodup.length_le_card tracks.slots_nodup
  rwa [List.length_map, Fintype.card_fin] at slots

/-- What occupies the bus was accepted last. -/
theorem last_of_outstanding (tracks : Tracks scheduler episodes)
    (found : scheduler.get? handle = some tx) (outstanding : tx.status.isTerminal = false) :
    ∃ earlier episode, episodes = earlier ++ [episode] ∧ episode.held = true ∧
      episode.handle = handle ∧ episode.status = tx.status ∧
      episode.recipient = tx.recipient := by
  obtain ⟨episode, mem, held, handleEq⟩ := tracks.held_of_known handle tx found
  obtain ⟨known, knownFound, status, recipient⟩ := tracks.known_of_held episode mem held
  rw [handleEq, found] at knownFound
  rw [← Option.some.inj knownFound] at status recipient
  obtain ⟨earlier, later, split⟩ := List.append_of_mem mem
  have ended := tracks.ended_before
  rw [split, List.pairwise_append, List.pairwise_cons] at ended
  cases later with
  | nil => exact ⟨earlier, episode, split, held, handleEq, status.symm, recipient.symm⟩
  | cons following _ =>
      have terminal := ended.2.1.1 following List.mem_cons_self held
      rw [← status, outstanding] at terminal
      contradiction

/-- A look after an operation that only continues entries. -/
theorem observe (tracks : Tracks scheduler episodes) (continues : Continues scheduler next) :
    Tracks next (episodes.map (Episode.observe next)) where
  slots_nodup := tracks.slots_nodup.sublist (Episode.held_slots_observe episodes next)
  known_of_held := by
    intro watched mem watchedHeld
    obtain ⟨episode, episodeMem, rfl⟩ := List.mem_map.mp mem
    obtain ⟨held, new, newFound⟩ := Episode.held_observe_iff.mp watchedHeld
    obtain ⟨known, found, -, recipient⟩ := tracks.known_of_held episode episodeMem held
    obtain ⟨old, oldFound, sameRecipient, -⟩ := continues episode.handle new newFound
    rw [found] at oldFound
    refine ⟨new, by simpa using newFound, ?_, ?_⟩
    · rw [Episode.observe_of_known held newFound]
    · rw [sameRecipient, ← Option.some.inj oldFound, recipient, Episode.recipient_observe]
  held_of_known := by
    intro handle new newFound
    obtain ⟨old, oldFound, -, -⟩ := continues handle new newFound
    obtain ⟨episode, mem, held, rfl⟩ := tracks.held_of_known handle old oldFound
    exact ⟨episode.observe next, List.mem_map_of_mem mem,
      Episode.held_observe_iff.mpr ⟨held, new, newFound⟩, Episode.handle_observe⟩
  ended_before := by
    rw [List.pairwise_map]
    refine List.Pairwise.imp_of_mem ?_ tracks.ended_before
    intro earlier _ mem _ ended watchedHeld
    obtain ⟨held, new, newFound⟩ := Episode.held_observe_iff.mp watchedHeld
    obtain ⟨known, found, status, -⟩ := tracks.known_of_held earlier mem held
    obtain ⟨old, oldFound, -, stays⟩ := continues earlier.handle new newFound
    rw [found] at oldFound
    have terminal : old.status.isTerminal = true := by
      rw [← Option.some.inj oldFound, status]
      exact ended held
    rw [Episode.observe_of_known held newFound]
    change new.status.isTerminal = true
    rw [stays terminal]
    exact terminal

/-- An operation that leaves every entry alone shows nothing new. -/
theorem observe_eq (tracks : Tracks scheduler episodes) (mem : episode ∈ episodes)
    (same : episode.held = true →
      next.get? episode.handle = scheduler.get? episode.handle) :
    episode.observe next = episode := by
  cases held : episode.held with
  | false => exact Episode.observe_of_dropped held
  | true =>
      obtain ⟨known, found, status, -⟩ := tracks.known_of_held episode mem held
      rw [← same held] at found
      rw [Episode.observe_of_known held found, status]

theorem map_observe_eq (tracks : Tracks scheduler episodes)
    (kept : ∀ handle tx, scheduler.get? handle = some tx → next.get? handle = some tx) :
    episodes.map (Episode.observe next) = episodes := by
  have same : ∀ episode ∈ episodes, episode.observe next = episode := by
    intro episode mem
    apply tracks.observe_eq mem
    intro held
    obtain ⟨known, found, -, -⟩ := tracks.known_of_held episode mem held
    rw [found, kept episode.handle known found]
  exact (List.map_congr_left same).trans (List.map_id episodes)

/-- A transmission is accepted into a free slot once all others have ended. -/
theorem accept (tracks : Tracks scheduler episodes) (vacant : scheduler.table.entry slot = none)
    (quiet : ∀ handle tx, scheduler.get? handle = some tx → tx.status.isTerminal = true)
    (pending : tx.status = .pending) (table : next.table = scheduler.table.put slot tx) :
    Tracks next (episodes ++ [{ handle := ⟨slot, tx.id⟩, recipient := tx.recipient }]) := by
  have elsewhere := slot_ne_of_vacant vacant
  have kept := get?_put_of_vacant vacant table
  have stored : next.get? ⟨slot, tx.id⟩ = some tx := get?_put_same table rfl
  exact {
    slots_nodup := by
      rw [List.filter_append, List.map_append, List.nodup_append]
      refine ⟨tracks.slots_nodup, by simp, ?_⟩
      intro place placeMem other otherMem same
      obtain ⟨episode, episodeMem, rfl⟩ := List.mem_map.mp placeMem
      obtain ⟨mem, held⟩ := List.mem_filter.mp episodeMem
      obtain ⟨known, found, -, -⟩ := tracks.known_of_held episode mem held
      have otherEq : other = slot := by simpa using otherMem
      exact elsewhere _ _ found (same.trans otherEq)
    known_of_held := by
      intro episode mem held
      rcases List.mem_append.mp mem with old | new
      · obtain ⟨known, found, status, recipient⟩ := tracks.known_of_held episode old held
        exact ⟨known, kept _ _ found, status, recipient⟩
      · rw [List.mem_singleton.mp new]
        exact ⟨tx, stored, pending, rfl⟩
    held_of_known := by
      intro handle known found
      by_cases same : handle.slot = slot
      · have handleEq : handle = ⟨slot, tx.id⟩ := handle_eq_of_slot_eq stored found same
        exact ⟨_, List.mem_append_right _ (List.mem_singleton_self _), rfl, handleEq.symm⟩
      · rw [get?_put_of_ne table same] at found
        obtain ⟨episode, mem, held, handleEq⟩ := tracks.held_of_known handle known found
        exact ⟨episode, List.mem_append_left _ mem, held, handleEq⟩
    ended_before := by
      rw [List.pairwise_append]
      refine ⟨tracks.ended_before, List.pairwise_singleton _ _, ?_⟩
      intro earlier mem _ _ held
      obtain ⟨known, found, status, -⟩ := tracks.known_of_held earlier mem held
      rw [← status]
      exact quiet earlier.handle known found
  }

/-- Taking events changes nothing about the entries. -/
theorem tell (tracks : Tracks scheduler episodes) (events : List Event) :
    Tracks scheduler (episodes.map (Episode.tell events)) where
  slots_nodup := by
    rw [List.filter_map, List.map_map]
    simpa [Function.comp_def] using tracks.slots_nodup
  known_of_held := by
    intro told mem held
    obtain ⟨episode, episodeMem, rfl⟩ := List.mem_map.mp mem
    simpa using tracks.known_of_held episode episodeMem (by simpa using held)
  held_of_known := by
    intro handle tx found
    obtain ⟨episode, mem, held, handleEq⟩ := tracks.held_of_known handle tx found
    exact ⟨episode.tell events, List.mem_map_of_mem mem, by simpa using held,
      by simpa using handleEq⟩
  ended_before := by
    rw [List.pairwise_map]
    simpa using tracks.ended_before

end Tracks

end MapleBus.Scheduler
