import MapleBus.Proofs.Scheduler.Lifespan

/-!
# What a handle refers to

A run is watched slot by slot: whoever enters a slot is given the number of its
acceptance, and keeps it until the slot is empty.  Neither handles nor
identifiers take part in this.  It is then proved that the identifiers are the
numbers, counted round without zero, and that until the count comes round a
handle finds, drops and releases the transmission it was returned for and no
other, however often the slots have been used since.
-/

namespace MapleBus

namespace Table

/-- A table is what its slots hold. -/
theorem eq_of_entries {table other : Table}
    (same : ∀ slot, table.entry slot = other.entry slot) : table = other := by
  obtain ⟨slots⟩ := table
  obtain ⟨otherSlots⟩ := other
  congr
  apply Vector.ext
  intro place bound
  exact same ⟨place, bound⟩

/-- A table that loses only what stands in one slot. -/
theorem filter_eq_vacate {table : Table} {condition : Transmission → Bool} {slot : Slot}
    (here : ∀ tx, table.entry slot = some tx → condition tx = false)
    (elsewhere : ∀ other tx, other ≠ slot → table.entry other = some tx → condition tx = true) :
    table.filter condition = table.vacate slot := by
  apply eq_of_entries
  intro other
  rw [entry_filter]
  by_cases same : other = slot
  · rw [same, entry_vacate_same, Option.filter_eq_none_iff]
    intro tx present
    simp [here tx present]
  · rw [entry_vacate_of_ne same]
    cases present : table.entry other with
    | none => rfl
    | some tx => rw [Option.filter_some, elsewhere other tx same present, if_pos rfl]

/-- A table that loses nothing. -/
theorem filter_eq_self {table : Table} {condition : Transmission → Bool}
    (all : ∀ slot tx, table.entry slot = some tx → condition tx = true) :
    table.filter condition = table := by
  apply eq_of_entries
  intro slot
  rw [entry_filter]
  cases present : table.entry slot with
  | none => rfl
  | some tx => rw [Option.filter_some, all slot tx present, if_pos rfl]

end Table

namespace Scheduler

variable {scheduler next : Scheduler} {operation : Operation} {slot : Slot} {handle : Handle}
  {tx : Transmission}

/-! ## Cancellations -/

/-- The only pending transmission that satisfies a condition is removed. -/
theorem removePending_of_single {condition : Transmission → Bool}
    (present : scheduler.table.entry slot = some tx)
    (doomed : (tx.status.isPending && condition tx) = true)
    (single : ∀ other found, scheduler.table.entry other = some found →
      (found.status.isPending && condition found) = true → other = slot) :
    scheduler.removePending condition =
      (1,
        { scheduler with
          table := scheduler.table.vacate slot
          counters := scheduler.counters.countCancelled 1 }) := by
  have one : scheduler.table.count (fun tx => tx.status.isPending && condition tx) = 1 := by
    apply Nat.le_antisymm
    · apply Table.count_le_one_iff.mpr
      intro first second _ _ here hereDoomed there thereDoomed
      rw [single first _ here hereDoomed, single second _ there thereDoomed]
    · exact Table.count_pos_iff.mpr ⟨slot, tx, present, doomed⟩
  have dropped : scheduler.table.filter (fun tx => !(tx.status.isPending && condition tx)) =
      scheduler.table.vacate slot := by
    apply Table.filter_eq_vacate
    · intro found foundPresent
      rw [present] at foundPresent
      rw [← Option.some.inj foundPresent, doomed]
      rfl
    · intro other found elsewhere foundPresent
      rw [Bool.not_eq_true', Bool.eq_false_iff]
      intro foundDoomed
      exact elsewhere (single other found foundPresent foundDoomed)
  simp only [removePending, one, dropped]
  rfl

/-- Where no pending transmission satisfies a condition, nothing is removed. -/
theorem removePending_of_none {condition : Transmission → Bool}
    (nothing : ∀ slot tx, scheduler.table.entry slot = some tx →
      (tx.status.isPending && condition tx) = false) :
    scheduler.removePending condition = (0, scheduler) := by
  have zero := Table.count_eq_zero_iff.mpr nothing
  have kept : scheduler.table.filter (fun tx => !(tx.status.isPending && condition tx)) =
      scheduler.table := by
    apply Table.filter_eq_self
    intro slot tx present
    rw [nothing slot tx present]
    rfl
  have uncounted : scheduler.counters.countCancelled (UInt32.ofNat 0) = scheduler.counters := by
    simp [Counters.countCancelled]
  simp only [removePending, zero, kept, uncounted]

/-! ## Acceptances -/

/-- An accepted transmission, as its owner knows it. -/
structure Grant where
  /-- What the acceptance returned. -/
  handle : Handle
  packet : Packet
  expectsReply : Bool
  deriving DecidableEq

/-- The acceptance that an operation is, if it is one. -/
def grant? (scheduler : Scheduler) : Operation → Option Grant
  | .schedule packet expectsReply =>
      (scheduler.schedule packet expectsReply).value.1.toOption.map fun handle =>
        { handle, packet, expectsReply }
  | _ => none

/-- The transmission of an acceptance, at some stage of its life. -/
def Grant.at (grant : Grant) (status : Status) : Transmission where
  id := grant.handle.id
  packet := grant.packet
  expectsReply := grant.expectsReply
  status := status

/-- Every entry of the next table stood in its slot before, with its status at most
changed. -/
def Retains (scheduler next : Scheduler) : Prop :=
  ∀ slot new, next.table.entry slot = some new →
    ∃ old, scheduler.table.entry slot = some old ∧ new = { old with status := new.status }

theorem Retains.of_same_table (table : next.table = scheduler.table) :
    Retains scheduler next := by
  intro slot new present
  rw [table] at present
  exact ⟨new, present, rfl⟩

theorem Retains.of_put {status : Status} (found : scheduler.get? handle = some tx)
    (table : next.table = scheduler.table.put handle.slot { tx with status }) :
    Retains scheduler next := by
  intro slot new present
  rw [table] at present
  by_cases same : slot = handle.slot
  · rw [same, Table.entry_put_same] at present
    rw [same, ← Option.some.inj present]
    exact ⟨tx, (Table.get?_eq_some_iff.mp found).1, rfl⟩
  · rw [Table.entry_put_of_ne same] at present
    exact ⟨new, present, rfl⟩

/-- Sending changes one status at most. -/
theorem retains_dispatch {W : Type} [Wire W] (scheduler : Scheduler) (wire : W) :
    Retains scheduler (scheduler.dispatch wire).value.2.1 ∧
      (scheduler.dispatch wire).value.2.1.nextId = scheduler.nextId := by
  cases search : scheduler.table.find? (fun tx => tx.status.isPending) with
  | none =>
      rw [dispatch_of_no_pending search]
      exact ⟨.of_same_table rfl, rfl⟩
  | some result =>
      obtain ⟨handle, tx⟩ := result
      cases answer : (offer wire tx).result with
      | error refusal =>
          rw [dispatch_of_refusal search answer]
          exact ⟨.of_same_table rfl, rfl⟩
      | ok _ =>
          rw [dispatch_of_acceptance search answer]
          exact ⟨.of_put (known_of_pending search).1 rfl, rfl⟩

/-- Settling changes one status at most. -/
theorem retains_service (inStep : scheduler.InStep) :
    Retains scheduler scheduler.service.value ∧
      scheduler.service.value.nextId = scheduler.nextId := by
  by_cases done : scheduler.completion.phase = .done
  · obtain ⟨handle, tx, search⟩ := inStep.find?_of_done done
    rw [service_of_outcome done search]
    exact ⟨.of_put (known_of_sent search).1 rfl, rfl⟩
  · obtain ⟨lock, served⟩ := service_of_waiting done
    rw [served]
    exact ⟨.of_same_table rfl, rfl⟩

theorem retains_release (scheduler : Scheduler) (handle : Handle) :
    Retains scheduler (scheduler.release handle).2 ∧
      (scheduler.release handle).2.nextId = scheduler.nextId := by
  rcases release_cases scheduler handle with ⟨tx, -, -, released⟩ | ⟨-, kept⟩
  · rw [released]
    constructor
    · intro slot new present
      by_cases same : slot = handle.slot
      · rw [same, Table.entry_vacate_same] at present
        contradiction
      · rw [Table.entry_vacate_of_ne same] at present
        exact ⟨new, present, rfl⟩
    · rfl
  · rw [kept]
    exact ⟨.of_same_table rfl, rfl⟩

theorem retains_removePending (scheduler : Scheduler) (condition : Transmission → Bool) :
    Retains scheduler (scheduler.removePending condition).2 := by
  intro slot new present
  exact ⟨new, entry_of_entry_removePending present, rfl⟩

/-- An operation that is no acceptance brings nothing into the table. -/
theorem retains_perform (inStep : scheduler.InStep) (refused : scheduler.grant? operation = none) :
    Retains scheduler (scheduler.perform operation).value ∧
      (scheduler.perform operation).value.nextId = scheduler.nextId := by
  cases operation with
  | schedule packet expectsReply =>
      rw [perform, Logged.value_map]
      cases busy : scheduler.outstanding? with
      | some handle =>
          rw [schedule_of_outstanding busy]
          exact ⟨.of_same_table rfl, rfl⟩
      | none =>
          cases free : scheduler.table.free? with
          | none =>
              rw [schedule_of_full busy free]
              exact ⟨.of_same_table rfl, rfl⟩
          | some slot =>
              rw [grant?, schedule_of_free busy free] at refused
              contradiction
  | dispatch wire => exact retains_dispatch scheduler wire
  | service => exact retains_service inStep
  | nextEvent =>
      rw [perform, nextEvent_eq]
      exact ⟨.of_same_table rfl, rfl⟩
  | release handle => exact retains_release scheduler handle
  | cancel _ | cancelByRecipient _ | cancelAll => exact ⟨retains_removePending scheduler _, rfl⟩
  | signal _ | askArmed => exact ⟨.of_same_table rfl, rfl⟩

/-- An acceptance fills an empty slot and uses up one identifier. -/
theorem perform_of_grant {grant : Grant} (granted : scheduler.grant? operation = some grant) :
    grant.handle.id = scheduler.nextId ∧ scheduler.table.entry grant.handle.slot = none ∧
      (scheduler.perform operation).value.table =
        scheduler.table.put grant.handle.slot (grant.at .pending) ∧
      (scheduler.perform operation).value.nextId = idAfter scheduler.nextId := by
  cases operation with
  | schedule packet expectsReply =>
      rw [grant?] at granted
      rw [perform, Logged.value_map]
      cases busy : scheduler.outstanding? with
      | some handle =>
          rw [schedule_of_outstanding busy] at granted
          contradiction
      | none =>
          cases free : scheduler.table.free? with
          | none =>
              rw [schedule_of_full busy free] at granted
              contradiction
          | some slot =>
              rw [schedule_of_free busy free] at granted ⊢
              cases granted
              exact ⟨rfl, Table.entry_of_free?_eq_some free, rfl, rfl⟩
  | dispatch _ | service | nextEvent | release _ | cancel _ | cancelByRecipient _ | cancelAll
  | signal _ | askArmed => contradiction

/-! ## Who stands in the slots -/

/-- A scheduler together with the acceptances of its run, and for every slot the number of
the acceptance that brought in what stands there. -/
structure Seating where
  scheduler : Scheduler := {}
  /-- The acceptances, oldest first. -/
  granted : List Grant := []
  seats : Slot → Option Nat := fun _ => none

/-- How many acceptances have identifiers of their own. -/
def idPeriod : Nat :=
  0xFFFFFFFF

namespace Seating

/-- Perform an operation and look at every slot.  Whoever stands in a slot that was empty
has come in now. -/
def perform (seating : Seating) (operation : Operation) : Seating :=
  let next := (seating.scheduler.perform operation).value
  { scheduler := next
    granted := seating.granted ++ (seating.scheduler.grant? operation).toList
    seats := fun slot =>
      match next.table.entry slot, seating.scheduler.table.entry slot with
      | none, _ => none
      | some _, none => some seating.granted.length
      | some _, some _ => seating.seats slot }

/-- What is known after a run. -/
def after (seating : Seating) : List Operation → Seating
  | [] => seating
  | operation :: rest => (seating.perform operation).after rest

/-- The transmission that was accepted under a number, while it is in the table. -/
def known? (seating : Seating) (number : Nat) : Option Transmission :=
  (List.finRange 4).findSome? fun slot =>
    if seating.seats slot = some number then seating.scheduler.table.entry slot else none

/-- The numbers do not influence the run. -/
theorem scheduler_after (seating : Seating) (operations : List Operation) :
    (seating.after operations).scheduler = seating.scheduler.after operations := by
  induction operations generalizing seating with
  | nil => rfl
  | cons operation rest ih => exact ih (seating.perform operation)

/-- The handle of an acceptance stands for what was accepted then. -/
structure Refers (seating : Seating) (number : Nat) (grant : Grant) : Prop where
  /-- It finds the transmission as long as that is in the table, and else nothing. -/
  get : seating.scheduler.get? grant.handle = seating.known? number
  status : seating.scheduler.status? grant.handle =
    (seating.known? number).map Transmission.status
  /-- The transmission stands where the handle says and is what was accepted. -/
  stands : ∀ tx, seating.known? number = some tx →
    seating.seats grant.handle.slot = some number ∧ tx = grant.at tx.status
  /-- A cancellation drops the transmission if it is pending, and else nothing. -/
  cancel : seating.scheduler.cancel grant.handle =
    if (seating.known? number).any (fun tx => tx.status.isPending) then
      (true,
        { seating.scheduler with
          table := seating.scheduler.table.vacate grant.handle.slot
          counters := seating.scheduler.counters.countCancelled 1 })
    else
      (false, seating.scheduler)
  /-- A release hands out the transmission if it has ended, and else changes nothing. -/
  release : seating.scheduler.release grant.handle =
    match (seating.known? number).filter fun tx => tx.status.isTerminal with
    | some tx =>
        (some tx,
          { seating.scheduler with
            table := seating.scheduler.table.vacate grant.handle.slot })
    | none => (none, seating.scheduler)
  cancelled : (seating.scheduler.cancel grant.handle).1 = true →
    (seating.perform (.cancel grant.handle)).known? number = none
  released : (seating.scheduler.release grant.handle).1.isSome = true →
    (seating.perform (.release grant.handle)).known? number = none
  /-- What has left never comes back. -/
  gone : seating.known? number = none → ∀ later, (seating.after later).known? number = none

variable {seating : Seating} {number : Nat} {grant : Grant}

theorem known?_eq_none_iff :
    seating.known? number = none ↔
      ∀ slot, seating.seats slot = some number → seating.scheduler.table.entry slot = none := by
  simp [known?, List.findSome?_eq_none_iff]

/-! ### What every operation keeps -/

/-- Slots, numbers and identifiers agree. -/
structure Sound (seating : Seating) : Prop where
  inStep : seating.scheduler.InStep
  counted : seating.scheduler.nextId.toNat = seating.granted.length % idPeriod + 1
  numbered : ∀ number grant, seating.granted[number]? = some grant →
    grant.handle.id.toNat = number % idPeriod + 1
  /-- Whoever stands in a slot was accepted into it under the number of the slot. -/
  seated : ∀ slot tx, seating.scheduler.table.entry slot = some tx →
    ∃ number grant, seating.seats slot = some number ∧
      seating.granted[number]? = some grant ∧ grant.handle.slot = slot ∧
      tx = grant.at tx.status
  vacant : ∀ slot, seating.scheduler.table.entry slot = none → seating.seats slot = none

theorem Sound.empty : Sound {} where
  inStep := InStep.empty
  counted := rfl
  numbered := by simp
  seated := by simp
  vacant := by simp

/-- The identifiers are counted round from one to the largest word. -/
theorem toNat_idAfter {id : UInt32} {count : Nat} (counted : id.toNat = count % idPeriod + 1) :
    (idAfter id).toNat = (count + 1) % idPeriod + 1 := by
  have sum : (id + 1).toNat = (id.toNat + 1) % 2 ^ 32 := UInt32.toNat_add id 1
  rw [idPeriod] at *
  rw [idAfter]
  split
  next wrapped =>
    have zero : (id.toNat + 1) % 2 ^ 32 = 0 := by
      rw [← sum, wrapped]
      rfl
    change 1 = _
    omega
  next onward =>
    have positive : (id.toNat + 1) % 2 ^ 32 ≠ 0 := by
      intro zero
      rw [← sum] at zero
      exact onward (UInt32.toNat_inj.mp zero)
    omega

/-- An operation that is no acceptance leaves everybody who stays under its number. -/
theorem Sound.perform_of_refusal (sound : seating.Sound)
    (refused : seating.scheduler.grant? operation = none) : (seating.perform operation).Sound := by
  obtain ⟨retains, sameId⟩ := retains_perform sound.inStep refused
  have granted : (seating.perform operation).granted = seating.granted := by
    simp [perform, refused]
  constructor
  · exact sound.inStep.perform operation
  · rw [granted]
    exact (congrArg UInt32.toNat sameId).trans sound.counted
  · rw [granted]
    exact sound.numbered
  · intro slot tx present
    obtain ⟨old, before, same⟩ := retains slot tx present
    obtain ⟨number, grant, seat, acceptance, place, unchanged⟩ := sound.seated slot old before
    refine ⟨number, grant, ?_, ?_, place, ?_⟩
    · change (seating.scheduler.perform operation).value.table.entry slot = some tx at present
      simp only [perform, present, before, seat]
    · rw [granted]
      exact acceptance
    · rw [same, unchanged]
      rfl
  · intro slot empty
    change (seating.scheduler.perform operation).value.table.entry slot = none at empty
    simp only [perform, empty]

/-- An acceptance seats the newcomer under the next number. -/
theorem Sound.perform_of_grant (sound : seating.Sound)
    (accepted : seating.scheduler.grant? operation = some grant) :
    (seating.perform operation).Sound := by
  obtain ⟨id, free, table, nextId⟩ := Scheduler.perform_of_grant accepted
  have granted : (seating.perform operation).granted = seating.granted ++ [grant] := by
    simp [perform, accepted]
  constructor
  · exact sound.inStep.perform operation
  · rw [granted, List.length_append, List.length_singleton, ← toNat_idAfter sound.counted]
    exact congrArg UInt32.toNat nextId
  · intro number found acceptance
    rw [granted, List.getElem?_append] at acceptance
    split at acceptance
    next => exact sound.numbered number found acceptance
    next late =>
      have first := (List.getElem?_eq_some_iff.mp acceptance).1
      rw [List.length_singleton] at first
      have last : number = seating.granted.length := by omega
      rw [last, Nat.sub_self] at acceptance
      rw [← Option.some.inj acceptance, id, sound.counted, last]
  · intro slot tx present
    change (seating.scheduler.perform operation).value.table.entry slot = some tx at present
    by_cases same : slot = grant.handle.slot
    · rw [← same] at free
      refine ⟨seating.granted.length, grant, ?_, ?_, same.symm, ?_⟩
      · simp only [perform, present, free]
      · rw [granted]
        simp
      · rw [table, same, Table.entry_put_same] at present
        rw [← Option.some.inj present]
        rfl
    · have before : seating.scheduler.table.entry slot = some tx := by
        rwa [table, Table.entry_put_of_ne same] at present
      obtain ⟨number, other, seat, acceptance, place, unchanged⟩ := sound.seated slot tx before
      refine ⟨number, other, ?_, ?_, place, unchanged⟩
      · simp only [perform, present, before, seat]
      · rw [granted, List.getElem?_append_left (List.getElem?_eq_some_iff.mp acceptance).1]
        exact acceptance
  · intro slot empty
    change (seating.scheduler.perform operation).value.table.entry slot = none at empty
    simp only [perform, empty]

theorem Sound.perform (sound : seating.Sound) (operation : Operation) :
    (seating.perform operation).Sound := by
  cases granted : seating.scheduler.grant? operation with
  | none => exact sound.perform_of_refusal granted
  | some grant => exact sound.perform_of_grant granted

theorem Sound.after (sound : seating.Sound) (operations : List Operation) :
    (seating.after operations).Sound := by
  induction operations generalizing seating with
  | nil => exact sound
  | cons operation rest ih => exact ih (sound.perform operation)

/-! ### From the number to the handle -/

/-- A number stands for whom its slot holds. -/
theorem Sound.known?_eq_some_iff (sound : seating.Sound)
    (acceptance : seating.granted[number]? = some grant) :
    seating.known? number = some tx ↔
      seating.seats grant.handle.slot = some number ∧
        seating.scheduler.table.entry grant.handle.slot = some tx := by
  have place : ∀ slot, seating.seats slot = some number → slot = grant.handle.slot := by
    intro slot seat
    cases present : seating.scheduler.table.entry slot with
    | none =>
        rw [sound.vacant slot present] at seat
        contradiction
    | some other =>
        obtain ⟨known, owner, knownSeat, knownGrant, rfl, -⟩ := sound.seated slot other present
        rw [seat] at knownSeat
        rw [← Option.some.inj knownSeat, acceptance] at knownGrant
        rw [Option.some.inj knownGrant]
  constructor
  · intro known
    obtain ⟨slot, -, atSlot⟩ := List.exists_of_findSome?_eq_some known
    split at atSlot
    next seat =>
      rw [← place slot seat]
      exact ⟨seat, atSlot⟩
    next => contradiction
  · rintro ⟨seat, present⟩
    cases known : seating.known? number with
    | none =>
        rw [known?_eq_none_iff.mp known _ seat] at present
        contradiction
    | some other =>
        obtain ⟨slot, -, atSlot⟩ := List.exists_of_findSome?_eq_some known
        split at atSlot
        next otherSeat => rw [← atSlot, place slot otherSeat, present]
        next => contradiction

/-- Whom a number stands for is what was accepted under it. -/
theorem Sound.stands (sound : seating.Sound)
    (acceptance : seating.granted[number]? = some grant)
    (known : seating.known? number = some tx) :
    seating.seats grant.handle.slot = some number ∧ tx = grant.at tx.status := by
  obtain ⟨seat, present⟩ := (sound.known?_eq_some_iff acceptance).mp known
  obtain ⟨other, otherGrant, otherSeat, otherAcceptance, -, same⟩ := sound.seated _ tx present
  rw [seat] at otherSeat
  rw [← Option.some.inj otherSeat, acceptance] at otherAcceptance
  rw [← Option.some.inj otherAcceptance] at same
  exact ⟨seat, same⟩

theorem Sound.id_eq (sound : seating.Sound)
    (acceptance : seating.granted[number]? = some grant)
    (known : seating.known? number = some tx) : tx.id = grant.handle.id := by
  rw [(sound.stands acceptance known).2]
  rfl

/-- Until the count comes round, an identifier belongs to one acceptance. -/
theorem Sound.number_eq (sound : seating.Sound)
    (within : seating.granted.length ≤ idPeriod) {other : Nat} {otherGrant : Grant}
    (acceptance : seating.granted[number]? = some grant)
    (otherAcceptance : seating.granted[other]? = some otherGrant)
    (same : otherGrant.handle.id = grant.handle.id) : other = number := by
  have early : number < seating.granted.length := (List.getElem?_eq_some_iff.mp acceptance).1
  have otherEarly : other < seating.granted.length :=
    (List.getElem?_eq_some_iff.mp otherAcceptance).1
  have ids := congrArg UInt32.toNat same
  rw [sound.numbered _ _ acceptance, sound.numbered _ _ otherAcceptance,
    Nat.mod_eq_of_lt (otherEarly.trans_le within),
    Nat.mod_eq_of_lt (early.trans_le within)] at ids
  exact Nat.succ.inj ids

/-- Whoever has the identifier of a handle is whom the handle was returned for. -/
theorem Sound.known_of_id (sound : seating.Sound) (within : seating.granted.length ≤ idPeriod)
    (acceptance : seating.granted[number]? = some grant)
    (present : seating.scheduler.table.entry slot = some tx) (id : tx.id = grant.handle.id) :
    slot = grant.handle.slot ∧ seating.known? number = some tx := by
  obtain ⟨other, otherGrant, seat, otherAcceptance, place, same⟩ := sound.seated slot tx present
  have sameId : otherGrant.handle.id = grant.handle.id := by
    rw [← id, same]
    rfl
  have sameNumber := sound.number_eq within acceptance otherAcceptance sameId
  rw [sameNumber] at seat otherAcceptance
  have sameGrant : otherGrant = grant :=
    Option.some.inj (otherAcceptance.symm.trans acceptance)
  rw [sameGrant] at place
  rw [← place] at seat present
  exact ⟨place.symm, (sound.known?_eq_some_iff acceptance).mpr ⟨seat, present⟩⟩

theorem Sound.get?_eq_known? (sound : seating.Sound)
    (within : seating.granted.length ≤ idPeriod)
    (acceptance : seating.granted[number]? = some grant) :
    seating.scheduler.get? grant.handle = seating.known? number := by
  apply Option.ext
  intro tx
  constructor
  · intro found
    obtain ⟨present, id⟩ := Table.get?_eq_some_iff.mp found
    exact (sound.known_of_id within acceptance present id).2
  · intro known
    obtain ⟨-, present⟩ := (sound.known?_eq_some_iff acceptance).mp known
    exact Table.get?_eq_some_iff.mpr ⟨present, sound.id_eq acceptance known⟩

/-- A number that stands for nobody is not given again. -/
theorem known?_perform (acceptance : seating.granted[number]? = some grant)
    (gone : seating.known? number = none) (operation : Operation) :
    (seating.perform operation).known? number = none := by
  rw [known?_eq_none_iff] at gone ⊢
  intro slot seat
  have early : number < seating.granted.length := (List.getElem?_eq_some_iff.mp acceptance).1
  cases present : (seating.scheduler.perform operation).value.table.entry slot with
  | none => exact present
  | some tx =>
      simp only [perform, present] at seat
      cases before : seating.scheduler.table.entry slot with
      | none =>
          rw [before] at seat
          exact absurd (Option.some.inj seat) (Nat.ne_of_gt early)
      | some old =>
          rw [before] at seat
          rw [gone slot seat] at before
          contradiction

theorem granted_perform (acceptance : seating.granted[number]? = some grant)
    (operation : Operation) : (seating.perform operation).granted[number]? = some grant := by
  rw [perform, List.getElem?_append_left (List.getElem?_eq_some_iff.mp acceptance).1]
  exact acceptance

theorem known?_after (acceptance : seating.granted[number]? = some grant)
    (gone : seating.known? number = none) (later : List Operation) :
    (seating.after later).known? number = none := by
  induction later generalizing seating with
  | nil => exact gone
  | cons operation rest ih =>
      exact ih (granted_perform acceptance operation)
        (known?_perform acceptance gone operation)

/-- Once its slot is empty, a number stands for nobody. -/
theorem Sound.known?_of_vacated (sound : seating.Sound)
    (acceptance : seating.granted[number]? = some grant)
    (vacated : seating.scheduler.table.entry grant.handle.slot = none) :
    seating.known? number = none := by
  cases known : seating.known? number with
  | none => rfl
  | some tx =>
      rw [((sound.known?_eq_some_iff acceptance).mp known).2] at vacated
      contradiction

/-! ### What a handle does -/

/-- What a cancellation looks for is the transmission of the handle, and only that. -/
theorem Sound.of_doomed (sound : seating.Sound) (within : seating.granted.length ≤ idPeriod)
    (acceptance : seating.granted[number]? = some grant)
    (present : seating.scheduler.table.entry slot = some tx)
    (doomed : (tx.status.isPending && tx.id == grant.handle.id) = true) :
    slot = grant.handle.slot ∧ (seating.known? number).any (fun tx => tx.status.isPending) := by
  rw [Bool.and_eq_true, beq_iff_eq] at doomed
  obtain ⟨place, known⟩ := sound.known_of_id within acceptance present doomed.2
  exact ⟨place, (Option.any_eq_true _ _).mpr ⟨tx, known, doomed.1⟩⟩

/-- A cancellation drops whom the handle was returned for, if that is pending. -/
theorem Sound.cancel_eq (sound : seating.Sound) (within : seating.granted.length ≤ idPeriod)
    (acceptance : seating.granted[number]? = some grant) :
    seating.scheduler.cancel grant.handle =
      if (seating.known? number).any (fun tx => tx.status.isPending) then
        (true,
          { seating.scheduler with
            table := seating.scheduler.table.vacate grant.handle.slot
            counters := seating.scheduler.counters.countCancelled 1 })
      else
        (false, seating.scheduler) := by
  split
  next pending =>
    obtain ⟨tx, known, isPending⟩ := (Option.any_eq_true _ _).mp pending
    obtain ⟨-, present⟩ := (sound.known?_eq_some_iff acceptance).mp known
    have doomed : (tx.status.isPending && tx.id == grant.handle.id) = true := by
      simp [isPending, sound.id_eq acceptance known]
    rw [cancel, removePending_of_single present doomed]
    · rfl
    · intro other found foundPresent foundDoomed
      exact (sound.of_doomed within acceptance foundPresent foundDoomed).1
  next spared =>
    rw [cancel, removePending_of_none]
    · rfl
    · intro slot tx present
      rw [Bool.eq_false_iff]
      intro doomed
      exact spared (sound.of_doomed within acceptance present doomed).2

/-- A release hands out whom the handle was returned for, if that has ended. -/
theorem Sound.release_eq (sound : seating.Sound) (within : seating.granted.length ≤ idPeriod)
    (acceptance : seating.granted[number]? = some grant) :
    seating.scheduler.release grant.handle =
      match (seating.known? number).filter fun tx => tx.status.isTerminal with
      | some tx =>
          (some tx,
            { seating.scheduler with
              table := seating.scheduler.table.vacate grant.handle.slot })
      | none => (none, seating.scheduler) := by
  rw [release, sound.get?_eq_known? within acceptance]
  cases (seating.known? number).filter fun tx => tx.status.isTerminal <;> rfl

theorem Sound.refers (sound : seating.Sound) (within : seating.granted.length ≤ idPeriod)
    (acceptance : seating.granted[number]? = some grant) : seating.Refers number grant where
  get := sound.get?_eq_known? within acceptance
  status := by rw [status?, sound.get?_eq_known? within acceptance]
  stands := fun _ known => sound.stands acceptance known
  cancel := sound.cancel_eq within acceptance
  release := sound.release_eq within acceptance
  cancelled := by
    intro answered
    apply (sound.perform _).known?_of_vacated (granted_perform acceptance _)
    change (seating.scheduler.cancel grant.handle).2.table.entry _ = none
    rw [sound.cancel_eq within acceptance] at answered ⊢
    split at answered
    next pending =>
      rw [if_pos pending]
      exact Table.entry_vacate_same
    next => contradiction
  released := by
    intro answered
    apply (sound.perform _).known?_of_vacated (granted_perform acceptance _)
    change (seating.scheduler.release grant.handle).2.table.entry _ = none
    rw [sound.release_eq within acceptance] at answered ⊢
    cases ended : (seating.known? number).filter fun tx => tx.status.isTerminal with
    | none =>
        rw [ended] at answered
        contradiction
    | some tx => exact Table.entry_vacate_same
  gone := known?_after acceptance

end Seating

/-- In every run the acceptances are given the identifiers in turn, and as long as no
identifier is given twice every handle stands for what it was returned for. -/
theorem refers_after (run : List Operation) (number : Nat) (grant : Grant)
    (acceptance : (Seating.after {} run).granted[number]? = some grant) :
    (Seating.after {} run).scheduler = Scheduler.after {} run ∧
      grant.handle.id.toNat = number % 0xFFFFFFFF + 1 ∧
      ((Seating.after {} run).granted.length ≤ 0xFFFFFFFF →
        (Seating.after {} run).Refers number grant) := by
  have sound : (Seating.after {} run).Sound := Seating.Sound.empty.after run
  refine ⟨Seating.scheduler_after {} run, sound.numbered number grant acceptance, ?_⟩
  intro within
  exact sound.refers within acceptance

/-- The first query is cancelled, and the second is sent and answered in the same slot. -/
def slotUsedAgain (first : Handle) : List Operation :=
  [ .schedule query true, .cancel first, .schedule query false, .dispatch PromptWire.mk,
    .service ]

/-- The handle of the first query does nothing to the second, and its own handle releases
it. -/
theorem refers_after_slotUsedAgain :
    let seating := Seating.after {} (slotUsedAgain ⟨0, 1⟩)
    seating.Refers 0 ⟨⟨0, 1⟩, query, true⟩ ∧ seating.Refers 1 ⟨⟨0, 2⟩, query, false⟩ ∧
      seating.scheduler.get? ⟨0, 1⟩ = none ∧
      (seating.scheduler.release ⟨0, 1⟩).1 = none ∧
      (seating.scheduler.release ⟨0, 2⟩).1 =
        some { id := 2, packet := query, expectsReply := false, status := .succeeded none } := by
  intro seating
  have first := refers_after (slotUsedAgain ⟨0, 1⟩) 0 ⟨⟨0, 1⟩, query, true⟩ (by decide +kernel)
  have second := refers_after (slotUsedAgain ⟨0, 1⟩) 1 ⟨⟨0, 2⟩, query, false⟩ (by decide +kernel)
  have few : (Seating.after {} (slotUsedAgain ⟨0, 1⟩)).granted.length ≤ 0xFFFFFFFF := by
    decide +kernel
  exact ⟨first.2.2 few, second.2.2 few, by decide +kernel, by decide +kernel,
    by decide +kernel⟩

end Scheduler

end MapleBus
