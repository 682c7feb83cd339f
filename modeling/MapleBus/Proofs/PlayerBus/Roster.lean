import MapleBus.Proofs.PlayerBus.Plugging

/-!
# Who is plugged in

The addresses in use on a bus form a roster: a main peripheral first and expansions
behind it, all of one player, in attach order.  A roster is told by who is on it.
Plugging adds one peripheral to the roster, or takes out one expansion or everybody.
-/

namespace MapleBus

/-! ## Addresses in attach order -/

namespace Address

/-- A player has a single address for a main peripheral. -/
theorem main_player : ∀ {address : Address}, address.isMain = true →
    main address.player = address := by
  rintro ⟨⟨bits⟩⟩
  revert bits
  decide +kernel

theorem isMain_main : ∀ player : UInt8, (main player).isMain = true := by
  rintro ⟨bits⟩
  revert bits
  decide +kernel

/-- A player has a single address for each expansion slot. -/
theorem expansion?_player : ∀ {address : Address} {slot : UInt8},
    address.expansionSlot? = some slot → expansion? address.player slot = some address := by
  rintro ⟨⟨bits⟩⟩ slot behind
  have everySlot : ∀ bits, (expansionSlot? ⟨⟨bits⟩⟩).all fun slot =>
      expansion? (player ⟨⟨bits⟩⟩) slot == some ⟨⟨bits⟩⟩ := by
    decide +kernel
  have thisSlot := everySlot bits
  rw [behind] at thisSlot
  exact eq_of_beq thisSlot

/-- A main peripheral is in no expansion slot. -/
theorem expansionSlot?_of_isMain : ∀ {address : Address}, address.isMain = true →
    address.expansionSlot? = none := by
  rintro ⟨⟨bits⟩⟩
  revert bits
  decide +kernel

/-- The main peripheral comes first. -/
theorem attachOrder_eq_zero_iff {address : Address} (proper : address.isPeripheral = true) :
    address.attachOrder = 0 ↔ address.isMain = true := by
  unfold attachOrder
  cases behind : address.expansionSlot? with
  | none =>
      rw [isPeripheral, behind] at proper
      simpa using proper
  | some slot =>
      constructor
      · rintro impossible
        contradiction
      · rintro isMain
        rw [expansionSlot?_of_isMain isMain] at behind
        contradiction

/-- The peripherals of a player have different places in attach order. -/
theorem eq_of_attachOrder {first second : Address} (sameOwner : first.player = second.player)
    (firstProper : first.isPeripheral = true) (secondProper : second.isPeripheral = true)
    (samePlace : first.attachOrder = second.attachOrder) : first = second := by
  by_cases isMain : first.isMain = true
  · have firstPlace := (attachOrder_eq_zero_iff firstProper).mpr isMain
    have alsoMain := (attachOrder_eq_zero_iff secondProper).mp (samePlace.symm.trans firstPlace)
    rw [← main_player isMain, ← main_player alsoMain, sameOwner]
  · have behind : first.attachOrder ≠ 0 := mt (attachOrder_eq_zero_iff firstProper).mp isMain
    cases firstSlot : first.expansionSlot? with
    | none => simp [attachOrder, firstSlot] at behind
    | some slot =>
        cases secondSlot : second.expansionSlot? with
        | none => simp [attachOrder, firstSlot, secondSlot] at samePlace
        | some other =>
            have sameSlot : slot = other := by
              simpa [attachOrder, firstSlot, secondSlot, UInt8.toNat_inj] using samePlace
            have unique := expansion?_player firstSlot
            rw [sameOwner, sameSlot, expansion?_player secondSlot] at unique
            exact (Option.some.inj unique).symm

end Address

/-! ## Rosters -/

/-- The addresses in use on the bus of a player. -/
structure Roster (player : UInt8) (addresses : List Address) : Prop where
  ours : ∀ address ∈ addresses, address.player = player
  proper : ∀ address ∈ addresses, address.isPeripheral = true
  ordered : addresses.Pairwise fun first second => first.attachOrder < second.attachOrder
  main_first : ∀ address ∈ addresses.head?, address.isMain = true

namespace Roster

variable {player : UInt8} {addresses others fewer : List Address} {address : Address}

theorem nil (player : UInt8) : Roster player [] where
  ours := List.forall_mem_nil _
  proper := List.forall_mem_nil _
  ordered := List.Pairwise.nil
  main_first := by simp

/-- Nobody is on a roster twice. -/
theorem nodup (roster : Roster player addresses) : addresses.Nodup := by
  apply roster.ordered.imp
  rintro first second before rfl
  exact Nat.lt_irrefl _ before

/-- A roster is told by who is on it. -/
theorem eq_of_mem_iff (roster : Roster player addresses) (other : Roster player others)
    (same : ∀ address, address ∈ addresses ↔ address ∈ others) : addresses = others := by
  apply List.Perm.eq_of_pairwise _ roster.ordered other.ordered
  · exact (List.perm_ext_iff_of_nodup roster.nodup other.nodup).mpr same
  · rintro first second - - before after
    exact absurd before (Nat.lt_asymm after)

/-- Whoever is on a roster, the main peripheral is. -/
theorem any_isMain (roster : Roster player addresses) (used : addresses ≠ []) :
    addresses.any Address.isMain = true := by
  cases addresses with
  | nil => contradiction
  | cons first rest => simp [roster.main_first first rfl]

/-- An expansion leaves. -/
theorem leave {before after : List Address} (roster : Roster player (before ++ address :: after))
    (expansion : address.isMain = false) : Roster player (before ++ after) := by
  have remain : (before ++ after).Sublist (before ++ address :: after) :=
    (List.Sublist.refl before).append (List.sublist_cons_self address after)
  constructor
  · exact fun other mem => roster.ours other (remain.subset mem)
  · exact fun other mem => roster.proper other (remain.subset mem)
  · exact roster.ordered.sublist remain
  · cases before with
    | nil =>
        have isMain := roster.main_first address rfl
        rw [expansion] at isMain
        contradiction
    | cons first rest => exact roster.main_first

end Roster

namespace PlayerBus

variable {P W : Type} [Peripheral P]

/-! ## Plugging in -/

section PlugIn

variable {bus after : PlayerBus P W} {peripheral : P} {peripherals : List P} {player : UInt8}

theorem insert_cons (peripheral first : P) (rest : List P) :
    insert peripheral (first :: rest) =
      if (Peripheral.address first).attachOrder < (Peripheral.address peripheral).attachOrder then
        first :: insert peripheral rest
      else
        peripheral :: first :: rest := by
  unfold insert
  by_cases earlier :
      (Peripheral.address first).attachOrder < (Peripheral.address peripheral).attachOrder
  · simp only [List.takeWhile_cons, List.dropWhile_cons, earlier, decide_true, if_true,
      List.cons_append]
  · simp only [List.takeWhile_cons, List.dropWhile_cons, earlier, decide_false, if_false,
      Bool.false_eq_true, List.nil_append]

theorem mem_insert {other : P} :
    other ∈ insert peripheral peripherals ↔ other = peripheral ∨ other ∈ peripherals := by
  obtain ⟨front, back, split, inserted⟩ := exists_insert peripheral peripherals
  rw [inserted, split]
  simp only [List.mem_append, List.mem_cons]
  exact or_left_comm

/-- Insertion at a place that nobody has keeps the order. -/
theorem ordered_insert
    (ordered : peripherals.Pairwise fun first second =>
      (Peripheral.address first).attachOrder < (Peripheral.address second).attachOrder)
    (apart : ∀ other ∈ peripherals,
      (Peripheral.address other).attachOrder ≠ (Peripheral.address peripheral).attachOrder) :
    (insert peripheral peripherals).Pairwise fun first second =>
      (Peripheral.address first).attachOrder < (Peripheral.address second).attachOrder := by
  induction peripherals with
  | nil => exact List.pairwise_singleton _ _
  | cons first rest ih =>
      obtain ⟨before, orderedRest⟩ := List.pairwise_cons.mp ordered
      obtain ⟨firstApart, restApart⟩ := List.forall_mem_cons.mp apart
      rw [insert_cons]
      split
      next earlier =>
        apply List.Pairwise.cons _ (ih orderedRest restApart)
        rintro other mem
        rcases mem_insert.mp mem with rfl | later
        · exact earlier
        · exact before other later
      next notEarlier =>
        have later := Nat.lt_of_le_of_ne (Nat.le_of_not_lt notEarlier) firstApart.symm
        apply List.Pairwise.cons _ ordered
        rintro other mem
        rcases List.mem_cons.mp mem with rfl | further
        · exact later
        · exact Nat.lt_trans later (before other further)

/-- A peripheral of the player joins the roster at a free address; an expansion joins
when there is a main peripheral. -/
theorem roster_insert (roster : Roster player (peripherals.map Peripheral.address))
    (ours : (Peripheral.address peripheral).player = player)
    (proper : (Peripheral.address peripheral).isPeripheral = true)
    (free : Peripheral.address peripheral ∉ peripherals.map Peripheral.address)
    (rooted : (Peripheral.address peripheral).isMain = true ∨ peripherals ≠ []) :
    Roster player ((insert peripheral peripherals).map Peripheral.address) := by
  have everyone : ∀ {condition : Address → Prop}, condition (Peripheral.address peripheral) →
      (∀ address ∈ peripherals.map Peripheral.address, condition address) →
      ∀ address ∈ (insert peripheral peripherals).map Peripheral.address, condition address := by
    rintro condition here there address mem
    obtain ⟨other, inserted, rfl⟩ := List.mem_map.mp mem
    rcases mem_insert.mp inserted with rfl | before
    · exact here
    · exact there _ (List.mem_map_of_mem before)
  have apart : ∀ other ∈ peripherals,
      (Peripheral.address other).attachOrder ≠ (Peripheral.address peripheral).attachOrder := by
    rintro other mem samePlace
    have used := List.mem_map_of_mem (f := Peripheral.address) mem
    have same := Address.eq_of_attachOrder ((roster.ours _ used).trans ours.symm)
      (roster.proper _ used) proper samePlace
    exact free (same ▸ used)
  constructor
  · exact everyone ours roster.ours
  · exact everyone proper roster.proper
  · have ordered := roster.ordered
    rw [List.pairwise_map] at ordered ⊢
    exact ordered_insert ordered apart
  · cases peripherals with
    | nil =>
        rcases rooted with isMain | used
        · simpa [insert] using isMain
        · contradiction
    | cons first rest =>
        have isMain := roster.main_first _ rfl
        have firstProper := roster.proper _ List.mem_cons_self
        rw [insert_cons]
        split
        next => simpa using isMain
        next notEarlier =>
          rw [(Address.attachOrder_eq_zero_iff firstProper).mpr isMain] at notEarlier
          have place := Nat.eq_zero_of_not_pos notEarlier
          simpa using (Address.attachOrder_eq_zero_iff proper).mp place

/-- Where a peripheral may be plugged in: at a free address of the player, behind a main
peripheral unless the address is one of a main peripheral. -/
@[mk_iff] structure Vacant (bus : PlayerBus P W) (address : Address) : Prop where
  ours : address.player = bus.settings.playerIndex
  proper : address.isPeripheral = true
  free : address ∉ bus.addresses
  rooted : address.isMain = true ∨ bus.peripherals ≠ []

theorem attachFault?_eq_none_iff (roster : Roster bus.settings.playerIndex bus.addresses)
    (address : Address) : bus.attachFault? address = none ↔ Vacant bus address := by
  have root : bus.addresses.any Address.isMain = true ↔ bus.peripherals ≠ [] := by
    constructor
    · rintro found nobody
      simp [addresses, nobody] at found
    · rintro used
      apply roster.any_isMain
      simpa [addresses] using used
  unfold attachFault?
  rw [vacant_iff, ← root]
  by_cases ours : address.player = bus.settings.playerIndex
  · by_cases proper : address.isPeripheral = true
    · by_cases used : address ∈ bus.addresses
      · simp [ours, proper, used]
      · by_cases isMain : address.isMain = true
        · simp [ours, proper, used, isMain]
        · simp [ours, proper, used, isMain]
    · simp [ours, proper]
  · simp [ours]

/-- What plugging a peripheral in does to a bus. -/
structure PluggedIn (bus : PlayerBus P W) (peripheral : P) (after : PlayerBus P W) : Prop where
  free : Peripheral.address peripheral ∉ bus.addresses
  peripherals : ∃ front back, bus.peripherals = front ++ back ∧
    after.peripherals = front ++ peripheral :: back
  nothing_else : after = { bus with peripherals := after.peripherals }

theorem pluggedIn (attached : (bus.attach peripheral).value = .ok after) :
    PluggedIn bus peripheral after := by
  obtain ⟨free, rfl⟩ := of_attached attached
  constructor
  · exact free
  · exact exists_insert peripheral bus.peripherals
  · rfl

theorem roster_attach (roster : Roster bus.settings.playerIndex bus.addresses)
    (attached : (bus.attach peripheral).value = .ok after) :
    Roster after.settings.playerIndex after.addresses := by
  obtain ⟨-, rfl⟩ := of_attached attached
  have accepted : bus.attachFault? (Peripheral.address peripheral) = none := by
    cases fault : bus.attachFault? (Peripheral.address peripheral) with
    | none => rfl
    | some refusal =>
        simp only [attach, fault] at attached
        contradiction
  have vacant := (attachFault?_eq_none_iff roster _).mp accepted
  exact roster_insert roster vacant.ours vacant.proper vacant.free vacant.rooted

/-- A peripheral is turned down only where it may not be plugged in. -/
theorem of_attach_error (roster : Roster bus.settings.playerIndex bus.addresses)
    {fault : PeripheralError} (turnedDown : (bus.attach peripheral).value = .error fault) :
    ¬ Vacant bus (Peripheral.address peripheral) := by
  rintro vacant
  have accepted := (attachFault?_eq_none_iff roster _).mpr vacant
  simp only [attach, accepted] at turnedDown
  contradiction

end PlugIn

/-! ## Unplugging -/

section PlugOut

variable {bus after : PlayerBus P W} {address : Address} {removed : List P}

/-- What unplugging the peripheral at an address does to a bus, and who is removed. -/
structure PluggedOut (bus : PlayerBus P W) (address : Address) (removed : List P)
    (after : PlayerBus P W) : Prop where
  used : address ∈ bus.addresses
  /-- With the main peripheral everybody leaves. -/
  everybody : address.isMain = true → removed = bus.peripherals ∧ after.peripherals = []
  /-- An expansion leaves alone. -/
  alone : address.isMain = false → ∃ front peripheral back,
    bus.peripherals = front ++ peripheral :: back ∧ Peripheral.address peripheral = address ∧
      removed = [peripheral] ∧ after.peripherals = front ++ back
  failures : after.failures =
    if address.isMain then { bus.failures with length := 0 } else bus.failures
  nothing_else : after = { bus with
    scheduler := after.scheduler, peripherals := after.peripherals, failures := after.failures }

/-- The number of those removed is the number of those missing. -/
theorem PluggedOut.count (pluggedOut : PluggedOut bus address removed after) :
    removed.length + after.peripherals.length = bus.peripherals.length := by
  cases isMain : address.isMain with
  | true =>
      obtain ⟨everybody, nobody⟩ := pluggedOut.everybody isMain
      rw [everybody, nobody]
      rfl
  | false =>
      obtain ⟨front, peripheral, back, split, -, one, rest⟩ := pluggedOut.alone isMain
      rw [split, one, rest]
      simp only [List.length_append, List.length_cons, List.length_nil]
      omega

/-- Whoever is at an address that nobody shares is alone there. -/
theorem filter_address {peripherals front back : List P} {peripheral : P}
    (nodup : (peripherals.map Peripheral.address).Nodup)
    (split : peripherals = front ++ peripheral :: back) :
    let here (other : P) : Bool :=
      Peripheral.address other == Peripheral.address peripheral
    peripherals.filter here = [peripheral] ∧
      peripherals.filter (fun other => !here other) = front ++ back := by
  intro here
  rw [split, List.map_append, List.map_cons, List.nodup_middle, List.nodup_cons,
    ← List.map_append] at nodup
  have elsewhere : ∀ other ∈ front ++ back, here other = false := by
    rintro other mem
    have apart : Peripheral.address other ≠ Peripheral.address peripheral := by
      rintro same
      exact nodup.1 (same ▸ List.mem_map_of_mem mem)
    simpa [here] using apart
  obtain ⟨before, behind⟩ := List.forall_mem_append.mp elsewhere
  have itself : here peripheral = true := beq_self_eq_true _
  have noneBefore : front.filter here = [] :=
    List.filter_eq_nil_iff.mpr fun other mem => by simp [before other mem]
  have noneBehind : back.filter here = [] :=
    List.filter_eq_nil_iff.mpr fun other mem => by simp [behind other mem]
  have allBefore : front.filter (fun other => !here other) = front :=
    List.filter_eq_self.mpr fun other mem => by simp [before other mem]
  have allBehind : back.filter (fun other => !here other) = back :=
    List.filter_eq_self.mpr fun other mem => by simp [behind other mem]
  constructor
  · rw [split, List.filter_append, List.filter_cons_of_pos itself, noneBefore, noneBehind]
    rfl
  · rw [split, List.filter_append, List.filter_cons_of_neg (by simp [itself]), allBefore,
      allBehind]

theorem pluggedOut (nodup : bus.addresses.Nodup)
    (detached : (bus.detach address).value = .ok (removed, after)) :
    PluggedOut bus address removed after := by
  unfold detach at detached
  split at detached
  next used =>
    obtain ⟨rfl, rfl⟩ := Prod.mk.inj (Except.ok.inj detached)
    constructor
    · exact List.contains_iff_mem.mp used
    · rintro isMain
      simp [isMain]
    · rintro expansion
      obtain ⟨peripheral, mem, rfl⟩ := List.mem_map.mp (List.contains_iff_mem.mp used)
      obtain ⟨front, back, split⟩ := List.append_of_mem mem
      obtain ⟨one, rest⟩ := filter_address nodup split
      simp only [expansion, Bool.false_or]
      exact ⟨front, peripheral, back, split, rfl, one, rest⟩
    · rfl
    · rfl
  next => contradiction

/-- Nobody is unplugged only where nobody is. -/
theorem of_detach_error {fault : PeripheralError}
    (turnedDown : (bus.detach address).value = .error fault) : address ∉ bus.addresses := by
  unfold detach at turnedDown
  split at turnedDown
  next => contradiction
  next unused =>
    rintro used
    exact unused (List.contains_iff_mem.mpr used)

theorem roster_detach (roster : Roster bus.settings.playerIndex bus.addresses)
    (detached : (bus.detach address).value = .ok (removed, after)) :
    Roster after.settings.playerIndex after.addresses := by
  have plugged := pluggedOut roster.nodup detached
  have settings : after.settings = bus.settings := by rw [plugged.nothing_else]
  rw [settings]
  cases isMain : address.isMain with
  | true =>
      rw [addresses, (plugged.everybody isMain).2]
      exact Roster.nil _
  | false =>
      obtain ⟨front, peripheral, back, split, here, -, rest⟩ := plugged.alone isMain
      have former : bus.addresses =
          front.map Peripheral.address ++ address :: back.map Peripheral.address := by
        rw [addresses, split, List.map_append, List.map_cons, here]
      rw [former] at roster
      rw [addresses, rest, List.map_append]
      exact roster.leave isMain

end PlugOut

end PlayerBus

end MapleBus
