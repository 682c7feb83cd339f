import MapleBus.Proofs.PlayerBus.Tenure

/-!
# Whose outcomes are counted

The failures in a row at an address can be read off the journal in two ways: by going
through every outcome for the address since somebody was last unplugged there, or by
telling the outcomes of the tenant from those of what had been left on the wire before.
There is one of the latter at most, and it is the first outcome of all.
-/

namespace MapleBus

variable {P : Type} [Peripheral P] {address : Address} {entry : JournalEntry P}
  {journal news : Journal P} {tx : Transmission}

/-! ## Counting -/

namespace JournalEntry

/-- Whether somebody is unplugged at an address. -/
def leavesAt (address : Address) : JournalEntry P → Bool
  | .detached peripheral => Peripheral.address peripheral == address
  | _ => false

/-- Whether an entry is an outcome for an address, or somebody comes or goes there. -/
def bearsOn (address : Address) : JournalEntry P → Bool
  | .settled tx => tx.recipient == address
  | entry => entry.movesAt address

theorem movesAt_of_bearsOn (aside : entry.bearsOn address = false) :
    entry.movesAt address = false := by
  cases entry <;> first | rfl | exact aside

theorem leavesAt_of_movesAt (stays : entry.movesAt address = false) :
    entry.leavesAt address = false := by
  cases entry <;> first | rfl | exact stays

theorem leavesAt_detached {peripheral : P} (here : Peripheral.address peripheral = address) :
    (detached peripheral).leavesAt address = true :=
  beq_iff_eq.mpr here

theorem IsCallback.bearsOn (callback : entry.IsCallback) (address : Address) :
    entry.bearsOn address = false := by
  cases entry <;> first | rfl | exact False.elim callback

theorem IsWork.bearsOn (work : entry.IsWork) (address : Address) :
    entry.bearsOn address = false := by
  cases entry <;> first | rfl | exact False.elim work

omit [Peripheral P] in
theorem isCallback_conclusion (peripheral : P) (tx : Transmission) :
    (conclusion peripheral tx).IsCallback := by
  unfold conclusion
  cases tx.status.failure? <;> trivial

end JournalEntry

namespace Journal

/-- What was written since somebody was last unplugged at an address. -/
def sinceLeave (journal : Journal P) (address : Address) : Journal P :=
  journal.takeWhile fun entry => !entry.leavesAt address

/-- Whether a transmission was accepted from somebody at its recipient's address. -/
def knows (journal : Journal P) (tx : Transmission) : Bool :=
  journal.any fun
    | .accepted author origin =>
        Peripheral.address author == tx.recipient && origin == { tx with status := .pending }
    | _ => false

/-- The outcomes for an address of transmissions whose acceptance is known, or of those
whose acceptance is not, newest first. -/
def outcomes (known : Bool) (address : Address) : Journal P → List Transmission
  | [] => []
  | .settled tx :: earlier =>
      if tx.recipient = address ∧ knows earlier tx = known then
        tx :: outcomes known address earlier
      else
        outcomes known address earlier
  | _ :: earlier => outcomes known address earlier

/-- The outcomes of what the tenant of an address submitted since they came. -/
def ownOutcomes (journal : Journal P) (address : Address) : List Transmission :=
  outcomes true address (journal.tenure address)

/-- The outcomes for an address, since somebody was last unplugged there, of what had
been accepted before. -/
def strayOutcomes (journal : Journal P) (address : Address) : List Transmission :=
  outcomes false address (journal.sinceLeave address)

/-- The failures in a row at an address since somebody was last unplugged there. -/
def streak (address : Address) : Journal P → Nat
  | [] => 0
  | .settled tx :: earlier =>
      if tx.recipient = address then
        if tx.status.failure?.isSome then streak address earlier + 1 else 0
      else
        streak address earlier
  | .detached peripheral :: earlier =>
      if Peripheral.address peripheral = address then 0 else streak address earlier
  | _ :: earlier => streak address earlier

end Journal

/-- How many outcomes at the front are failures. -/
def failuresInARow (outcomes : List Transmission) : Nat :=
  (outcomes.takeWhile fun tx => tx.status.failure?.isSome).length

theorem failuresInARow_cons (tx : Transmission) (others : List Transmission) :
    failuresInARow (tx :: others) =
      if tx.status.failure?.isSome then failuresInARow others + 1 else 0 := by
  unfold failuresInARow
  rw [List.takeWhile_cons]
  split <;> rfl

/-! ## What bears on an address -/

namespace Journal

theorem streak_cons_of_aside (aside : entry.bearsOn address = false) :
    streak address (entry :: journal) = journal.streak address := by
  cases entry with
  | settled tx => exact if_neg (beq_eq_false_iff_ne.mp aside)
  | detached peripheral => exact if_neg (beq_eq_false_iff_ne.mp aside)
  | _ => rfl

theorem streak_append (aside : ∀ entry ∈ news, entry.bearsOn address = false) :
    streak address (news ++ journal) = journal.streak address := by
  induction news with
  | nil => rfl
  | cons entry rest ih =>
      obtain ⟨first, others⟩ := List.forall_mem_cons.mp aside
      exact (streak_cons_of_aside first).trans (ih others)

/-- Whoever comes goes on with the streak that is there; only leaving ends one. -/
theorem streak_attached (peripheral : P) :
    streak address (.attached peripheral :: journal) = journal.streak address :=
  rfl

theorem streak_detachedAll (removed : List P) :
    streak address (removed.map .detached ++ journal) =
      if address ∈ removed.map Peripheral.address then 0 else journal.streak address := by
  induction removed with
  | nil => rfl
  | cons peripheral rest ih =>
      by_cases here : Peripheral.address peripheral = address
      · have gone : address ∈ (peripheral :: rest).map Peripheral.address := by simp [here]
        rw [if_pos gone]
        exact if_pos here
      · have others : address ∈ (peripheral :: rest).map Peripheral.address ↔
            address ∈ rest.map Peripheral.address := by
          simp [Ne.symm here]
        rw [if_congr others rfl rfl, ← ih]
        exact if_neg here

theorem outcomes_cons_of_aside (known : Bool) (aside : entry.bearsOn address = false) :
    outcomes known address (entry :: journal) = journal.outcomes known address := by
  cases entry with
  | settled tx => exact if_neg fun both => beq_eq_false_iff_ne.mp aside both.1
  | _ => rfl

theorem sinceLeave_cons_of_stays (stays : entry.leavesAt address = false) :
    sinceLeave (entry :: journal) address = entry :: journal.sinceLeave address :=
  List.takeWhile_cons_of_pos (by simp [stays])

theorem sinceLeave_cons_of_leaves (leaves : entry.leavesAt address = true) :
    sinceLeave (entry :: journal) address = [] :=
  List.takeWhile_cons_of_neg (by simp [leaves])

/-- Nobody left since somebody came or went. -/
theorem mem_sinceLeave_of_mem_tenure (mem : entry ∈ journal.tenure address) :
    entry ∈ journal.sinceLeave address := by
  induction journal with
  | nil => contradiction
  | cons first rest ih =>
      cases moves : first.movesAt address with
      | true =>
          rw [tenure_cons_of_moves moves] at mem
          contradiction
      | false =>
          rw [sinceLeave_cons_of_stays (JournalEntry.leavesAt_of_movesAt moves)]
          rw [tenure_cons_of_stays moves] at mem
          rcases List.mem_cons.mp mem with rfl | later
          · exact List.mem_cons_self
          · exact List.mem_cons_of_mem _ (ih later)

theorem knows_of_mem {author : P} {origin : Transmission} (mem : .accepted author origin ∈ journal)
    (here : Peripheral.address author = tx.recipient)
    (same : origin = { tx with status := .pending }) : journal.knows tx = true :=
  List.any_eq_true.mpr ⟨_, mem, by simp [here, same]⟩

theorem knows_mono {wider : Journal P} (subset : ∀ entry ∈ journal, entry ∈ wider)
    (known : journal.knows tx = true) : wider.knows tx = true := by
  obtain ⟨entry, mem, accepted⟩ := List.any_eq_true.mp known
  exact List.any_eq_true.mpr ⟨entry, subset entry mem, accepted⟩

/-! ## Quiet stretches -/

theorem outcomes_of_quiet (quiet : ∀ entry ∈ journal, entry.IsQuiet) (known : Bool) :
    journal.outcomes known address = [] := by
  induction journal with
  | nil => rfl
  | cons entry rest ih =>
      obtain ⟨first, others⟩ := List.forall_mem_cons.mp quiet
      cases entry with
      | settled tx => contradiction
      | _ => exact ih others

theorem knows_of_quiet (quiet : ∀ entry ∈ journal, entry.IsQuiet) :
    journal.knows tx = false := by
  apply List.any_eq_false.mpr
  rintro entry mem
  cases entry with
  | accepted author origin => exact False.elim (quiet _ mem)
  | _ => simp

/-- After somebody left, only what was written since counts. -/
theorem mem_of_mem_sinceLeave {since earlier : Journal P} {peripheral : P}
    (mem : entry ∈ sinceLeave (since ++ .detached peripheral :: earlier)
      (Peripheral.address peripheral)) : entry ∈ since := by
  induction since with
  | nil =>
      rw [List.nil_append, sinceLeave_cons_of_leaves (JournalEntry.leavesAt_detached rfl)] at mem
      contradiction
  | cons first rest ih =>
      cases leaves : first.leavesAt (Peripheral.address peripheral) with
      | true =>
          rw [List.cons_append, sinceLeave_cons_of_leaves leaves] at mem
          contradiction
      | false =>
          rw [List.cons_append, sinceLeave_cons_of_stays leaves] at mem
          rcases List.mem_cons.mp mem with rfl | later
          · exact List.mem_cons_self
          · exact List.mem_cons_of_mem _ (ih later)

end Journal

/-! ## The two ways agree -/

/-- The failures in a row at an address are those of the tenant, before them those of one
stray outcome at most.  While nobody is there, there are no outcomes of a tenant. -/
structure Reckoned (address : Address) (used : Prop) (journal : Journal P) : Prop where
  streak : journal.streak address =
    failuresInARow (journal.ownOutcomes address ++ journal.strayOutcomes address)
  few : (journal.strayOutcomes address).length ≤ 1
  vacant : ¬ used → journal.ownOutcomes address = []

namespace Reckoned

open Journal

variable {used : Prop}

theorem nil : Reckoned address used ([] : Journal P) where
  streak := rfl
  few := Nat.zero_le 1
  vacant := fun _ => rfl

/-- What does not bear on the address changes nothing. -/
theorem push (reckoned : Reckoned address used journal) (aside : entry.bearsOn address = false) :
    Reckoned address used (entry :: journal) := by
  have stays := JournalEntry.movesAt_of_bearsOn aside
  have own : ownOutcomes (entry :: journal) address = journal.ownOutcomes address := by
    rw [ownOutcomes, tenure_cons_of_stays stays, outcomes_cons_of_aside true aside]
    rfl
  have stray : strayOutcomes (entry :: journal) address = journal.strayOutcomes address := by
    have nobodyLeaves := JournalEntry.leavesAt_of_movesAt stays
    rw [strayOutcomes, sinceLeave_cons_of_stays nobodyLeaves, outcomes_cons_of_aside false aside]
    rfl
  constructor
  · rw [streak_cons_of_aside aside, own, stray]
    exact reckoned.streak
  · rw [stray]
    exact reckoned.few
  · rw [own]
    exact reckoned.vacant

theorem append (reckoned : Reckoned address used journal)
    (aside : ∀ entry ∈ news, entry.bearsOn address = false) :
    Reckoned address used (news ++ journal) := by
  induction news with
  | nil => exact reckoned
  | cons entry rest ih =>
      obtain ⟨first, others⟩ := List.forall_mem_cons.mp aside
      exact (ih others).push first

/-- Somebody is plugged in at the address, where nobody was. -/
theorem attach (reckoned : Reckoned address used journal) (free : ¬ used) (peripheral : P)
    (here : Peripheral.address peripheral = address) :
    Reckoned address True (.attached peripheral :: journal) := by
  have own : ownOutcomes (.attached peripheral :: journal) address = [] := by
    rw [ownOutcomes, tenure_cons_of_moves (JournalEntry.movesAt_attached here)]
    rfl
  have stray : strayOutcomes (.attached peripheral :: journal) address =
      journal.strayOutcomes address := by
    rw [strayOutcomes, sinceLeave_cons_of_stays rfl]
    rfl
  constructor
  · rw [streak_attached, own, stray, reckoned.streak, reckoned.vacant free]
  · rw [stray]
    exact reckoned.few
  · exact fun _ => own

/-- Somebody is unplugged at the address. -/
theorem detach (peripheral : P) (here : Peripheral.address peripheral = address) :
    Reckoned address used (.detached peripheral :: journal) := by
  have own : ownOutcomes (.detached peripheral :: journal) address = [] := by
    rw [ownOutcomes, tenure_cons_of_moves (JournalEntry.movesAt_detached here)]
    rfl
  have stray : strayOutcomes (.detached peripheral :: journal) address = [] := by
    rw [strayOutcomes, sinceLeave_cons_of_leaves (JournalEntry.leavesAt_detached here)]
    rfl
  constructor
  · rw [own, stray]
    exact if_pos here
  · rw [stray]
    exact Nat.zero_le 1
  · exact fun _ => own

/-- Several are unplugged. -/
theorem detachAll (reckoned : Reckoned address used journal) (removed : List P) :
    Reckoned address (used ∧ address ∉ removed.map Peripheral.address)
      (removed.map .detached ++ journal) := by
  induction removed with
  | nil => simpa using reckoned
  | cons peripheral rest ih =>
      by_cases here : Peripheral.address peripheral = address
      · exact detach peripheral here
      · have others : address ∉ (peripheral :: rest).map Peripheral.address ↔
            address ∉ rest.map Peripheral.address := by
          simp [Ne.symm here]
        rw [others]
        exact ih.push (beq_eq_false_iff_ne.mpr here)

/-- The tenant's own transmission ends. -/
theorem settleOwn (reckoned : Reckoned address used journal) (inUse : used)
    (here : tx.recipient = address) (known : knows (journal.tenure address) tx = true) :
    Reckoned address used (.settled tx :: journal) := by
  have knownSince : knows (journal.sinceLeave address) tx = true :=
    knows_mono (fun entry => mem_sinceLeave_of_mem_tenure) known
  have own : ownOutcomes (.settled tx :: journal) address = tx :: journal.ownOutcomes address := by
    rw [ownOutcomes, tenure_cons_of_stays rfl]
    exact if_pos ⟨here, known⟩
  have stray : strayOutcomes (.settled tx :: journal) address = journal.strayOutcomes address := by
    rw [strayOutcomes, sinceLeave_cons_of_stays rfl]
    exact if_neg (by simp [knownSince])
  constructor
  · rw [own, stray, List.cons_append, failuresInARow_cons, ← reckoned.streak]
    exact if_pos here
  · rw [stray]
    exact reckoned.few
  · exact fun free => absurd inUse free

/-- What somebody had left on the wire ends. -/
theorem settleStray (reckoned : Reckoned address used journal) (here : tx.recipient = address)
    {since earlier : Journal P} {peripheral : P}
    (split : journal = since ++ .detached peripheral :: earlier)
    (left : Peripheral.address peripheral = address) (quiet : ∀ entry ∈ since, entry.IsQuiet) :
    Reckoned address used (.settled tx :: journal) := by
  have quietSince : ∀ entry ∈ journal.sinceLeave address, entry.IsQuiet := by
    rintro entry mem
    rw [split, ← left] at mem
    exact quiet entry (mem_of_mem_sinceLeave mem)
  have quietTenure : ∀ entry ∈ journal.tenure address, entry.IsQuiet :=
    fun entry mem => quietSince entry (mem_sinceLeave_of_mem_tenure mem)
  have noOwn : journal.ownOutcomes address = [] := outcomes_of_quiet quietTenure true
  have noStray : journal.strayOutcomes address = [] := outcomes_of_quiet quietSince false
  have own : ownOutcomes (.settled tx :: journal) address = [] := by
    rw [ownOutcomes, tenure_cons_of_stays rfl]
    refine (if_neg ?_).trans noOwn
    simp [knows_of_quiet quietTenure]
  have stray : strayOutcomes (.settled tx :: journal) address = [tx] := by
    rw [strayOutcomes, sinceLeave_cons_of_stays rfl]
    refine (if_pos ⟨here, knows_of_quiet quietSince⟩).trans ?_
    exact congrArg (List.cons tx) noStray
  have before : journal.streak address = failuresInARow [] := by
    rw [reckoned.streak, noOwn, noStray]
    rfl
  constructor
  · rw [own, stray, List.nil_append, failuresInARow_cons, ← before]
    exact if_pos here
  · rw [stray]
    exact Nat.le_refl 1
  · exact fun _ => own

theorem mono {wider : Prop} (reckoned : Reckoned address used journal) (widens : used → wider) :
    Reckoned address wider journal where
  streak := reckoned.streak
  few := reckoned.few
  vacant := fun free => reckoned.vacant (mt widens free)

end Reckoned

/-! ## Stages -/

namespace PlayerBus

/-- In the journal of a view the two ways agree. -/
def View.Reckons (address : Address) (view : View P) : Prop :=
  Reckoned address (address ∈ view.peripherals.map Peripheral.address) view.journal

namespace View.Reckons

variable {former later view : View P}

/-- What is on the wire is settled first thing in a cycle. -/
theorem settle (tenanted : view.Tenanted) (reckons : view.Reckons address)
    (occupied : view.occupant = some tx) (sent : tx.status = .sent) (status : Status)
    (now : UInt64) :
    Reckoned address (address ∈ view.peripherals.map Peripheral.address)
      (.settled { tx with status } :: .cycle now :: view.journal) := by
  have began : Reckoned address _ (.cycle now :: view.journal) := Reckoned.push reckons rfl
  by_cases here : tx.recipient = address
  · rcases tenanted.origin_of_sent occupied sent with
      ⟨used, author, since, earlier, split, own, stay⟩ |
      ⟨peripheral, since, earlier, split, left, quiet⟩
    · have accepted : .accepted author { tx with status := .pending } ∈
          Journal.tenure (.cycle now :: view.journal) address := by
        rw [Journal.tenure_cons_of_stays rfl, split, ← here, Journal.tenure_append stay,
          Journal.tenure_cons_of_stays rfl]
        simp
      exact began.settleOwn (here ▸ used) here (Journal.knows_of_mem accepted own rfl)
    · have quietCycle : ∀ entry ∈ .cycle now :: since, entry.IsQuiet :=
        List.forall_mem_cons.mpr ⟨trivial, quiet⟩
      have splitCycle : .cycle now :: view.journal =
          (.cycle now :: since) ++ .detached peripheral :: earlier :=
        congrArg _ split
      exact began.settleStray here splitCycle (left.trans here) quietCycle
  · exact began.push (beq_eq_false_iff_ne.mpr here)

/-- Whoever stays is left. -/
theorem remaining {journal : Journal P} {peripherals : List P} (leaves : P → Bool)
    (reckoned : Reckoned address
      (address ∈ peripherals.map Peripheral.address ∧
        address ∉ (peripherals.filter leaves).map Peripheral.address) journal) :
    Reckoned address
      (address ∈ (peripherals.filter fun peripheral => !leaves peripheral).map
        Peripheral.address) journal := by
  apply reckoned.mono
  rintro ⟨used, stays⟩
  obtain ⟨peripheral, mem, rfl⟩ := List.mem_map.mp used
  refine List.mem_map_of_mem (List.mem_filter.mpr ⟨mem, ?_⟩)
  cases leaving : leaves peripheral with
  | false => rfl
  | true => exact absurd (List.mem_map_of_mem (List.mem_filter.mpr ⟨mem, leaving⟩)) stays

/-- Somebody is plugged in. -/
theorem attached {occupant : Option Transmission} {front back : List P} {journal : Journal P}
    {peripheral : P} (reckons : Reckons address ⟨occupant, front ++ back, journal⟩)
    (free : Peripheral.address peripheral ∉ (front ++ back).map Peripheral.address) :
    Reckons address ⟨occupant, front ++ peripheral :: back, .attached peripheral :: journal⟩ := by
  by_cases here : Peripheral.address peripheral = address
  · rw [here] at free
    have attached := Reckoned.attach reckons free peripheral here
    apply attached.mono
    rintro -
    simp [here]
  · have pushed : Reckoned address _ (.attached peripheral :: journal) :=
      Reckoned.push reckons (beq_eq_false_iff_ne.mpr here)
    apply pushed.mono
    rintro used
    simp only [List.map_append, List.map_cons, List.mem_append, List.mem_cons] at used ⊢
    exact used.imp_right Or.inr

/-- In every stage the two ways agree. -/
theorem stage (steadfast : Steadfast P) (tenanted : former.Tenanted)
    (reckons : former.Reckons address) (stage : Stage Steady former later) :
    later.Reckons address := by
  cases stage with
  | waited _ now => exact Reckoned.push reckons rfl
  | concluded tx status front back peripheral journal now sent terminal here before =>
      have settled := settle tenanted reckons rfl sent status now
      rw [Reckons, addresses_replace (address_conclude steadfast.stationary _ _)]
      exact settled.push ((JournalEntry.isCallback_conclusion _ _).bearsOn address)
  | forgotten tx status peripherals journal now sent terminal nobody =>
      exact settle tenanted reckons rfl sent status now
  | worked front back peripheral desk now tidy =>
      obtain ⟨⟨news, split, requests⟩, stayed⟩ := Endpoint.news_play
        (steadfast.task peripheral now).obeys_recipient peripheral
        (desk.write (.began peripheral))
      have began : Reckoned address _ (desk.write (.began peripheral)).journal :=
        Reckoned.push reckons rfl
      have ended := began.append fun entry mem => (requests entry mem).isWork.bearsOn address
      rw [← split] at ended
      rw [Reckons, addresses_replace stayed]
      exact ended
  | launched tx front back peripheral journal pending here before =>
      have sent : Reckoned address _ (.sent { tx with status := .sent } :: journal) :=
        Reckoned.push reckons rfl
      rw [Reckons, addresses_replace (steadfast.started _ _)]
      exact sent.push rfl
  | slipped tx peripherals journal pending nobody => exact Reckoned.push reckons rfl
  | attached occupant front back peripheral journal free => exact reckons.attached free
  | detached _ leaves kept => exact remaining leaves (Reckoned.detachAll reckons _)
  | withdrawn tx peripherals journal leaves pending =>
      have dropped : Reckoned address _ (.cancelled tx :: journal) := Reckoned.push reckons rfl
      exact remaining leaves (dropped.detachAll _)
  | influenced _ change steady =>
      rw [Reckons, addresses_map_of_steady steady]
      exact reckons

theorem stages (steadfast : Steadfast P) (tenanted : former.Tenanted)
    (reckons : former.Reckons address) (stages : Stages Steady former later) :
    later.Reckons address := by
  induction stages with
  | refl => exact reckons
  | tail before next ih => exact stage steadfast (tenanted.stages steadfast before) ih next

end View.Reckons

end PlayerBus

end MapleBus
