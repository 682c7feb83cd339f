import MapleBus.Proofs.PlayerBus.Hosting
import MapleBus.Proofs.PlayerBus.News

/-!
# Tenures

Whoever is plugged in at an address holds it from then on until somebody is unplugged
there.  Where peripherals keep their addresses and submit packets to themselves only, a
transmission on its way is either the tenant's, who submitted it after they came, or the
rest of what somebody left on the wire who is gone.
-/

namespace MapleBus

section Entries

variable {P : Type} [Peripheral P] {address : Address} {entry : JournalEntry P}
  {journal news : Journal P}

/-- Whether somebody comes or goes at an address. -/
def JournalEntry.movesAt (address : Address) : JournalEntry P → Bool
  | .attached peripheral | .detached peripheral => Peripheral.address peripheral == address
  | _ => false

theorem JournalEntry.movesAt_attached {peripheral : P}
    (here : Peripheral.address peripheral = address) :
    (attached peripheral).movesAt address = true :=
  beq_iff_eq.mpr here

theorem JournalEntry.movesAt_detached {peripheral : P}
    (here : Peripheral.address peripheral = address) :
    (detached peripheral).movesAt address = true :=
  beq_iff_eq.mpr here

/-- An entry of neither an acceptance nor anybody who comes or goes. -/
def JournalEntry.IsPlain : JournalEntry P → Prop
  | .accepted _ _ | .attached _ | .detached _ => False
  | _ => True

theorem JournalEntry.IsPlain.movesAt (plain : entry.IsPlain) (address : Address) :
    entry.movesAt address = false := by
  cases entry <;> first | rfl | exact False.elim plain

omit [Peripheral P] in
theorem JournalEntry.isPlain_conclusion (peripheral : P) (tx : Transmission) :
    (conclusion peripheral tx).IsPlain := by
  unfold conclusion
  cases tx.status.failure? <;> trivial

theorem JournalEntry.Spares.movesAt (spares : entry.Spares address) :
    entry.movesAt address = false := by
  cases entry with
  | attached peripheral | detached peripheral => exact beq_eq_false_iff_ne.mpr spares
  | _ => rfl

theorem JournalEntry.IsRequest.movesAt {rule : Packet → Prop} {author : P}
    (request : entry.IsRequest rule author) (address : Address) :
    entry.movesAt address = false := by
  cases entry <;> first | rfl | exact False.elim request

namespace Journal

/-- What was written since somebody last came or went at an address. -/
def tenure (journal : Journal P) (address : Address) : Journal P :=
  journal.takeWhile fun entry => !entry.movesAt address

theorem tenure_cons_of_stays (stays : entry.movesAt address = false) :
    tenure (entry :: journal) address = entry :: journal.tenure address :=
  List.takeWhile_cons_of_pos (by simp [stays])

theorem tenure_append (stay : ∀ entry ∈ news, entry.movesAt address = false) :
    tenure (news ++ journal) address = news ++ journal.tenure address := by
  apply List.takeWhile_append_of_pos
  rintro entry mem
  rw [stay entry mem]
  rfl

theorem tenure_cons_of_moves (moves : entry.movesAt address = true) :
    tenure (entry :: journal) address = [] :=
  List.takeWhile_cons_of_neg (by simp [moves])

/-- A tenure does not reach back beyond those who came or went. -/
theorem mem_news_of_mem_tenure (moved : ∃ entry ∈ news, entry.movesAt address = true)
    (mem : entry ∈ tenure (news ++ journal) address) : entry ∈ news := by
  induction news with
  | nil =>
      obtain ⟨nothing, impossible, -⟩ := moved
      contradiction
  | cons first rest ih =>
      cases moves : first.movesAt address with
      | true =>
          rw [List.cons_append, tenure_cons_of_moves moves] at mem
          contradiction
      | false =>
          have movedLater : ∃ entry ∈ rest, entry.movesAt address = true := by
            obtain ⟨mover, present, moved⟩ := moved
            rcases List.mem_cons.mp present with rfl | later
            · rw [moves] at moved
              contradiction
            · exact ⟨mover, later, moved⟩
          rw [List.cons_append, tenure_cons_of_stays moves] at mem
          rcases List.mem_cons.mp mem with rfl | later
          · exact List.mem_cons_self
          · exact List.mem_cons_of_mem _ (ih movedLater later)

/-- Somebody was plugged in at an address and is still there. -/
def Held (journal : Journal P) (address : Address) : Prop :=
  ∃ newcomer earlier, Peripheral.address newcomer = address ∧
    journal = journal.tenure address ++ .attached newcomer :: earlier

theorem Held.append (held : journal.Held address)
    (stay : ∀ entry ∈ news, entry.movesAt address = false) : Held (news ++ journal) address := by
  obtain ⟨newcomer, earlier, here, split⟩ := held
  refine ⟨newcomer, earlier, here, ?_⟩
  rw [tenure_append stay, List.append_assoc, ← split]

theorem held_attached (newcomer : P) :
    Held (.attached newcomer :: journal) (Peripheral.address newcomer) := by
  refine ⟨newcomer, journal, rfl, ?_⟩
  rw [tenure_cons_of_moves (JournalEntry.movesAt_attached rfl)]
  rfl

/-- Everything that was accepted is addressed to its author. -/
def SelfAddressed (journal : Journal P) : Prop :=
  ∀ author tx, .accepted author tx ∈ journal → Peripheral.address author = tx.recipient

theorem SelfAddressed.append (own : journal.SelfAddressed) (ownNews : SelfAddressed news) :
    SelfAddressed (news ++ journal) := by
  rintro author tx mem
  rcases List.mem_append.mp mem with new | old
  · exact ownNews author tx new
  · exact own author tx old

/-- Nothing is accepted, and nobody comes or goes. -/
theorem selfAddressed_of_plain (plain : ∀ entry ∈ news, entry.IsPlain) : SelfAddressed news :=
  fun author tx mem => False.elim (plain (.accepted author tx) mem)

end Journal

end Entries

namespace PlayerBus

variable {P W : Type} [Peripheral P]

/-! ## What a stage adds -/

/-- The journal of a stage: whoever is plugged in afterwards was so before and did not
move, or has just been plugged in. -/
structure Adds (former later : View P) (news : Journal P) : Prop where
  journal : later.journal = news ++ former.journal
  own : news.SelfAddressed
  stay : ∀ address ∈ later.peripherals.map Peripheral.address,
    (address ∈ former.peripherals.map Peripheral.address ∧
      ∀ entry ∈ news, entry.movesAt address = false) ∨
    ∃ newcomer, news = [.attached newcomer] ∧ Peripheral.address newcomer = address

namespace Adds

variable {former later : View P} {news : Journal P}

theorem of_plain (journal : later.journal = news ++ former.journal)
    (plain : ∀ entry ∈ news, entry.IsPlain)
    (addresses : later.peripherals.map Peripheral.address =
      former.peripherals.map Peripheral.address) : Adds former later news where
  journal := journal
  own := Journal.selfAddressed_of_plain plain
  stay := fun address used =>
    Or.inl ⟨addresses ▸ used, fun entry mem => (plain entry mem).movesAt address⟩

/-- Whoever is left is at an address that nobody left. -/
theorem of_detached {dropped : Journal P} {leaves : P → Bool}
    (nodup : (former.peripherals.map Peripheral.address).Nodup)
    (journal : later.journal =
      ((former.peripherals.filter leaves).map .detached ++ dropped) ++ former.journal)
    (peripherals : later.peripherals =
      former.peripherals.filter fun peripheral => !leaves peripheral)
    (plain : ∀ entry ∈ dropped, entry.IsPlain) :
    Adds former later ((former.peripherals.filter leaves).map .detached ++ dropped) where
  journal := journal
  own := by
    rintro author tx mem
    rcases List.mem_append.mp mem with gone | drop
    · simp at gone
    · exact False.elim (plain _ drop)
  stay := by
    rintro address used
    rw [peripherals] at used
    obtain ⟨peripheral, remains, rfl⟩ := List.mem_map.mp used
    obtain ⟨present, stays⟩ := List.mem_filter.mp remains
    refine Or.inl ⟨List.mem_map_of_mem present, ?_⟩
    rintro entry mem
    rcases List.mem_append.mp mem with gone | drop
    · obtain ⟨leaver, left, rfl⟩ := List.mem_map.mp gone
      obtain ⟨leaverPresent, leaving⟩ := List.mem_filter.mp left
      apply beq_eq_false_iff_ne.mpr
      rintro same
      cases List.inj_on_of_nodup_map nodup leaverPresent present same
      simp [leaving] at stays
    · exact (plain entry drop).movesAt _

/-- A program asks for its own address only. -/
theorem of_work (steadfast : Steadfast P) (now : UInt64) (front back : List P)
    (peripheral : P) (desk : Desk P) :
    let ran := (Peripheral.task peripheral now).play peripheral (desk.write (.began peripheral))
    ∃ news, Adds ⟨desk.scheduler.occupant?, front ++ peripheral :: back, desk.journal⟩
      ⟨ran.2.scheduler.occupant?, front ++ ran.1 :: back, ran.2.journal⟩ news := by
  intro ran
  obtain ⟨⟨news, split, requests⟩, stayed⟩ := Endpoint.news_play
    (steadfast.task peripheral now).obeys_recipient peripheral
    (desk.write (.began peripheral))
  refine ⟨news ++ [.began peripheral], ?_, ?_, ?_⟩
  · rw [List.append_assoc]
    exact split
  · rintro author tx mem
    rcases List.mem_append.mp mem with request | began
    · obtain ⟨rfl, here⟩ := requests _ request
      exact here.symm
    · simp at began
  · rintro address used
    refine Or.inl ⟨?_, ?_⟩
    · rwa [addresses_replace stayed] at used
    · rintro entry mem
      rcases List.mem_append.mp mem with request | began
      · exact (requests entry request).movesAt address
      · cases List.mem_singleton.mp began
        rfl

/-- Whoever else is plugged in after a newcomer was so before. -/
theorem of_attached (occupant : Option Transmission) (front back : List P) (peripheral : P)
    (journal : Journal P) :
    Adds ⟨occupant, front ++ back, journal⟩
      ⟨occupant, front ++ peripheral :: back, .attached peripheral :: journal⟩
      [.attached peripheral] where
  journal := rfl
  own := by
    rintro author tx mem
    simp at mem
  stay := by
    rintro address used
    by_cases here : Peripheral.address peripheral = address
    · exact Or.inr ⟨peripheral, rfl, here⟩
    · refine Or.inl ⟨?_, List.forall_mem_singleton.mpr (beq_eq_false_iff_ne.mpr here)⟩
      simp only [List.map_append, List.map_cons, List.mem_append, List.mem_cons] at used ⊢
      rcases used with inFront | rfl | inBack
      · exact Or.inl inFront
      · contradiction
      · exact Or.inr inBack

end Adds

/-- Every stage adds entries of its own. -/
theorem Stage.adds (steadfast : Steadfast P) {former later : View P}
    (nodup : (former.peripherals.map Peripheral.address).Nodup)
    (stage : Stage Steady former later) : ∃ news, Adds former later news := by
  cases stage with
  | waited _ now =>
      exact ⟨[.cycle now], .of_plain rfl (List.forall_mem_singleton.mpr trivial) rfl⟩
  | concluded tx status front back peripheral journal now sent terminal here before =>
      have stays := address_conclude steadfast.stationary peripheral { tx with status }
      refine ⟨[.conclusion peripheral { tx with status }, .settled { tx with status },
        .cycle now], .of_plain rfl ?_ (addresses_replace stays)⟩
      refine List.forall_mem_cons.mpr ⟨JournalEntry.isPlain_conclusion _ _, ?_⟩
      simp [JournalEntry.IsPlain]
  | forgotten tx status peripherals journal now sent terminal nobody =>
      refine ⟨[.settled { tx with status }, .cycle now], .of_plain rfl ?_ rfl⟩
      simp [JournalEntry.IsPlain]
  | worked front back peripheral desk now tidy =>
      exact Adds.of_work steadfast now front back peripheral desk
  | launched tx front back peripheral journal pending here before =>
      refine ⟨[.started peripheral { tx with status := .sent }, .sent { tx with status := .sent }],
        .of_plain rfl ?_ (addresses_replace (steadfast.started _ _))⟩
      simp [JournalEntry.IsPlain]
  | slipped tx peripherals journal pending nobody =>
      exact ⟨[.sent { tx with status := .sent }],
        .of_plain rfl (List.forall_mem_singleton.mpr trivial) rfl⟩
  | attached occupant front back peripheral journal free =>
      exact ⟨_, Adds.of_attached occupant front back peripheral journal⟩
  | detached _ leaves kept =>
      refine ⟨_, .of_detached nodup ?_ rfl (List.forall_mem_nil _)⟩
      rw [List.append_nil]
  | withdrawn tx peripherals journal leaves pending =>
      have plain : ∀ entry ∈ [(.cancelled tx : JournalEntry P)], entry.IsPlain :=
        List.forall_mem_singleton.mpr trivial
      refine ⟨_, .of_detached nodup ?_ rfl plain⟩
      rw [List.append_assoc]
      rfl
  | influenced _ change steady =>
      exact ⟨[], .of_plain rfl (List.forall_mem_nil _) (addresses_map_of_steady steady _)⟩

/-- Stages only add to the journal. -/
theorem Stages.suffix {kind : (P → P) → Prop} {former later : View P}
    (stages : Stages kind former later) : former.journal <:+ later.journal := by
  induction stages with
  | refl => exact List.suffix_rfl
  | tail _ next ih => exact ih.trans next.suffix

/-! ## Tenants -/

/-- The journal tells courses of transmissions that are addressed to their authors, and
whoever is plugged in holds their address. -/
structure View.Tenanted (view : View P) : Prop where
  narrated : view.Narrated
  own : view.journal.SelfAddressed
  held : ∀ address ∈ view.peripherals.map Peripheral.address, view.journal.Held address

namespace View.Tenanted

variable {former later view : View P} {tx : Transmission}

/-- Before anything is written, nobody is plugged in. -/
theorem blank : Tenanted (⟨none, [], []⟩ : View P) where
  narrated := {
    nodup := List.nodup_nil
    narrates := ⟨none, .nothing [] (List.forall_mem_nil _), rfl⟩ }
  own := by
    rintro author tx mem
    contradiction
  held := List.forall_mem_nil _

theorem stage (steadfast : Steadfast P) (tenanted : former.Tenanted)
    (stage : Stage Steady former later) : later.Tenanted := by
  obtain ⟨news, adds⟩ := Stage.adds steadfast tenanted.narrated.nodup stage
  constructor
  · exact tenanted.narrated.stage steadfast.stationary stage
  · rw [adds.journal]
    exact tenanted.own.append adds.own
  · rintro address used
    rw [adds.journal]
    rcases adds.stay address used with ⟨before, stay⟩ | ⟨newcomer, rfl, rfl⟩
    · exact (tenanted.held address before).append stay
    · exact Journal.held_attached newcomer

theorem stages (steadfast : Steadfast P) (tenanted : former.Tenanted)
    (stages : Stages Steady former later) : later.Tenanted := by
  induction stages with
  | refl => exact tenanted
  | tail _ next ih => exact ih.stage steadfast next

/-- Nothing was accepted that wanders off to another address. -/
theorem not_elsewhere (tenanted : view.Tenanted) :
    ¬ Told view.journal (some (tx, .elsewhere)) := by
  rintro told
  have own := tenanted.own
  generalize view.journal = journal at told own
  cases told with
  | course told closed author ownTo pending course =>
      have here := own author tx (List.mem_append_right _ List.mem_cons_self)
      exact ownTo.mp here rfl

/-- What is pending was submitted by whoever holds the address it is for, and nobody has
come or gone there since. -/
theorem origin_of_pending (tenanted : view.Tenanted) (occupied : view.occupant = some tx)
    (pending : tx.status = .pending) :
    tx.recipient ∈ view.peripherals.map Peripheral.address ∧
      ∃ author since earlier, view.journal = since ++ .accepted author tx :: earlier ∧
        Peripheral.address author = tx.recipient ∧
        ∀ entry ∈ since, entry.Spares tx.recipient := by
  obtain ⟨current, told, stands⟩ := tenanted.narrated.narrates
  rw [occupied] at stands
  rcases stands.waiting_of_pending pending with ⟨rfl, used⟩ | ⟨former, rfl⟩
  · refine ⟨used, ?_⟩
    generalize view.journal = journal at told
    cases told with
    | course told closed author ownTo pending course =>
        cases course with
        | waiting since spares =>
            exact ⟨author, _, _, rfl, ownTo.mpr (by simp), spares⟩
  · exact absurd told tenanted.not_elsewhere

/-- What is on the wire was submitted by whoever holds the address it is for, and nobody
has come or gone there since, or it was left behind by somebody there, and nothing was
settled since. -/
theorem origin_of_sent (tenanted : view.Tenanted) (occupied : view.occupant = some tx)
    (sent : tx.status = .sent) :
    (tx.recipient ∈ view.peripherals.map Peripheral.address ∧
      ∃ author since earlier,
        view.journal = since ++ .accepted author { tx with status := .pending } :: earlier ∧
          Peripheral.address author = tx.recipient ∧
          ∀ entry ∈ since, entry.movesAt tx.recipient = false) ∨
      ∃ peripheral since earlier, view.journal = since ++ .detached peripheral :: earlier ∧
        Peripheral.address peripheral = tx.recipient ∧ ∀ entry ∈ since, entry.IsQuiet := by
  obtain ⟨current, told, stands⟩ := tenanted.narrated.narrates
  rw [occupied] at stands
  rcases stands.flying_of_sent sent with ⟨origin, rfl, ⟨rfl, used⟩ | rfl⟩ | ⟨former, rfl⟩
  · refine Or.inl ⟨used, ?_⟩
    generalize view.journal = journal at told
    cases told with
    | course told closed author ownTo pending course =>
        have same : { origin with status := .pending } = origin := by rw [← pending]
        have own : Peripheral.address author = origin.recipient := ownTo.mpr (by simp)
        cases course with
        | underway waiting peripheral here since spares =>
            cases waiting with
            | waiting before sparesBefore =>
                refine ⟨author, _, _, congrArg _ (by rw [same]), own, ?_⟩
                rintro entry mem
                rcases List.mem_append.mp mem with later | rest
                · exact (spares entry later).movesAt
                · rcases List.mem_cons.mp rest with rfl | others
                  · rfl
                  · rcases List.mem_cons.mp others with rfl | earlier
                    · rfl
                    · exact (sparesBefore entry earlier).movesAt
  · right
    generalize view.journal = journal at told
    cases told with
    | course told closed author ownTo pending course =>
        cases course with
        | adrift underway peripheral here since quiet =>
            exact ⟨peripheral, since, _, List.append_assoc _ _ _, here, quiet⟩
  · exact absurd told tenanted.not_elsewhere

end View.Tenanted

/-- After every run whoever is plugged in holds their address. -/
theorem Session.tenanted_after [Wire W] (steadfast : Steadfast P) {settings : Settings}
    {wire : W} {bus : PlayerBus P W} (created : create settings wire = .ok bus)
    {occurrences : List (Occurrence P W)}
    (steady : ∀ change, .influence change ∈ occurrences → Steady change) :
    ((opened bus).after occurrences).bus.scheduler.Tidy ∧
      ((opened bus).after occurrences).view.Tenanted := by
  obtain ⟨start, nothing⟩ := opened_of_created created
  obtain ⟨tidy, stages⟩ := after_stages Steady start steady
  rw [nothing] at stages
  exact ⟨tidy, View.Tenanted.blank.stages steadfast stages⟩

end PlayerBus

end MapleBus
