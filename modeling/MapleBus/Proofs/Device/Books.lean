import MapleBus.Proofs.Device.Reporting
import MapleBus.Proofs.PlayerBus.Custody
import Mathlib.Algebra.Ring.Int.Defs

/-!
# The books of a mouse

A journal of a bus that hosts a mouse tells what the mouse has read and what became of
its condition reports.  The books are right when what was read and neither delivered nor
dropped with a cancelled report is what is under way and what the mouse still holds, on
every axis whose accumulator does not saturate.  Everything the mouse and the
others do keeps them right.
-/

namespace MapleBus

open Journal

namespace Device.Mouse

variable {Q : Type}

/-! ## What the journal tells of a mouse -/

/-- The packets that can be condition reports. -/
def isReport (packet : Packet) : Bool :=
  packet.command == .dataTransfer

/-- The motion that a mouse reads when its program begins. -/
def snapshot? : JournalEntry (Mouse ⊕ Q) → Option Motion
  | .began (.inl reader) => some reader.source.state.motion
  | _ => none

/-- What is about to be added to the accumulator of a mouse, after what it holds. -/
def addition? : JournalEntry (Mouse ⊕ Q) → Option (Motion × Motion)
  | .began (.inl reader) => some (reader.motion, reader.source.state.motion)
  | .failed (.inl author) _ tx =>
      (author.inFlight.filter fun held => held.1 == tx.id).map fun held => (author.motion, held.2)
  | _ => none

namespace Axis

/-- The accumulator never saturates. -/
def Unsaturated (axis : Axis) (journal : Journal (Mouse ⊕ Q)) : Prop :=
  ∀ sum ∈ journal.filterMap addition?, Fits (axis.amount sum.1 + axis.amount sum.2)

namespace Unsaturated

variable {axis : Axis} {entry : JournalEntry (Mouse ⊕ Q)} {journal : Journal (Mouse ⊕ Q)}

instance : Decidable (axis.Unsaturated journal) :=
  inferInstanceAs (Decidable (∀ sum ∈ journal.filterMap addition?, Fits _))

theorem of_cons (unsaturated : axis.Unsaturated (entry :: journal)) :
    axis.Unsaturated journal := by
  rintro sum mem
  apply unsaturated
  rw [List.filterMap_cons]
  split
  · exact mem
  · exact List.mem_cons_of_mem _ mem

theorem fits {held gained : Motion} (unsaturated : axis.Unsaturated (entry :: journal))
    (adds : addition? entry = some (held, gained)) :
    Fits (axis.amount held + axis.amount gained) := by
  apply unsaturated (held, gained)
  simp only [List.filterMap_cons, adds, List.mem_cons_self]

end Unsaturated

/-- The motion that was read. -/
def read (axis : Axis) (journal : Journal (Mouse ⊕ Q)) : Int :=
  ((journal.filterMap snapshot?).map axis.amount).sum

/-- The motion that reports carry together. -/
def total (axis : Axis) (reports : List Packet) : Int :=
  (reports.map axis.carried).sum

/-- The motion that was read and neither delivered nor dropped. -/
def remaining (axis : Axis) (journal : Journal (Mouse ⊕ Q)) : Int :=
  axis.read journal - axis.total (delivered isReport journal) -
    axis.total (dropped isReport journal)

/-- The motion that is under way. -/
def underway (axis : Axis) (journal : Journal (Mouse ⊕ Q)) : Int :=
  (underway? isReport journal).elim 0 fun tx => axis.carried tx.packet

/-- The motion that a mouse has set apart. -/
def apart (axis : Axis) (mouse : Mouse) : Int :=
  mouse.inFlight.elim 0 fun held => axis.amount held.2

theorem total_cons (axis : Axis) (packet : Packet) (reports : List Packet) :
    axis.total (packet :: reports) = axis.carried packet + axis.total reports := by
  simp only [total, List.map_cons, List.sum_cons]

end Axis

/-- An accepted condition report carries as much as it can of what remains. -/
def Reports (entry : JournalEntry (Mouse ⊕ Q)) (earlier : Journal (Mouse ⊕ Q)) : Prop :=
  ∀ mouse tx, entry = .accepted (.inl mouse) tx → isReport tx.packet = true →
    ∀ axis : Axis, axis.Unsaturated earlier →
      axis.carried tx.packet = Saturating.between (-axisRange) axisRange (axis.remaining earlier)

/-! ## Books -/

/-- The books of a mouse at an address are right. -/
structure Books (address : Address) (occupant : Option Transmission)
    (journal : Journal (Mouse ⊕ Q)) (mouse : Mouse) : Prop where
  here : mouse.link.address = address
  custody : Custody isReport address occupant journal (mouse.inFlight.map Prod.fst)
  fits : ∀ axis : Axis, Axis.Fits (axis.amount mouse.motion)
  carries : ∀ tx, underway? isReport journal = some tx → IsCondition tx.packet ∧
    ∃ share, mouse.inFlight = some (tx.id, share) ∧
      ∀ axis : Axis, axis.carried tx.packet = axis.amount share
  balance : ∀ axis : Axis, axis.Unsaturated journal →
    axis.remaining journal = axis.underway journal + axis.amount mouse.motion
  transmitted : ∀ packet ∈ transmitted isReport journal, IsCondition packet
  reported : journal.Always Reports

/-- An entry after a journal that makes no difference to the accounts. -/
structure Aside (entry : JournalEntry (Mouse ⊕ Q)) (journal : Journal (Mouse ⊕ Q)) : Prop where
  snapshot : snapshot? entry = none
  underway : underway? isReport (entry :: journal) = underway? isReport journal
  transmitted : transmitted isReport (entry :: journal) = transmitted isReport journal
  delivered : delivered isReport (entry :: journal) = delivered isReport journal
  dropped : dropped isReport (entry :: journal) = dropped isReport journal
  reports : Reports entry journal

namespace Aside

variable {entry : JournalEntry (Mouse ⊕ Q)} {journal : Journal (Mouse ⊕ Q)}

theorem foreign (foreign : entry.IsForeign) : Aside entry journal where
  snapshot := by
    cases entry with
    | began peripheral => cases peripheral <;> first | rfl | exact absurd foreign id
    | _ => rfl
  underway := underway?_of_neutral foreign.isNeutral
  transmitted := by
    apply passed_cons_of_none
    cases entry <;> first | rfl | exact absurd foreign id
  delivered := by
    apply passed_cons_of_none
    cases entry <;> first | rfl | exact absurd foreign id
  dropped := by
    apply passed_cons_of_none
    cases entry <;> first | rfl | exact absurd foreign id
  reports := by
    rintro mouse tx rfl
    exact absurd foreign id

/-- What the mouse is told makes a difference by the mouse only. -/
theorem conclusion (mouse : Mouse) (tx : Transmission) :
    Aside (.conclusion (.inl mouse) tx) journal := by
  unfold JournalEntry.conclusion
  cases tx.status.failure? with
  | none => exact ⟨rfl, rfl, rfl, rfl, rfl, by rintro _ _ ⟨⟩⟩
  | some failure => exact ⟨rfl, rfl, rfl, rfl, rfl, by rintro _ _ ⟨⟩⟩

/-- While nothing is under way, and unless a condition report is accepted, nothing but a
snapshot makes a difference. -/
theorem idle (idle : underway? isReport journal = none)
    (still : underway? isReport (entry :: journal) = none) (unread : snapshot? entry = none) :
    Aside entry journal where
  snapshot := unread
  underway := still.trans idle.symm
  transmitted := passed_cons_of_idle idle
  delivered := passed_cons_of_idle idle
  dropped := passed_cons_of_idle idle
  reports := by
    rintro mouse tx rfl isReport
    simp [underway?, isReport] at still

end Aside

namespace Books

variable {address : Address} {occupant later : Option Transmission}
  {journal : Journal (Mouse ⊕ Q)} {mouse : Mouse} {tx : Transmission}
  {entry : JournalEntry (Mouse ⊕ Q)}

theorem aside (books : Books address occupant journal mouse) (aside : Aside entry journal)
    (custody : Custody isReport address later (entry :: journal) (mouse.inFlight.map Prod.fst)) :
    Books address later (entry :: journal) mouse where
  here := books.here
  custody := custody
  fits := books.fits
  carries := by
    rw [aside.underway]
    exact books.carries
  balance := by
    intro axis unsaturated
    have before := books.balance axis unsaturated.of_cons
    simp only [Axis.remaining, Axis.read, Axis.underway, List.filterMap_cons, aside.snapshot,
      aside.underway, aside.delivered, aside.dropped] at before ⊢
    exact before
  transmitted := by
    rw [aside.transmitted]
    exact books.transmitted
  reported := ⟨aside.reports, books.reported⟩

theorem foreign (books : Books address occupant journal mouse) (foreign : entry.IsForeign) :
    Books address occupant (entry :: journal) mouse :=
  books.aside (.foreign foreign) (books.custody.neutral foreign.isNeutral)

/-- The books of a mouse that was just plugged in. -/
theorem start (here : mouse.link.address = address) (resting : mouse.motion = {})
    (idle : mouse.inFlight = none) (occupant : Option Transmission) :
    Books address occupant ([] : Journal (Mouse ⊕ Q)) mouse where
  here := here
  custody := by
    rw [idle]
    exact .start occupant
  fits := by
    intro axis
    rw [resting]
    cases axis <;> exact ⟨by decide, by decide⟩
  carries := by simp [underway?]
  balance := by
    intro axis _
    rw [resting]
    cases axis <;> rfl
  transmitted := List.forall_mem_nil _
  reported := trivial

/-- While no condition report was cancelled, the share that is set apart is under way. -/
theorem apart_eq (books : Books address occupant journal mouse)
    (undisturbed : dropped isReport journal = []) (axis : Axis) :
    axis.apart mouse = axis.underway journal := by
  unfold Axis.apart Axis.underway
  cases underway : underway? isReport journal with
  | none =>
      have nothing : mouse.inFlight = none :=
        Option.map_eq_none_iff.mp (books.custody.held_eq_none underway undisturbed)
      rw [nothing]
      rfl
  | some tx =>
      rcases (books.carries tx underway).2 with ⟨share, held, carries⟩
      rw [held]
      exact (carries axis).symm

/-- The link of a mouse and its source before it is read are none of the books' business. -/
theorem frame (books : Books address occupant journal mouse) {link : ReportLink}
    {source : Source Snapshot} (same : link.address = mouse.link.address) :
    Books address occupant journal { mouse with link, source } where
  here := same.trans books.here
  custody := books.custody
  fits := books.fits
  carries := books.carries
  balance := books.balance
  transmitted := books.transmitted
  reported := books.reported

/-! ### Work -/

/-- A mouse reads a snapshot. -/
theorem collect (books : Books address occupant journal mouse) :
    Books address occupant (.began (.inl mouse) :: journal) mouse.collected where
  here := books.here
  custody := books.custody.neutral trivial
  fits := by
    intro axis
    change Axis.Fits (axis.amount (mouse.motion.add mouse.source.state.motion))
    rw [Axis.amount_add]
    exact Axis.fits_signed32 _
  carries := books.carries
  balance := by
    intro axis unsaturated
    have before := books.balance axis unsaturated.of_cons
    have collected : axis.amount mouse.collected.motion =
        axis.amount mouse.motion + axis.amount mouse.source.state.motion := by
      change axis.amount (mouse.motion.add mouse.source.state.motion) = _
      rw [Axis.amount_add]
      exact Axis.signed32_of_fits (unsaturated.fits rfl)
    have remaining : axis.remaining (.began (.inl mouse) :: journal) =
        axis.amount mouse.source.state.motion + axis.remaining journal := by
      have read : axis.read (.began (.inl mouse) :: journal) =
          axis.amount mouse.source.state.motion + axis.read journal := by
        simp only [Axis.read, snapshot?, List.filterMap_cons, List.map_cons, List.sum_cons]
      have delivered : delivered isReport (.began (.inl mouse) :: journal) =
          delivered isReport journal := passed_cons_of_none rfl
      have dropped : dropped isReport (.began (.inl mouse) :: journal) =
          dropped isReport journal := passed_cons_of_none rfl
      rw [Axis.remaining, read, delivered, dropped, Axis.remaining]
      omega
    have underway : axis.underway (.began (.inl mouse) :: journal) = axis.underway journal := rfl
    rw [remaining, underway, collected, before]
    omega
  transmitted := books.transmitted
  reported := ⟨by rintro _ _ ⟨⟩, books.reported⟩

/-- A condition report is accepted, and its share is set apart. -/
theorem accept_condition (books : Books address none journal mouse) {author : Mouse}
    {link : ReportLink} (same : link.address = mouse.link.address) {tx : Transmission}
    (report : tx.packet = mouse.link.conditionReport mouse.condition.payload) :
    Books address (some tx) (.accepted (.inl author) tx :: journal)
      { mouse with
        link
        motion := mouse.motion.sub mouse.motion.share
        inFlight := some (tx.id, mouse.motion.share) } := by
  have idle := books.custody.idle_of_free
  have left (axis : Axis) : axis.amount (mouse.motion.sub mouse.motion.share) =
      axis.amount mouse.motion - axis.amount mouse.motion.share :=
    Axis.amount_sub_share axis (books.fits axis)
  -- The payload was built before the share was split off, and carries just that share.
  have carries (axis : Axis) : axis.carried tx.packet = axis.amount mouse.motion.share := by
    rw [report]
    exact Axis.carried_conditionReport axis mouse.link mouse.buttons mouse.motion
  have ofKind : isReport tx.packet = true := by
    rw [report]
    rfl
  have recipient : tx.recipient = address := by
    rw [Transmission.recipient, report]
    exact books.here
  have underway : underway? isReport (.accepted (.inl author) tx :: journal) = some tx := by
    simp only [underway?, ofKind, if_true]
  constructor
  · exact same.trans books.here
  · exact .accept_own author ofKind recipient
  · intro axis
    rw [Axis.amount_sub]
    exact Axis.fits_signed32 _
  · rintro other underway'
    rw [underway] at underway'
    cases underway'
    constructor
    · rw [report]
      exact isCondition_conditionReport mouse.link mouse.buttons mouse.motion
    · exact ⟨mouse.motion.share, rfl, carries⟩
  · intro axis unsaturated
    have before := books.balance axis unsaturated.of_cons
    have remaining : axis.remaining (.accepted (.inl author) tx :: journal) =
        axis.remaining journal := rfl
    simp only [remaining, Axis.underway, underway, idle, Option.elim_some, Option.elim_none,
      carries, left] at before ⊢
    omega
  · exact books.transmitted
  · constructor
    · rintro _ _ ⟨⟩ - axis unsaturated
      have before := books.balance axis unsaturated
      simp only [Axis.underway, idle, Option.elim_none, Int.zero_add] at before
      rw [carries, Axis.amount_share, before]
    · exact books.reported

/-- A cycle of the link of a mouse keeps the books. -/
theorem turn {desk : Desk (Mouse ⊕ Q)} {version : String} {author : Mouse}
    (books : Books address desk.scheduler.occupant? desk.journal mouse)
    {ended : Option ReportKind × ReportLink}
    {later : Option Transmission × Journal (Mouse ⊕ Q)}
    (cycle : ReportLink.Cycle mouse.link info version mouse.condition.payload (.inl author)
      desk ended later) (clear : Clear isReport later.2) :
    Books address later.1 later.2 (mouse.parted ended.1 ended.2) := by
  cases cycle with
  | rested link same => exact books.frame same
  | refused link same tx busy packet =>
      rw [busy] at books
      apply (books.frame same).aside
      · exact ⟨rfl, rfl, rfl, rfl, rfl, by rintro _ _ ⟨⟩⟩
      · exact books.custody.neutral trivial
  | reported link same kind handle outstanding free tx carries =>
      rw [free] at books
      cases kind with
      | identify =>
          have other : underway? isReport (.accepted (.inl author) tx :: desk.journal) = none := by
            rw [carries]
            rfl
          apply (books.frame same).aside
          · exact .idle books.custody.idle_of_free other rfl
          · exact books.custody.accept_other other clear
      | condition =>
          have parted : mouse.parted (some .condition) link =
              { mouse with
                link
                motion := mouse.motion.sub mouse.motion.share
                inFlight := some (tx.id, mouse.motion.share) } := by
            simp only [Mouse.parted, outstanding, carries]
          rw [parted]
          apply books.accept_condition same
          rw [carries]
          rfl

/-! ### What happens to the occupant -/

/-- Somebody else's submission is accepted. -/
theorem accept_other (books : Books address none journal mouse) (other : Q)
    (clear : Clear isReport (.accepted (.inr other) tx :: journal)) :
    Books address (some tx) (.accepted (.inr other) tx :: journal) mouse :=
  books.aside (.idle books.custody.idle_of_free rfl rfl) (books.custody.accept_other rfl clear)

/-- The occupant is cancelled.  The motion of a condition report is dropped. -/
theorem cancel (books : Books address (some tx) journal mouse) :
    Books address none (.cancelled tx :: journal) mouse := by
  cases underway : underway? isReport journal with
  | none => exact books.aside (.idle underway rfl rfl) books.custody.cancel
  | some report =>
      have packet := (books.custody.of_underway underway).2.1
      constructor
      · exact books.here
      · exact books.custody.cancel
      · exact books.fits
      · simp [underway?]
      · intro axis unsaturated
        have before := books.balance axis unsaturated.of_cons
        have remaining : axis.remaining (.cancelled tx :: journal) =
            axis.remaining journal - axis.carried tx.packet := by
          have read : axis.read (.cancelled tx :: journal) = axis.read journal := rfl
          have delivered : delivered isReport (.cancelled tx :: journal) =
              delivered isReport journal := passed_cons_of_none rfl
          have dropped : dropped isReport (.cancelled tx :: journal) =
              tx.packet :: dropped isReport journal := passed_cons_of_underway rfl underway
          rw [Axis.remaining, read, delivered, dropped, Axis.total_cons, Axis.remaining]
          omega
        have carried : axis.underway journal = axis.carried tx.packet := by
          rw [Axis.underway, underway, Option.elim_some, packet]
        change axis.remaining (.cancelled tx :: journal) = 0 + axis.amount mouse.motion
        rw [remaining, before, carried]
        omega
      · exact books.transmitted
      · exact ⟨by rintro _ _ ⟨⟩, books.reported⟩

/-- The wire takes the occupant. -/
theorem send (books : Books address (some tx) journal mouse) (status : Status) :
    Books address (some { tx with status }) (.sent { tx with status } :: journal) mouse := by
  have custody := books.custody.send status
  cases underway : underway? isReport journal with
  | none => exact books.aside (.idle underway underway rfl) custody
  | some report =>
      have packet := (books.custody.of_underway underway).2.1
      have condition := (books.carries report underway).1
      rw [← packet] at condition
      constructor
      · exact books.here
      · exact custody
      · exact books.fits
      · exact books.carries
      · intro axis unsaturated
        exact books.balance axis unsaturated.of_cons
      · rw [Journal.transmitted, passed_cons_of_underway rfl underway]
        exact List.forall_mem_cons.mpr ⟨condition, books.transmitted⟩
      · exact ⟨by rintro _ _ ⟨⟩, books.reported⟩

/-- The occupant ends while no condition report is under way. -/
theorem lose (books : Books address (some tx) journal mouse)
    (idle : underway? isReport journal = none) (ended : Transmission) :
    Books address none (.settled ended :: journal) mouse := by
  apply books.aside
  · exact .idle idle rfl rfl
  · exact books.custody.settle_other idle ended

/-- The condition report under way failed. -/
theorem conclude_failed (books : Books address (some tx) journal mouse) {report : Transmission}
    (underway : underway? isReport journal = some report) (failure : Failure) :
    Books address none
      (.failed (.inl mouse) failure { tx with status := .failed failure } ::
        .settled { tx with status := .failed failure } :: journal)
      (PlayerBus.conclude mouse { tx with status := .failed failure }).value := by
  rcases books.custody.of_underway underway with ⟨remembered, packet, -⟩
  rcases (books.carries report underway).2 with ⟨share, held, carries⟩
  have same : report.id = tx.id := by simpa [held] using remembered
  rw [same] at held
  have ended : (PlayerBus.conclude mouse { tx with status := .failed failure }).value = _ :=
    conclude_of_failed held rfl
  rw [ended]
  constructor
  · exact (ReportLink.address_settle _ _).trans books.here
  · exact books.custody.conclude_own underway (.inl mouse)
      { tx with status := .failed failure }
  · intro axis
    rw [Axis.amount_add]
    exact Axis.fits_signed32 _
  · simp [underway?]
  · intro axis unsaturated
    have before := books.balance axis unsaturated.of_cons.of_cons
    have fits : Axis.Fits (axis.amount mouse.motion + axis.amount share) := by
      apply unsaturated.fits
      simp [addition?, held]
    have restored : axis.amount (mouse.motion.add share) =
        axis.amount mouse.motion + axis.amount share := by
      rw [Axis.amount_add]
      exact Axis.signed32_of_fits fits
    have carried : axis.underway journal = axis.amount share := by
      rw [Axis.underway, underway, Option.elim_some]
      exact carries axis
    have remaining : axis.remaining (.failed (.inl mouse) failure
        { tx with status := .failed failure } ::
          .settled { tx with status := .failed failure } :: journal) =
        axis.remaining journal := rfl
    change _ = 0 + axis.amount (mouse.motion.add share)
    rw [remaining, restored, before, carried]
    omega
  · exact books.transmitted
  · exact ⟨by rintro _ _ ⟨⟩, by rintro _ _ ⟨⟩, books.reported⟩

/-- The condition report under way succeeded. -/
theorem conclude_succeeded (books : Books address (some tx) journal mouse)
    {report : Transmission} (underway : underway? isReport journal = some report)
    (reply : Option Packet) :
    Books address none
      (.completed (.inl mouse) reply { tx with status := .succeeded reply } ::
        .settled { tx with status := .succeeded reply } :: journal)
      (PlayerBus.conclude mouse { tx with status := .succeeded reply }).value := by
  rcases books.custody.of_underway underway with ⟨remembered, packet, -⟩
  rcases (books.carries report underway).2 with ⟨share, held, -⟩
  have same : report.id = tx.id := by simpa [held] using remembered
  rw [same] at held
  have ended : (PlayerBus.conclude mouse { tx with status := .succeeded reply }).value = _ :=
    conclude_of_succeeded held rfl
  rw [ended]
  constructor
  · exact (ReportLink.address_settle _ _).trans books.here
  · exact books.custody.conclude_own underway (.inl mouse)
      { tx with status := .succeeded reply }
  · exact books.fits
  · simp [underway?]
  · intro axis unsaturated
    have before := books.balance axis unsaturated.of_cons.of_cons
    have carried : axis.underway journal = axis.carried tx.packet := by
      rw [Axis.underway, underway, Option.elim_some, packet]
    have delivered : delivered isReport
        (.settled { tx with status := .succeeded reply } :: journal) =
        tx.packet :: delivered isReport journal := passed_cons_of_underway rfl underway
    have remaining : axis.remaining (.completed (.inl mouse) reply
        { tx with status := .succeeded reply } ::
          .settled { tx with status := .succeeded reply } :: journal) =
        axis.remaining journal - axis.carried tx.packet := by
      change axis.read journal - axis.total (Journal.delivered isReport
        (.settled { tx with status := .succeeded reply } :: journal)) -
          axis.total (dropped isReport journal) = _
      rw [delivered, Axis.total_cons, Axis.remaining]
      omega
    change _ = 0 + axis.amount mouse.motion
    rw [remaining, before, carried]
    omega
  · exact books.transmitted
  · exact ⟨by rintro _ _ ⟨⟩, by rintro _ _ ⟨⟩, books.reported⟩

/-- The occupant ends, and the mouse is told. -/
theorem conclude (books : Books address (some tx) journal mouse) {status : Status}
    (terminal : status.isTerminal = true) :
    Books address none
      (.conclusion (.inl mouse) { tx with status } :: .settled { tx with status } :: journal)
      (PlayerBus.conclude mouse { tx with status }).value := by
  cases underway : underway? isReport journal with
  | none =>
      have settled := books.lose underway { tx with status }
      have other : mouse.inFlight.map Prod.fst ≠ some ({ tx with status } : Transmission).id :=
        books.custody.held_ne underway
      rw [conclude_of_other other]
      apply (settled.frame (ReportLink.address_settle _ _)).aside
      · exact .conclusion mouse _
      · exact settled.custody.neutral (JournalEntry.isNeutral_conclusion _ _)
  | some report =>
      cases status with
      | pending | sent => contradiction
      | succeeded reply => exact books.conclude_succeeded underway reply
      | failed failure => exact books.conclude_failed underway failure

end Books

end Device.Mouse

end MapleBus
