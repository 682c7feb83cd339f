import MapleBus.Device.Mouse
import MapleBus.Proofs.PlayerBus.Stages

/-!
# One cycle of a reporting device

A cycle of a report link ends in one of three ways: nothing is submitted, the
bus is busy, or the report that was due occupies the bus.  Of a mouse this gives
what a cycle does to the motion: it collects a snapshot, and parts with a share
exactly when a condition report is accepted, which carries that share.
-/

namespace MapleBus.Device

variable {P : Type}

/-! ## Report links -/

namespace ReportLink

/-- The packet of a report. -/
def report (link : ReportLink) (info : DeviceInfo) (version : String)
    (words : List UInt32) : ReportKind → Packet
  | .identify => link.identification info version
  | .condition => link.conditionReport words

/-- The ways a cycle of a link can go. -/
inductive Cycle (link : ReportLink) (info : DeviceInfo) (version : String)
    (words : List UInt32) (author : P) (desk : Desk P) :
    Option ReportKind × ReportLink → Option Transmission × Journal P → Prop where
  | rested (later : ReportLink) (address : later.address = link.address) :
      Cycle link info version words author desk (none, later) desk.view
  | refused (later : ReportLink) (address : later.address = link.address) (tx : Transmission)
      (busy : desk.scheduler.occupant? = some tx) (packet : Packet) :
      Cycle link info version words author desk (none, later)
        (some tx, .refused author packet .busBusy :: desk.journal)
  | reported (later : ReportLink) (address : later.address = link.address)
      (kind : ReportKind) (handle : Handle) (outstanding : later.outstanding = some handle)
      (free : desk.scheduler.occupant? = none) (tx : Transmission)
      (carries : tx =
        { id := handle.id
          packet := link.report info version words kind
          expectsReply := false }) :
      Cycle link info version words author desk (some kind, later)
        (some tx, .accepted author tx :: desk.journal)

/-- Asking after the last report submits nothing. -/
theorem play_askOutstanding (link : ReportLink) (author : P) {desk : Desk P}
    (tidy : desk.scheduler.Tidy) :
    ∃ busy later, later.address = link.address ∧
      (link.askOutstanding.play author desk).1 = (busy, later) ∧
      (link.askOutstanding.play author desk).2.scheduler.Tidy ∧
      (link.askOutstanding.play author desk).2.view = desk.view := by
  unfold askOutstanding
  cases link.outstanding with
  | none => exact ⟨false, link, rfl, rfl, tidy, rfl⟩
  | some handle =>
      have heard : desk.listen.scheduler.Tidy := tidy.hear _
      have listened : ((Endpoint.isOutstanding handle).play author desk).2 = desk.listen := rfl
      simp only [Endpoint.play_bind]
      generalize (Endpoint.isOutstanding handle).play author desk = answered at listened ⊢
      obtain ⟨busy, middle⟩ := answered
      cases listened
      cases busy with
      | true => exact ⟨true, link, rfl, rfl, heard, rfl⟩
      | false => exact ⟨false, { link with outstanding := none }, rfl, rfl, heard, rfl⟩

theorem address_advance (link : ReportLink) (kind : ReportKind) (now : UInt64) :
    (link.advance kind now).address = link.address := by
  cases kind <;> rfl

theorem outstanding_advance (link : ReportLink) (kind : ReportKind) (now : UInt64) :
    (link.advance kind now).outstanding = link.outstanding := by
  cases kind <;> rfl

/-- A report is submitted once, and followed if it is accepted. -/
theorem play_submit (link : ReportLink) (now : UInt64) (packet : Packet) (author : P)
    {desk : Desk P} (tidy : desk.scheduler.Tidy) :
    ((link.submit now packet).play author desk).2.scheduler.Tidy ∧
      ((link.submit now packet).play author desk).1.2.address = link.address ∧
      ((∃ tx, desk.scheduler.occupant? = some tx ∧
          ((link.submit now packet).play author desk).1.1 = none ∧
          ((link.submit now packet).play author desk).2.view =
            (some tx, .refused author packet .busBusy :: desk.journal)) ∨
        (∃ handle tx, tx = { id := handle.id, packet, expectsReply := false } ∧
          desk.scheduler.occupant? = none ∧
          ((link.submit now packet).play author desk).1.1 = some handle ∧
          ((link.submit now packet).play author desk).1.2.outstanding = some handle ∧
          ((link.submit now packet).play author desk).2.view =
            (some tx, .accepted author tx :: desk.journal))) := by
  have heard : desk.listen.scheduler.Tidy := tidy.hear _
  have submitted := Desk.submit_cases heard author packet false
  simp only [submit, Endpoint.play_bind, Endpoint.play_submit]
  generalize desk.listen.submit author packet false = answered at submitted ⊢
  obtain ⟨answer, afterwards⟩ := answered
  obtain ⟨result, ⟨tx, busy, rfl, seen⟩ | ⟨tx, carries, free, rfl, seen⟩⟩ := submitted
  · exact ⟨result, rfl, Or.inl ⟨tx, busy, rfl, seen⟩⟩
  · refine ⟨result, address_advance _ _ _, Or.inr ⟨⟨0, tx.id⟩, tx, ?_, free, rfl,
      outstanding_advance _ _ _, seen⟩⟩
    rw [carries]

/-- Submitting the report that is due ends a cycle. -/
theorem cycle_of_submit {link asked : ReportLink} (address : asked.address = link.address)
    {info : DeviceInfo} {version : String} {words : List UInt32} {kind : ReportKind}
    {packet : Packet} (carries : packet = link.report info version words kind) (now : UInt64)
    (author : P) {desk middle : Desk P} (tidy : middle.scheduler.Tidy)
    (seen : middle.view = desk.view) :
    let ran := (asked.submit now packet).play author middle
    ran.2.scheduler.Tidy ∧
      Cycle link info version words author desk (ran.1.1.map fun _ => kind, ran.1.2)
        ran.2.view := by
  intro ran
  have occupant : middle.scheduler.occupant? = desk.scheduler.occupant? :=
    congrArg Prod.fst seen
  have journal : middle.journal = desk.journal := congrArg Prod.snd seen
  obtain ⟨result, stays, ⟨tx, busy, answer, written⟩ |
    ⟨handle, tx, rfl, free, answer, outstanding, written⟩⟩ :=
      asked.play_submit now packet author tidy
  · rw [answer, written, journal]
    exact ⟨result, .refused _ (stays.trans address) tx (occupant ▸ busy) packet⟩
  · rw [answer, written, journal]
    refine ⟨result, .reported _ (stays.trans address) kind handle outstanding
      (occupant ▸ free) _ ?_⟩
    rw [carries]

/-- Every cycle of a link goes one of these ways. -/
theorem play_poll (link : ReportLink) (now : UInt64) (info : DeviceInfo) (version : String)
    (words : List UInt32) (author : P) {desk : Desk P} (tidy : desk.scheduler.Tidy) :
    ((link.poll now info version words).play author desk).2.scheduler.Tidy ∧
      Cycle link info version words author desk
        ((link.poll now info version words).play author desk).1
        ((link.poll now info version words).play author desk).2.view := by
  obtain ⟨busy, asked, address, answer, result, seen⟩ := link.play_askOutstanding author tidy
  have rests : asked.address = link.address → Cycle link info version words author desk
      (none, asked) (link.askOutstanding.play author desk).2.view := by
    intro address
    rw [seen]
    exact .rested asked address
  simp only [poll, Endpoint.play_bind, answer]
  generalize (link.askOutstanding.play author desk).2 = middle at result seen rests ⊢
  cases busy with
  | true => exact ⟨result, rests address⟩
  | false =>
      simp only [Bool.false_eq_true, if_false]
      cases asked.due? now with
      | none => exact ⟨result, rests address⟩
      | some kind =>
          cases kind with
          | identify =>
              have carries : asked.identification info version =
                  link.report info version words .identify := by
                simp only [report, identification, packet, host, address]
              simp only [Endpoint.play_bind]
              exact cycle_of_submit address carries now author result seen
          | condition =>
              have carries : asked.conditionReport words =
                  link.report info version words .condition := by
                simp only [report, conditionReport, packet, host, address]
              simp only [Endpoint.play_bind]
              exact cycle_of_submit address carries now author result seen

/-- The end of a report leaves the address alone. -/
theorem address_settle (link : ReportLink) (tx : Transmission) :
    (link.settle tx).value.address = link.address := by
  unfold settle
  cases link.outstanding.any fun handle => handle.id == tx.id with
  | true | false =>
      cases tx.status with
      | failed failure => cases ReportKind.ofPacket tx.packet <;> rfl
      | pending | sent | succeeded => rfl

end ReportLink

/-! ## Mice -/

namespace Mouse

/-- The axes a mouse reports motion on. -/
inductive Axis where
  | x
  | y
  | wheel
  deriving DecidableEq, Repr

namespace Axis

/-- The motion on an axis. -/
def amount : Axis → Motion → Int
  | x, motion => motion.dx
  | y, motion => motion.dy
  | wheel, motion => motion.wheel

/-- The value of an axis in the payload of a packet.  Two axes share a word, the first
one its low half. -/
def value (axis : Axis) (packet : Packet) : Nat :=
  match axis with
  | x => (packet.payload.words.getD 2 0).toNat % 0x10000
  | y => (packet.payload.words.getD 2 0).toNat / 0x10000
  | wheel => (packet.payload.words.getD 3 0).toNat % 0x10000

/-- The motion that the payload of a packet carries on an axis. -/
def carried (axis : Axis) (packet : Packet) : Int :=
  axis.value packet - 0x200

/-- A number a thirty-two-bit accumulator can hold. -/
def Fits (value : Int) : Prop :=
  -0x80000000 ≤ value ∧ value ≤ 0x7FFFFFFF

instance (value : Int) : Decidable (Fits value) :=
  inferInstanceAs (Decidable (_ ∧ _))

theorem signed32_of_fits {value : Int} (fits : Fits value) : Saturating.signed32 value = value := by
  obtain ⟨low, high⟩ := fits
  simp only [Saturating.signed32, Saturating.between]
  omega

theorem fits_signed32 (value : Int) : Fits (Saturating.signed32 value) := by
  simp only [Fits, Saturating.signed32, Saturating.between]
  omega

variable (axis : Axis) (first second : Motion)

theorem amount_add : axis.amount (first.add second) =
    Saturating.signed32 (axis.amount first + axis.amount second) := by
  cases axis <;> rfl

theorem amount_sub : axis.amount (first.sub second) =
    Saturating.signed32 (axis.amount first - axis.amount second) := by
  cases axis <;> rfl

theorem amount_share (motion : Motion) : axis.amount motion.share =
    Saturating.between (-axisRange) axisRange (axis.amount motion) := by
  cases axis <;> rfl

/-- What is left of a motion after its share is taken away is exact. -/
theorem amount_sub_share {motion : Motion} (fits : Fits (axis.amount motion)) :
    axis.amount (motion.sub motion.share) =
      axis.amount motion - axis.amount motion.share := by
  obtain ⟨low, high⟩ := fits
  rw [amount_sub, amount_share]
  apply signed32_of_fits
  simp only [Fits, Saturating.between, axisRange]
  omega

/-- An axis value is the middle of its range plus the motion it carries. -/
theorem toNat_axisValue (delta : Int) :
    ((axisValue delta).toNat : Int) =
      0x200 + Saturating.between (-axisRange) axisRange delta := by
  have center : axisCenter.toNat = 0x200 := rfl
  simp only [axisValue, center, Saturating.between, axisRange, UInt16.toNat_ofNat']
  omega

/-- The two halves of a word of axes. -/
theorem halves_axisPair (low high : UInt16) :
    (Condition.axisPair low high).toNat % 0x10000 = low.toNat ∧
      (Condition.axisPair low high).toNat / 0x10000 = high.toNat := by
  have lowBound := low.toNat_lt
  have highBound := high.toNat_lt
  simp only [Condition.axisPair, UInt32.toNat_ofNat']
  omega

/-- The payload of a condition report holds the axis values. -/
theorem value_conditionReport (link : ReportLink) (buttons : Buttons) (motion : Motion) :
    axis.value (link.conditionReport (Condition.ofMotion buttons motion).payload) =
      (axisValue (axis.amount motion)).toNat := by
  have words : (link.conditionReport (Condition.ofMotion buttons motion).payload).payload.words =
      (Condition.ofMotion buttons motion).payload :=
    Payload.truncate_words (by simp [Condition.payload, maxPayloadWords])
  unfold value
  rw [words]
  cases axis with
  | x => exact (halves_axisPair (axisValue motion.dx) (axisValue motion.dy)).1
  | y => exact (halves_axisPair (axisValue motion.dx) (axisValue motion.dy)).2
  | wheel => exact (halves_axisPair (axisValue motion.wheel) axisCenter).1

/-- A condition report carries the share of the motion. -/
theorem carried_conditionReport (link : ReportLink) (buttons : Buttons) (motion : Motion) :
    axis.carried (link.conditionReport (Condition.ofMotion buttons motion).payload) =
      axis.amount motion.share := by
  rw [carried, value_conditionReport, toNat_axisValue, amount_share]
  omega

end Axis

/-- A packet with the payload of a condition, all axes of which are in range. -/
def IsCondition (packet : Packet) : Prop :=
  ∃ condition : Condition, packet.payload.words = condition.payload ∧
    ∀ value ∈ condition.axes, 1 ≤ value.toNat ∧ value.toNat ≤ 0x3FF

theorem isCondition_conditionReport (link : ReportLink) (buttons : Buttons)
    (motion : Motion) :
    IsCondition (link.conditionReport (Condition.ofMotion buttons motion).payload) := by
  have moved : ∀ delta, 1 ≤ (axisValue delta).toNat ∧ (axisValue delta).toNat ≤ 0x3FF := by
    intro delta
    have value := Axis.toNat_axisValue delta
    simp only [Saturating.between, axisRange] at value
    omega
  have resting : 1 ≤ axisCenter.toNat ∧ axisCenter.toNat ≤ 0x3FF := by decide
  refine ⟨_, Payload.truncate_words (by simp [Condition.payload, maxPayloadWords]), ?_⟩
  simp [Condition.ofMotion, moved, resting]

/-! ### Programs -/

/-- A mouse that has collected the motion of a snapshot. -/
def collected (mouse : Mouse) : Mouse :=
  { mouse with
    source := mouse.source.snapshot.2
    buttons := mouse.source.snapshot.1.buttons
    motion := mouse.motion.add mouse.source.snapshot.1.motion }

/-- A mouse whose link has ended its cycle.  The share of an accepted condition report
is set apart. -/
def parted (mouse : Mouse) (accepted : Option ReportKind) (link : ReportLink) : Mouse :=
  match accepted, link.outstanding with
  | some .condition, some handle =>
      { mouse with
        link
        motion := mouse.motion.sub mouse.motion.share
        inFlight := some (handle.id, mouse.motion.share) }
  | _, _ => { mouse with link }

/-- A mouse works by collecting a snapshot and reporting. -/
theorem task_eq (mouse : Mouse) (now : UInt64) :
    mouse.task now = (mouse.link.poll now info mouse.version
      mouse.collected.condition.payload) >>= fun ended =>
        pure (mouse.collected.parted ended.1 ended.2) := by
  refine congrArg (mouse.link.poll now info mouse.version
    mouse.collected.condition.payload >>= ·) (funext ?_)
  rintro ⟨accepted, ⟨address, timing, outstanding, identifyAt, reportAt⟩⟩
  rcases accepted with _ | _ | _ <;> cases outstanding <;> rfl

/-- Every cycle of a mouse is one of its link, fed with what it has collected. -/
theorem play_task (mouse : Mouse) (now : UInt64) (author : P) {desk : Desk P}
    (tidy : desk.scheduler.Tidy) :
    ((mouse.task now).play author desk).2.scheduler.Tidy ∧
      ∃ ended, ReportLink.Cycle mouse.link info mouse.version
          mouse.collected.condition.payload author desk ended
          ((mouse.task now).play author desk).2.view ∧
        ((mouse.task now).play author desk).1 = mouse.collected.parted ended.1 ended.2 := by
  obtain ⟨result, cycle⟩ := mouse.link.play_poll now info mouse.version
    mouse.collected.condition.payload author tidy
  rw [task_eq, Endpoint.play_bind]
  exact ⟨result, _, cycle, rfl⟩

/-! ### Ends -/

open PlayerBus (conclude)

variable {mouse : Mouse} {tx : Transmission} {share : Motion}

/-- The end of another transmission changes the link only. -/
theorem conclude_of_other (other : mouse.inFlight.map Prod.fst ≠ some tx.id) :
    (conclude mouse tx).value = { mouse with link := (mouse.link.settle tx).value } := by
  obtain ⟨player, source, link, version, buttons, motion, inFlight⟩ := mouse
  unfold conclude
  cases inFlight with
  | none => cases tx.status.failure? <;> rfl
  | some held =>
      have differs : ¬ held.1 = tx.id := fun same => other (congrArg some same)
      cases tx.status.failure? with
      | none =>
          change (Mouse.completed _ tx).value = _
          simp [Mouse.completed, owns, differs]
      | some failure =>
          change (Mouse.failed _ tx).value = _
          simp [Mouse.failed, differs]

/-- A report that failed gives its share back. -/
theorem conclude_of_failed (held : mouse.inFlight = some (tx.id, share)) {failure : Failure}
    (failed : tx.status.failure? = some failure) :
    (conclude mouse tx).value =
      { mouse with
        link := (mouse.link.settle tx).value
        motion := mouse.motion.add share
        inFlight := none } := by
  obtain ⟨player, source, link, version, buttons, motion, inFlight⟩ := mouse
  cases held
  simp only [conclude, failed]
  change (Mouse.failed _ tx).value = _
  simp [Mouse.failed]

/-- A report that succeeded takes its share with it. -/
theorem conclude_of_succeeded (held : mouse.inFlight = some (tx.id, share))
    (succeeded : tx.status.failure? = none) :
    (conclude mouse tx).value =
      { mouse with link := (mouse.link.settle tx).value, inFlight := none } := by
  obtain ⟨player, source, link, version, buttons, motion, inFlight⟩ := mouse
  cases held
  simp only [conclude, succeeded]
  change (Mouse.completed _ tx).value = _
  simp [Mouse.completed, owns]

end Mouse

end MapleBus.Device
