import MapleBus.Device
import MapleBus.Proofs.Device.Reporting
import MapleBus.Proofs.Packet.Codec
import MapleBus.Proofs.Packet.InfoBlock
import MapleBus.Proofs.PlayerBus.Conduct
import MapleBus.Proofs.PlayerBus.Hosting

/-!
# How devices identify themselves

A controller, a mouse or a keyboard fixes the text of its version field when it is
built, whatever characters its serial has.  Every identification that goes out carries
the 48 words of the extended block whole, so whoever decodes the frame finds the
addresses, the information and this text.
-/

namespace MapleBus.Device

variable {Q W : Type} {serial : String}

/-! ## Version texts -/

/-- The mark and as many visible ASCII characters of the serial as fit behind it. -/
theorem toList_versionText (serial : String) :
    (versionText serial).toList =
      versionMark.toList ++ (serial.toList.filter Text.isGraphic).take 63 := by
  rw [versionText, String.toList_ofList, List.take_append]
  rfl

theorem ascii_versionText {character : Char} (mem : character ∈ (versionText serial).toList) :
    character.toNat < 128 := by
  rw [toList_versionText] at mem
  rcases List.mem_append.mp mem with mark | rest
  · have ascii : ∀ character ∈ versionMark.toList, character.toNat < 128 := by
      simp [versionMark]
    exact ascii character mark
  · exact Text.lt_of_isGraphic (List.mem_filter.mp (List.mem_of_mem_take rest)).2

/-- The last character is not padding. -/
theorem not_isPadding_of_getLast? {character : Char}
    (last : (versionText serial).toList.getLast? = some character) :
    Text.isPadding character = false := by
  rw [toList_versionText, List.getLast?_append] at last
  cases ends : ((serial.toList.filter Text.isGraphic).take 63).getLast? with
  | none =>
      rw [ends] at last
      cases last
      rfl
  | some final =>
      rw [ends] at last
      cases last
      have mem := List.mem_of_mem_take (List.mem_of_getLast? ends)
      exact Text.not_isPadding_of_isGraphic (List.mem_filter.mp mem).2

/-- The version field is read as the mark and the visible ASCII characters of the serial. -/
theorem unpad_versionText (serial : String) :
    Text.unpad (Text.pad DeviceInfo.versionLength (versionText serial)).toList =
      versionMark ++ String.ofList ((serial.toList.filter Text.isGraphic).take 63) := by
  have fits : (versionText serial).toList.length ≤ DeviceInfo.versionLength := by
    rw [versionText, String.toList_ofList]
    exact List.length_take_le _ _
  rw [Text.unpad_pad fits (fun _ => ascii_versionText) fun _ => not_isPadding_of_getLast?]
  apply String.toList_inj.mp
  rw [toList_versionText, String.toList_append, String.toList_ofList]

/-! ## Reports -/

namespace ReportLink

variable {rule : Packet → Prop} {link : ReportLink} {info : DeviceInfo}

/-- A report depends on nothing of the link but its address. -/
theorem report_congr {other : ReportLink} (same : other.address = link.address)
    (info : DeviceInfo) (version : String) (words : List UInt32) (kind : ReportKind) :
    other.report info version words kind = link.report info version words kind := by
  cases kind <;> simp only [report, identification, conditionReport, packet, host, same]

/-- Asking after the last report submits nothing. -/
theorem obeys_askOutstanding (rule : Packet → Prop) (link : ReportLink) :
    link.askOutstanding.Obeys rule fun asked => asked.2.address = link.address := by
  unfold askOutstanding
  cases link.outstanding with
  | none => exact rfl
  | some handle =>
      have asks : (Endpoint.isOutstanding handle).Obeys rule fun _ => True := fun _ => trivial
      refine Endpoint.obeys_bind asks ?_
      rintro busy -
      cases busy <;> exact rfl

theorem obeys_submit (now : UInt64) {packet : Packet} (follows : rule packet) :
    (link.submit now packet).Obeys rule fun result => result.2.address = link.address := by
  refine ⟨follows, fun answer => ?_⟩
  cases answer with
  | error refusal => exact rfl
  | ok handle => exact address_advance _ _ _

/-- A cycle of a link submits reports of this link only, and leaves it at its address. -/
theorem obeys_poll {version : String} {words : List UInt32} (now : UInt64)
    (reports : ∀ kind, rule (link.report info version words kind)) :
    (link.poll now info version words).Obeys rule fun result =>
      result.2.address = link.address := by
  refine Endpoint.obeys_bind (obeys_askOutstanding rule link) ?_
  rintro ⟨busy, asked⟩ same
  cases busy with
  | true => exact same
  | false =>
      simp only [Bool.false_eq_true, if_false]
      cases asked.due? now with
      | none => exact same
      | some kind =>
          have follows : rule (asked.report info version words kind) := by
            rw [report_congr same]
            exact reports kind
          cases kind <;>
            exact Endpoint.obeys_bind (obeys_submit now follows) fun _ stays => stays.trans same

end ReportLink

/-! ## Faces -/

/-- The version text of a device that reports by itself. -/
def version? : Device → Option String
  | .controller device => some device.version
  | .mouse device => some device.version
  | .keyboard device => some device.version
  | .storage _ | .vibration _ | .recorder _ => none

/-- What the identifications of a device show. -/
structure Face where
  address : Address
  info : DeviceInfo
  version? : Option String

def face (device : Device) : Face where
  address := Peripheral.address device
  info := Peripheral.info device
  version? := device.version?

/-- A packet that reports for a device. -/
def Reports (device : Device) (packet : Packet) : Prop :=
  ∃ (link : ReportLink) (version : String) (words : List UInt32) (kind : ReportKind),
    link.address = Peripheral.address device ∧ device.version? = some version ∧
      packet = link.report (Peripheral.info device) version words kind

theorem obeys_task_controller (controller : Controller) (now : UInt64) :
    (controller.task now).Obeys (Reports (.controller controller)) fun later =>
      face (.controller later) = face (.controller controller) := by
  refine Endpoint.obeys_bind (ReportLink.obeys_poll now fun kind =>
    ⟨controller.link, controller.version, _, kind, rfl, rfl, rfl⟩) ?_
  rintro ⟨accepted, link⟩ stays
  exact congrArg (Face.mk · Controller.info (some controller.version)) stays

theorem obeys_task_keyboard (keyboard : Keyboard) (now : UInt64) :
    (keyboard.task now).Obeys (Reports (.keyboard keyboard)) fun later =>
      face (.keyboard later) = face (.keyboard keyboard) := by
  refine Endpoint.obeys_bind (ReportLink.obeys_poll now fun kind =>
    ⟨keyboard.link, keyboard.version, _, kind, rfl, rfl, rfl⟩) ?_
  rintro ⟨accepted, link⟩ stays
  exact congrArg (Face.mk · Keyboard.info (some keyboard.version)) stays

theorem obeys_task_mouse (mouse : Mouse) (now : UInt64) :
    (mouse.task now).Obeys (Reports (.mouse mouse)) fun later =>
      face (.mouse later) = face (.mouse mouse) := by
  refine Endpoint.obeys_bind (ReportLink.obeys_poll now fun kind =>
    ⟨mouse.link, mouse.version, _, kind, rfl, rfl, rfl⟩) ?_
  rintro ⟨accepted, link⟩ stays
  have same : Face.mk link.address Mouse.info (some mouse.version) = face (.mouse mouse) :=
    congrArg (Face.mk · Mouse.info (some mouse.version)) stays
  cases accepted with
  | none => exact same
  | some kind =>
      cases kind with
      | identify => exact same
      | condition => cases outstanding : link.outstanding <;> simp only [outstanding] <;> exact same

/-- A cycle of a device that reports by itself submits its reports only, and leaves its
face alone. -/
theorem obeys_task {device : Device} (reporting : device.version?.isSome) (now : UInt64) :
    (Peripheral.task device now).Obeys device.Reports fun later => later.face = device.face := by
  cases device with
  | controller controller =>
      exact Endpoint.obeys_map (obeys_task_controller controller now) fun _ same => same
  | mouse mouse => exact Endpoint.obeys_map (obeys_task_mouse mouse now) fun _ same => same
  | keyboard keyboard =>
      exact Endpoint.obeys_map (obeys_task_keyboard keyboard now) fun _ same => same
  | storage _ | vibration _ | recorder _ => contradiction

/-- The end of a report leaves it alone. -/
theorem face_settle (link : ReportLink) (tx : Transmission) (info : DeviceInfo)
    (version? : Option String) :
    Face.mk (link.settle tx).value.address info version? = ⟨link.address, info, version?⟩ :=
  congrArg (Face.mk · info version?) (link.address_settle tx)

theorem face_failed_mouse (mouse : Mouse) (tx : Transmission) :
    face (.mouse (mouse.failed tx).value) = face (.mouse mouse) := by
  unfold Mouse.failed
  cases mouse.inFlight with
  | none => exact face_settle mouse.link tx Mouse.info (some mouse.version)
  | some carried =>
      obtain ⟨id, share⟩ := carried
      by_cases same : id = tx.id
      · simp only [same, if_true]
        exact face_settle mouse.link tx Mouse.info (some mouse.version)
      · simp only [same, if_false]
        exact face_settle mouse.link tx Mouse.info (some mouse.version)

theorem face_completed_mouse (mouse : Mouse) (tx : Transmission) :
    face (.mouse (mouse.completed tx).value) = face (.mouse mouse) := by
  unfold Mouse.completed
  cases mouse.owns tx <;> exact face_settle mouse.link tx Mouse.info (some mouse.version)

theorem face_started {device : Device} (reporting : device.version?.isSome)
    (tx : Transmission) : (Peripheral.started device tx).value.face = device.face := by
  cases device with
  | controller _ | mouse _ | keyboard _ => rfl
  | storage _ | vibration _ | recorder _ => contradiction

theorem face_failed {device : Device} (reporting : device.version?.isSome) (failure : Failure)
    (tx : Transmission) : (Peripheral.failed device failure tx).value.face = device.face := by
  cases device with
  | controller controller =>
      exact face_settle controller.link tx Controller.info (some controller.version)
  | mouse mouse => exact face_failed_mouse mouse tx
  | keyboard keyboard =>
      exact face_settle keyboard.link tx Keyboard.info (some keyboard.version)
  | storage _ | vibration _ | recorder _ => contradiction

theorem face_completed {device : Device} (reporting : device.version?.isSome)
    (reply : Option Packet) (tx : Transmission) :
    (Peripheral.completed device reply tx).value.face = device.face := by
  cases device with
  | controller controller =>
      exact face_settle controller.link tx Controller.info (some controller.version)
  | mouse mouse => exact face_completed_mouse mouse tx
  | keyboard keyboard =>
      exact face_settle keyboard.link tx Keyboard.info (some keyboard.version)
  | storage _ | vibration _ | recorder _ => contradiction

/-! ## Among others on a bus -/

/-- New snapshots are all that reaches a device that reports by itself from outside. -/
inductive Fed : Device → Device → Prop where
  | untouched (device : Device) : Fed device device
  | controller (device : Controller) (source : Source Gamepad) :
      Fed (.controller device) (.controller { device with source })
  | mouse (device : Mouse) (source : Source Mouse.Snapshot) :
      Fed (.mouse device) (.mouse { device with source })
  | keyboard (device : Keyboard) (source : Source Keyboard.Condition) :
      Fed (.keyboard device) (.keyboard { device with source })

theorem Fed.face {device fed : Device} (feeds : Fed device fed) : fed.face = device.face := by
  cases feeds <;> rfl

/-- A change from outside that feeds the devices, and changes the others in any way. -/
structure Feeds (change : Device ⊕ Q → Device ⊕ Q) : Prop where
  device : ∀ device, ∃ fed, change (.inl device) = .inl fed ∧ Fed device fed
  other : ∀ other, ∃ changed, change (.inr other) = .inr changed

/-- Devices that report by themselves keep their faces and submit their reports only.  The
others may do anything. -/
theorem conduct_of_faces [Peripheral Q] {faces : Face → Prop}
    (reporting : ∀ face, faces face → face.version?.isSome) :
    PlayerBus.Conduct (P := Device ⊕ Q) Feeds
      (Sum.elim (fun device => faces device.face) fun _ => True)
      (Sum.elim (fun device packet => device.Reports packet) fun _ _ => True) where
  task {peripheral} now has := by
    cases peripheral with
    | inl device =>
        exact Endpoint.obeys_map (obeys_task (reporting _ has) now) fun later same =>
          (congrArg faces same).mpr has
    | inr other => exact Endpoint.obeys_map (Endpoint.obeys_true _) fun _ kept => kept
  started {peripheral} tx has := by
    cases peripheral with
    | inl device => exact (congrArg faces (face_started (reporting _ has) tx)).mpr has
    | inr other => trivial
  failed {peripheral} failure tx has := by
    cases peripheral with
    | inl device => exact (congrArg faces (face_failed (reporting _ has) failure tx)).mpr has
    | inr other => trivial
  completed {peripheral} reply tx has := by
    cases peripheral with
    | inl device => exact (congrArg faces (face_completed (reporting _ has) reply tx)).mpr has
    | inr other => trivial
  influence {change} feeds {peripheral} has := by
    cases peripheral with
    | inl device =>
        obtain ⟨fed, changed, isFed⟩ := feeds.device device
        rw [changed]
        exact (congrArg faces isFed.face).mpr has
    | inr other =>
        obtain ⟨result, changed⟩ := feeds.other other
        rw [changed]
        trivial

/-! ## Identifications -/

/-- What a packet tells when a device built with a serial identifies itself by it. -/
structure Identifies (serial : String) (device : Device) (packet : Packet) : Prop where
  command : packet.command = .extDeviceInfo
  /-- It goes from the host port of the player whose the device is to the device itself. -/
  sender : packet.sender = Address.host (Peripheral.address device).player
  recipient : packet.recipient = Peripheral.address device
  words : packet.payload.words.length = 48
  info : DeviceInfo.ofWords packet.payload.words = .ok (Peripheral.info device)
  /-- The version field has the mark and the visible ASCII characters of the serial, as
  many as fit. -/
  version : ∃ field, DeviceInfo.extVersion? packet.payload.words = some field ∧
    Text.unpad field.toList =
      "Version 1.010,SN:" ++ String.ofList ((serial.toList.filter Text.isGraphic).take 63)

/-- A packet with a command of the table is read back from its frame. -/
theorem decode_encode_of_named {packet : Packet}
    (named : Command.ofCode packet.command.code = packet.command) :
    Packet.decode packet.encode = .ok packet := by
  rw [Packet.decode_encode, named]

theorem words_identification (link : ReportLink) (info : DeviceInfo) (version : String) :
    (link.identification info version).payload.words = info.toExtWords version :=
  Payload.truncate_words (by rw [DeviceInfo.length_toExtWords]; decide)

/-- The identification of a device with the text of a serial identifies it. -/
theorem identifies_identification {link : ReportLink} {device : Device} (serial : String)
    (address : link.address = Peripheral.address device) :
    Identifies serial device
      (link.identification (Peripheral.info device) (versionText serial)) := by
  have carried := words_identification link (Peripheral.info device) (versionText serial)
  constructor
  · rfl
  · rw [← address]
    rfl
  · exact address
  · rw [carried, DeviceInfo.length_toExtWords]
    rfl
  · rw [carried, DeviceInfo.ofWords_toExtWords]
  · rw [carried]
    exact ⟨_, DeviceInfo.extVersion?_toExtWords, unpad_versionText serial⟩

/-- A report that is an identification identifies whoever has the face of the device it
reports for, and is read back from its frame. -/
theorem identifies_of_reports {device origin : Device} {packet : Packet}
    (reports : device.Reports packet) (same : device.face = origin.face)
    (built : origin.version? = some (versionText serial))
    (identifies : ReportKind.ofPacket packet = .identify) :
    Packet.decode packet.encode = .ok packet ∧ Identifies serial origin packet := by
  have sameAddress : Peripheral.address device = Peripheral.address origin :=
    congrArg Face.address same
  have sameInfo : Peripheral.info device = Peripheral.info origin := congrArg Face.info same
  have sameText : device.version? = origin.version? := congrArg Face.version? same
  obtain ⟨link, version, words, kind, address, is, rfl⟩ := reports
  cases kind with
  | condition => contradiction
  | identify =>
      obtain rfl : version = versionText serial :=
        Option.some.inj (is.symm.trans (sameText.trans built))
      rw [sameInfo]
      constructor
      · exact decode_encode_of_named rfl
      · exact identifies_identification serial (address.trans sameAddress)

/-! ## Runs -/

/-- A controller, a mouse or a keyboard as it is built with a serial. -/
inductive Built (serial : String) : Device → Prop where
  | controller (player : Player) (source : Source Gamepad) (timing : Timing) :
      Built serial (.controller (.create player serial source timing))
  | mouse (address : Address) (player : Player) (source : Source Mouse.Snapshot)
      (timing : Timing) : Built serial (.mouse (.create address player serial source timing))
  | keyboard (address : Address) (player : Player) (source : Source Keyboard.Condition)
      (timing : Timing) : Built serial (.keyboard (.create address player serial source timing))

theorem Built.version? {device : Device} (built : Built serial device) :
    device.version? = some (versionText serial) := by
  cases built <;> rfl

open PlayerBus PlayerBus.Session

variable [Peripheral Q] [Wire W]

/-- On a bus with controllers, mice and keyboards, built with any serials, and any other
peripherals, whatever happens: the wire meets the frame of one transmission in a cycle at
most, which was accepted from somebody.  If that is one of the devices and the transmission
is an identification, its frame is read back as this identification, and tells the host and
the address of the device that was plugged in, its information in 48 words, and the visible
characters of its serial. -/
theorem identifies_after {settings : Settings} {wire : W} {bus : PlayerBus (Device ⊕ Q) W}
    (created : create settings wire = .ok bus) {occurrences : List (Occurrence (Device ⊕ Q) W)}
    (feeds : ∀ change, .influence change ∈ occurrences → Feeds change) :
    let session := (opened bus).after occurrences
    (∀ device, .attached (.inl device) ∈ session.journal → ∃ serial, Built serial device) →
      ∀ now arrivals tx, session.handed? now arrivals = some tx →
        let journal := (session.offering now arrivals).journal
        (session.task now arrivals).bus.wire =
            (Wire.transmit session.bus.wire tx.packet.encode tx.expectsReply).wire ∧
          (∃ author, .accepted author tx ∈ journal) ∧
          ∀ author, .accepted (.inl author) tx ∈ journal →
            ∃ device, .attached (.inl device) ∈ session.journal ∧ author.face = device.face ∧
              ∀ serial, Built serial device → ReportKind.ofPacket tx.packet = .identify →
                Packet.decode tx.packet.encode = .ok tx.packet ∧
                  Identifies serial device tx.packet := by
  intro session built now arrivals tx handed journal
  let faces (shown : Face) : Prop :=
    ∃ device, .attached (.inl device) ∈ session.journal ∧ shown = device.face
  have reporting : ∀ shown, faces shown → shown.version?.isSome := by
    rintro _ ⟨device, present, rfl⟩
    obtain ⟨serial, isBuilt⟩ := built device present
    exact Option.isSome_iff_exists.mpr ⟨_, isBuilt.version?⟩
  have conduct := conduct_of_faces (Q := Q) reporting
  have newcomers : ∀ newcomer : Device ⊕ Q, .attached newcomer ∈ session.journal →
      Sum.elim (fun device : Device => faces device.face) (fun _ => True) newcomer := by
    rintro (device | other) present
    · exact ⟨device, present, rfl⟩
    · trivial
  obtain ⟨tidy, abides⟩ := abides_after conduct created feeds newcomers
  obtain ⟨origin, vouched⟩ := vouched_of_handed conduct tidy abides newcomers handed
  refine ⟨?_, origin, ?_⟩
  · rw [wire_task, handed]
  · rintro author accepted
    obtain ⟨⟨device, present, same⟩, reports⟩ := vouched _ accepted
    refine ⟨device, present, same, fun serial isBuilt identifies => ?_⟩
    exact identifies_of_reports reports same isBuilt.version? identifies

/-- A controller whose serial has blanks, a line break and letters outside ASCII. -/
def labelled : Controller :=
  .create {} "Pß 7\n-é9" { state := {} } {}

/-- Its first report. -/
def labelledReport : Transmission where
  id := 1
  packet := labelled.link.identification Controller.info labelled.version
  expectsReply := false

/-- The controller is plugged in and reports for the first time: what goes out on the wire
has the visible ASCII characters of the serial in its version field. -/
theorem identifies_labelled :
    let occurrences : List (Occurrence (Device ⊕ Recorder) SilentWire) :=
      [.attach (.inl (.controller labelled))]
    let session := (opened (bare SilentWire.mk [])).after occurrences
    session.handed? 0 [] = some labelledReport ∧
      Packet.decode labelledReport.packet.encode = .ok labelledReport.packet ∧
      ∃ field, DeviceInfo.extVersion? labelledReport.packet.payload.words = some field ∧
        Text.unpad field.toList = "Version 1.010,SN:P7-9" := by
  intro occurrences session
  have feeds : ∀ change, .influence change ∈ occurrences → Feeds change := by
    simp [occurrences]
  have journal : session.journal = [.attached (.inl (.controller labelled))] := by rfl
  have handed : session.handed? 0 [] = some labelledReport := by rfl
  have accepted : .accepted (.inl (.controller labelled)) labelledReport ∈
      (session.offering 0 []).journal :=
    List.mem_cons_self
  have built : ∀ device, .attached (.inl device) ∈ session.journal →
      ∃ serial, Built serial device := by
    rintro device present
    rw [journal, List.mem_singleton] at present
    cases present
    exact ⟨_, .controller {} { state := {} } {}⟩
  have created : create {} SilentWire.mk = .ok (bare SilentWire.mk ([] : List Device)) := by rfl
  obtain ⟨-, -, reports⟩ := identifies_after created feeds built 0 [] labelledReport handed
  obtain ⟨device, present, -, identifies⟩ := reports _ accepted
  rw [journal, List.mem_singleton] at present
  cases present
  obtain ⟨decoded, identified⟩ := identifies _ (.controller {} { state := {} } {}) rfl
  obtain ⟨field, found, text⟩ := identified.version
  refine ⟨handed, decoded, field, found, text.trans ?_⟩
  decide +kernel

end MapleBus.Device
