import MapleBus.Proofs.Device.Storing
import MapleBus.Proofs.PlayerBus.Recounting

/-!
# Storage devices answer their requests

A request that a storage device takes opens a case, which is closed by the first
transmission of it that succeeds or by the third one that fails.  Until then no other
request is taken and everything the device transmits carries the request; when the case is
closed, its result is left in the mailbox.
-/

namespace MapleBus.Device.Storage

open Journal PlayerBus

variable {Q W : Type}

/-! ## Calls -/

/-- What is called through the handle of a storage device. -/
inductive Call where
  | ask (request : Request)
  | takeBlock
  | takeFault

def serve : Call → Storage → Storage
  | .ask request, device => (device.post request).2
  | .takeBlock, device => { device with mailbox := device.mailbox.takeBlock.2 }
  | .takeFault, device => { device with mailbox := device.mailbox.takeFault.2 }

theorem served_serve (call : Call) (storage : Storage) : Served storage (serve call storage) := by
  cases call with
  | ask request => exact .posted storage request
  | takeBlock => exact .blockTaken storage
  | takeFault => exact .faultTaken storage

/-! ## Cases -/

/-- A request that was taken, and how many transmissions of it were accepted and failed. -/
structure Case where
  request : Request
  sent : Nat := 0
  failed : Nat := 0

namespace Case

/-- The answer that the end of a transmission brings. -/
def answer? (geometry : Geometry) (case : Case) : Status → Option (Except Fault Answer)
  | .failed failure =>
      if case.failed + 1 < maxAttempts then none else some (.error (.transfer failure))
  | .succeeded reply => some (interpret geometry case.request reply)
  | _ => none

/-- The case after the end of a transmission, unless that is answered. -/
def after? (case : Case) : Status → Option Case
  | .failed _ =>
      if case.failed + 1 < maxAttempts then some { case with failed := case.failed + 1 } else none
  | _ => none

end Case

variable (origin : Storage)

/-- The request that was taken last, until it is answered. -/
def case? : Tale Storage Q Call → Option Case
  | [] => origin.mailbox.request.map fun request => { request }
  | .called device (.ask request) :: earlier =>
      if (device.post request).1 then some { request } else case? earlier
  | .called _ _ :: earlier => case? earlier
  | .entry (.accepted (.inl _) _) :: earlier =>
      (case? earlier).map fun case => { case with sent := case.sent + 1 }
  | .entry entry :: earlier =>
      match Tale.ending? (.entry entry) earlier with
      | none => case? earlier
      | some status => (case? earlier).bind fun case => case.after? status

/-- The answer that a record brings. -/
def answer? (record : Record Storage Q Call) (earlier : Tale Storage Q Call) :
    Option (Except Fault Answer) := do
  let status ← Tale.ending? record earlier
  let case ← case? origin earlier
  case.answer? origin.geometry status

/-- What the calls and the answers leave in the mailbox. -/
def contents : Tale Storage Q Call → Mailbox
  | [] => origin.mailbox
  | .called device (.ask request) :: earlier =>
      if (device.post request).1 then
        { contents earlier with request := some request, fault := none }
      else
        contents earlier
  | .called _ .takeBlock :: earlier => { contents earlier with block := none }
  | .called _ .takeFault :: earlier => { contents earlier with fault := none }
  | .entry entry :: earlier =>
      match answer? origin (.entry entry) earlier with
      | none => contents earlier
      | some result => (contents earlier).publish result

/-! ## What is answered -/

/-- The request is gone, a result is written in its place, and the other places are left as
they are. -/
inductive Written (former : Mailbox) : Except Fault Answer → Mailbox → Prop where
  | media (media : MediaInfo) :
      Written former (.ok (.media media)) { former with request := none, media := some media }
  | block (block : Block) :
      Written former (.ok (.block block)) { former with request := none, block := some block }
  | fault (fault : Fault) :
      Written former (.error fault) { former with request := none, fault := some fault }

theorem written_publish (former : Mailbox) (result : Except Fault Answer) :
    Written former result (former.publish result) := by
  rcases result with fault | (media | block)
  · exact .fault fault
  · exact .media media
  · exact .block block

theorem number_of_readData {geometry : Geometry} {request : Request} {words : List UInt32}
    {block : Block} (reads : readData geometry request words = .ok (.block block)) :
    request = .readBlock block.number := by
  cases request with
  | mediaInfo =>
      simp only [readData] at reads
      split at reads <;> cases reads
  | readBlock number =>
      cases words with
      | nil => contradiction
      | cons location data =>
          simp only [readData] at reads
          split at reads
          · contradiction
          · cases reads
            rfl

/-- A block answers the request for it only. -/
theorem number_of_interpret {geometry : Geometry} {request : Request} {reply : Option Packet}
    {block : Block} (answers : interpret geometry request reply = .ok (.block block)) :
    request = .readBlock block.number := by
  cases reply with
  | none => contradiction
  | some reply =>
      simp only [interpret] at answers
      split at answers
      · split at answers
        · contradiction
        · split at answers
          · exact number_of_readData answers
          · contradiction
      · contradiction
      · contradiction

/-- The ways the end of a transmission of a case can be taken: it is tried again, or given up
after the last attempt, or its reply is interpreted. -/
inductive Case.Ends (geometry : Geometry) (case : Case) (former later : Mailbox) :
    Status → Option Case → Prop where
  | retried (failure : Failure) (few : case.failed + 1 < maxAttempts) (same : later = former) :
      Ends geometry case former later (.failed failure)
        (some { case with failed := case.failed + 1 })
  | abandoned (failure : Failure) (last : case.failed + 1 = maxAttempts)
      (written : Written former (.error (.transfer failure)) later) :
      Ends geometry case former later (.failed failure) none
  | answered (reply : Packet)
      (written : Written former (interpret geometry case.request (some reply)) later)
      (numbered : ∀ block, interpret geometry case.request (some reply) = .ok (.block block) →
        case.request = .readBlock block.number) :
      Ends geometry case former later (.succeeded (some reply)) none

/-- What a storage device does at a record of its tale. -/
structure Serves (record : Record Storage Q Call) (earlier : Tale Storage Q Call) : Prop where
  /-- The mailbox is as the tale tells, and busy while a request is unanswered. -/
  shown : ∀ storage, record.device? = some storage →
    storage.mailbox = contents origin earlier ∧
      storage.mailbox.isBusy = (case? origin earlier).isSome
  /-- A request is taken if and only if none is unanswered. -/
  asked : ∀ storage request, record = .called storage (.ask request) →
    (storage.post request).1 = (case? origin earlier).isNone
  /-- Only an unanswered request is transmitted, three times at most. -/
  transmitted : ∀ storage tx, record = .entry (.accepted (.inl storage) tx) →
    ∃ case, case? origin earlier = some case ∧ case.sent < maxAttempts ∧
      tx.packet.command = case.request.command ∧
      tx.packet.payload.words = [FunctionSet.storage.bits, case.request.location]
  /-- Whatever ends is a transmission of an unanswered request. -/
  ended : ∀ status, Tale.ending? record earlier = some status →
    ∃ case, case? origin earlier = some case ∧ case.sent = case.failed + 1 ∧
      case.Ends origin.geometry (contents origin earlier) (contents origin (record :: earlier))
        status (case? origin (record :: earlier))

/-! ## Keeping to the tale -/

/-- A storage device is as its tale tells. -/
structure Keeps (tale : Tale Storage Q Call) (storage : Storage) : Prop where
  definitionWord : storage.definitionWord = origin.definitionWord
  mailbox : storage.mailbox = contents origin tale
  request : storage.mailbox.request = (case? origin tale).map Case.request
  attempts : storage.attempts = (case? origin tale).elim 0 Case.failed
  counts : ∀ case, case? origin tale = some case →
    case.failed < maxAttempts ∧ case.sent = case.failed + if tale.flying?.isSome then 1 else 0
  carried : ∀ own, tale.flying? = some own → ∃ handle case,
    case? origin tale = some case ∧ storage.inFlight = some (handle, case.request)
  serves : tale.Always (Serves origin)

variable {origin}

section Steps

variable {storage : Storage} {tale : Tale Storage Q Call} {request : Request}
  {entry : JournalEntry (Storage ⊕ Q)} {tx own : Transmission}

theorem case?_entry (apart : ∀ storage tx, entry ≠ .accepted (.inl storage) tx) :
    case? origin (.entry entry :: tale) =
      match Tale.ending? (.entry entry) tale with
      | none => case? origin tale
      | some status => (case? origin tale).bind fun case => case.after? status := by
  cases entry with
  | accepted author tx =>
      cases author with
      | inl storage => exact absurd rfl (apart storage tx)
      | inr other => rfl
  | _ => rfl

/-- An end goes to the case that is open. -/
theorem case?_of_ends {case : Case} (opened : case? origin tale = some case) {status : Status}
    (ends : Tale.ending? (.entry entry) tale = some status) :
    case? origin (.entry entry :: tale) = case.after? status := by
  rw [case?_entry (Tale.apart_of_ends ends), ends, opened]
  rfl

theorem answer?_of_ends {case : Case} (opened : case? origin tale = some case) {status : Status}
    (ends : Tale.ending? (.entry entry) tale = some status) :
    answer? origin (.entry entry) tale = case.answer? origin.geometry status := by
  rw [answer?, ends, opened]
  rfl

theorem post_of_busy (busy : storage.mailbox.isBusy = true) (request : Request) :
    storage.post request = (false, storage) := by
  simp only [post, Mailbox.post, busy, if_true]

theorem post_of_idle (idle : storage.mailbox.isBusy = false) (request : Request) :
    storage.post request = (true, { storage with
      mailbox := { storage.mailbox with request := some request, fault := none } }) := by
  simp only [post, Mailbox.post, idle, Bool.false_eq_true, if_false]

theorem failed_of_owned (owned : storage.owned? tx = some request) (failure : Failure) :
    (storage.failed failure tx).value =
      if storage.attempts + 1 < maxAttempts then
        { storage with inFlight := none, attempts := storage.attempts + 1 }
      else
        { storage with
          inFlight := none
          attempts := 0
          mailbox := storage.mailbox.publish (.error (.transfer failure)) } := by
  unfold failed
  rw [owned]
  simp only
  split <;> rfl

theorem completed_of_owned (owned : storage.owned? tx = some request) (reply : Option Packet) :
    (storage.completed reply tx).value =
      { storage with
        inFlight := none
        attempts := 0
        mailbox := storage.mailbox.publish (interpret storage.geometry request reply) } := by
  unfold completed
  rw [owned]
  rfl

namespace Keeps

theorem start (fresh : origin.attempts = 0) :
    Keeps (Q := Q) origin [] origin where
  definitionWord := rfl
  mailbox := rfl
  request := by simp [case?, Function.comp_def]
  attempts := by
    rw [fresh]
    cases wanted : origin.mailbox.request <;> simp [case?, wanted]
  counts := by
    rintro case opened
    rcases Option.map_eq_some_iff.mp opened with ⟨request, -, rfl⟩
    have room : 0 < maxAttempts := by decide
    exact ⟨room, rfl⟩
  carried := by
    rintro own ⟨⟩
  serves := Tale.always_nil

theorem isBusy (keeps : Keeps origin tale storage) :
    storage.mailbox.isBusy = (case? origin tale).isSome := by
  rw [Mailbox.isBusy, keeps.request, Option.isSome_map]

/-- Nothing is in flight while no request is unanswered. -/
theorem idle_of_closed (keeps : Keeps origin tale storage) (closed : case? origin tale = none) :
    tale.flying? = none := by
  cases flying : tale.flying? with
  | none => rfl
  | some own =>
      rcases keeps.carried own flying with ⟨handle, case, opened, -⟩
      rw [closed] at opened
      contradiction

/-! ### Calls -/

theorem serves_called (keeps : Keeps origin tale storage) (call : Call) :
    Serves origin (.called storage call) tale where
  shown := by
    rintro _ ⟨⟩
    exact ⟨keeps.mailbox, keeps.isBusy⟩
  asked := by
    rintro _ request ⟨⟩
    cases opened : case? origin tale with
    | none =>
        have idle : storage.mailbox.isBusy = false := by rw [keeps.isBusy, opened]; rfl
        rw [post_of_idle idle]
        rfl
    | some case =>
        have busy : storage.mailbox.isBusy = true := by rw [keeps.isBusy, opened]; rfl
        rw [post_of_busy busy]
        rfl
  transmitted := by
    rintro _ tx ⟨⟩
  ended := by
    rintro status ends
    cases Tale.outcome?_of_ends ends

/-- A record that opens and closes no case leaves the case as it is. -/
theorem onward (keeps : Keeps origin tale storage) {record : Record Storage Q Call}
    {mailbox : Mailbox} (opened : case? origin (record :: tale) = case? origin tale)
    (flying : Tale.flying? (record :: tale) = tale.flying?)
    (same : mailbox.request = storage.mailbox.request)
    (left : mailbox = contents origin (record :: tale)) (serves : Serves origin record tale) :
    Keeps origin (record :: tale) { storage with mailbox } where
  definitionWord := keeps.definitionWord
  mailbox := left
  request := by
    rw [opened]
    exact same.trans keeps.request
  attempts := by
    rw [opened]
    exact keeps.attempts
  counts := by
    rw [opened, flying]
    exact keeps.counts
  carried := by
    rw [opened, flying]
    exact keeps.carried
  serves := keeps.serves.cons serves

/-- A request is refused while another one is unanswered. -/
theorem refuse (keeps : Keeps origin tale storage) (busy : storage.mailbox.isBusy = true)
    (request : Request) :
    Keeps origin (.called storage (.ask request) :: tale) (storage.post request).2 := by
  have refused := post_of_busy busy request
  rw [refused]
  apply keeps.onward
  · rw [case?, refused]
    rfl
  · rfl
  · rfl
  · rw [contents, refused]
    exact keeps.mailbox
  · exact keeps.serves_called _

/-- A request is taken while none is unanswered. -/
theorem take (keeps : Keeps origin tale storage) (idle : storage.mailbox.isBusy = false)
    (request : Request) :
    Keeps origin (.called storage (.ask request) :: tale) (storage.post request).2 := by
  have taken := post_of_idle idle request
  have closed : case? origin tale = none := by
    rw [← Option.isNone_iff_eq_none, ← Option.not_isSome, ← keeps.isBusy, idle]
    rfl
  have opened : case? origin (.called storage (.ask request) :: tale) = some { request } := by
    rw [case?, taken]
    rfl
  have quiet : Tale.flying? (.called storage (.ask request) :: tale) = none :=
    keeps.idle_of_closed closed
  have attempts := keeps.attempts
  rw [closed] at attempts
  rw [taken]
  constructor
  · exact keeps.definitionWord
  · rw [contents, taken, keeps.mailbox]
    rfl
  · rw [opened]
    rfl
  · rw [opened]
    exact attempts
  · rw [opened, quiet]
    rintro _ ⟨⟩
    have room : 0 < maxAttempts := by decide
    exact ⟨room, rfl⟩
  · rw [quiet]
    rintro own ⟨⟩
  · exact keeps.serves.cons (keeps.serves_called _)

theorem called (keeps : Keeps origin tale storage) (call : Call) :
    Keeps origin (.called storage call :: tale) (serve call storage) := by
  cases call with
  | ask request =>
      cases busy : storage.mailbox.isBusy with
      | true => exact keeps.refuse busy request
      | false => exact keeps.take busy request
  | takeBlock =>
      have left : storage.mailbox.takeBlock.2 =
          contents origin (.called storage .takeBlock :: tale) := by
        rw [contents, ← keeps.mailbox]
        rfl
      exact keeps.onward rfl rfl rfl left (keeps.serves_called _)
  | takeFault =>
      have left : storage.mailbox.takeFault.2 =
          contents origin (.called storage .takeFault :: tale) := by
        rw [contents, ← keeps.mailbox]
        rfl
      exact keeps.onward rfl rfl rfl left (keeps.serves_called _)

/-! ### Entries -/

theorem pass (keeps : Keeps origin tale storage) (passes : entry.Passes tale storage) :
    Keeps origin (.entry entry :: tale) storage := by
  rcases passes with ⟨apart, endless, flying, shown⟩
  apply keeps.onward
  · rw [case?_entry apart, endless]
  · exact flying
  · rfl
  · rw [contents, answer?, endless]
    exact keeps.mailbox
  · constructor
    · rintro device isShown
      cases shown device isShown
      exact ⟨keeps.mailbox, keeps.isBusy⟩
    · rintro _ _ ⟨⟩
    · rintro author tx ⟨⟩
      exact absurd rfl (apart author tx)
    · rintro status ends
      rw [endless] at ends
      contradiction

/-- The request is carried while there is an attempt left. -/
theorem serves_accepted (keeps : Keeps origin tale storage) {case : Case}
    (opened : case? origin tale = some case) (room : case.sent < maxAttempts) (handle : Handle) :
    Serves origin (.entry (.accepted (.inl storage)
      { id := handle.id, packet := storage.packet case.request, expectsReply := true })) tale where
  shown := by
    rintro _ ⟨⟩
    exact ⟨keeps.mailbox, keeps.isBusy⟩
  asked := by
    rintro _ _ ⟨⟩
  transmitted := by
    rintro _ tx ⟨⟩
    exact ⟨case, opened, room, rfl, rfl⟩
  ended := by
    rintro status ends
    cases Tale.outcome?_of_ends ends

/-- The request is submitted. -/
theorem submit (keeps : Keeps origin tale storage) (idle : tale.flying? = none)
    {packet : Packet} (offered : storage.offer? = some packet) (handle : Handle) :
    Keeps origin
      (.entry (.accepted (.inl storage) { id := handle.id, packet, expectsReply := true }) :: tale)
      (storage.submitted handle) := by
  rcases Option.map_eq_some_iff.mp offered with ⟨request, wanted, rfl⟩
  have asked := keeps.request
  rw [wanted] at asked
  rcases Option.map_eq_some_iff.mp asked.symm with ⟨case, opened, rfl⟩
  have counts := keeps.counts case opened
  have attempts := keeps.attempts
  rw [idle] at counts
  rw [opened] at attempts
  have sent : case? origin (.entry (.accepted (.inl storage)
      { id := handle.id, packet := storage.packet case.request, expectsReply := true }) :: tale) =
      some { case with sent := case.sent + 1 } := by
    rw [case?, opened]
    rfl
  have silent : answer? origin (.entry (.accepted (.inl storage)
      { id := handle.id, packet := storage.packet case.request, expectsReply := true })) tale =
      none := by
    rw [answer?, Tale.ending?_of_no_end rfl]
    rfl
  constructor
  · exact keeps.definitionWord
  · rw [contents, silent]
    exact keeps.mailbox
  · rw [sent]
    exact wanted
  · rw [sent]
    exact attempts
  · rw [sent]
    rintro _ ⟨⟩
    exact ⟨counts.1, congrArg Nat.succ counts.2⟩
  · rintro own ⟨⟩
    rw [sent]
    refine ⟨handle, _, rfl, ?_⟩
    rw [submitted, wanted]
    rfl
  · have room : case.sent < maxAttempts := counts.2 ▸ counts.1
    exact keeps.serves.cons (keeps.serves_accepted opened room handle)

/-! ### Ends -/

/-- What is in flight carries the request of the case. -/
theorem owned (keeps : Keeps origin tale storage) (flying : tale.flying? = some own)
    (held : (follower.held storage).map Handle.id = some tx.id) :
    ∃ case, case? origin tale = some case ∧ storage.owned? tx = some case.request ∧
      case.failed < maxAttempts ∧ case.sent = case.failed + 1 ∧ storage.attempts = case.failed := by
  rcases keeps.carried own flying with ⟨handle, case, opened, inFlight⟩
  have counts := keeps.counts case opened
  have attempts := keeps.attempts
  rw [flying] at counts
  rw [opened] at attempts
  refine ⟨case, opened, ?_, counts.1, counts.2, attempts⟩
  have all := (filter_of_own held).1
  exact (congrArg (Option.map Prod.snd) (all.trans inFlight)).trans rfl

theorem serves_end (keeps : Keeps origin tale storage)
    (shown : entry.device? = some storage) {case : Case} (opened : case? origin tale = some case)
    (sent : case.sent = case.failed + 1) {status : Status}
    (ends : Tale.ending? (.entry entry) tale = some status)
    (told : case.Ends origin.geometry (contents origin tale)
      (contents origin (.entry entry :: tale)) status (case? origin (.entry entry :: tale))) :
    Serves origin (.entry entry) tale where
  shown := by
    rintro device isShown
    cases shown.symm.trans isShown
    exact ⟨keeps.mailbox, keeps.isBusy⟩
  asked := by
    rintro _ _ ⟨⟩
  transmitted := by
    rintro author tx ⟨⟩
    exact absurd rfl (Tale.apart_of_ends ends author tx)
  ended := by
    rintro other isEnd
    cases ends.symm.trans isEnd
    exact ⟨case, opened, sent, told⟩

/-- A failure that is not the last one. -/
theorem retry (keeps : Keeps origin tale storage) (flying : tale.flying? = some own) {case : Case}
    (opened : case? origin tale = some case) (sent : case.sent = case.failed + 1)
    (few : case.failed + 1 < maxAttempts) (failure : Failure) (tx : Transmission) :
    Keeps origin (.entry (.failed (.inl storage) failure tx) :: tale)
      { storage with inFlight := none, attempts := case.failed + 1 } := by
  have ends : Tale.ending? (.entry (.failed (.inl storage) failure tx)) tale =
      some (.failed failure) :=
    Tale.ending?_of_flying flying
  have later : case? origin (.entry (.failed (.inl storage) failure tx) :: tale) =
      some { case with failed := case.failed + 1 } := by
    rw [case?_of_ends opened ends]
    exact if_pos few
  have silent : answer? origin (.entry (.failed (.inl storage) failure tx)) tale = none := by
    rw [answer?_of_ends opened ends]
    exact if_pos few
  have left : contents origin (.entry (.failed (.inl storage) failure tx) :: tale) =
      contents origin tale := by
    rw [contents, silent]
  constructor
  · exact keeps.definitionWord
  · rw [left]
    exact keeps.mailbox
  · have asked := keeps.request
    rw [opened] at asked
    rw [later]
    exact asked
  · rw [later]
    rfl
  · rw [later]
    rintro _ ⟨⟩
    exact ⟨few, sent⟩
  · rintro _ ⟨⟩
  · apply keeps.serves.cons
    apply keeps.serves_end rfl opened sent ends
    rw [later, left]
    exact .retried failure few rfl

/-- An end that is answered. -/
theorem answer (keeps : Keeps origin tale storage)
    (shown : entry.device? = some storage) {case : Case} (opened : case? origin tale = some case)
    (sent : case.sent = case.failed + 1) {status : Status}
    (ends : Tale.ending? (.entry entry) tale = some status)
    {result : Except Fault Answer} (answers : case.answer? origin.geometry status = some result)
    (closes : case.after? status = none)
    (told : ∀ {later}, Written (contents origin tale) result later →
      case.Ends origin.geometry (contents origin tale) later status none) :
    Keeps origin (.entry entry :: tale)
      { storage with
        inFlight := none, attempts := 0, mailbox := storage.mailbox.publish result } := by
  have closed : case? origin (.entry entry :: tale) = none := by
    rw [case?_of_ends opened ends]
    exact closes
  have brought : answer? origin (.entry entry) tale = some result := by
    rw [answer?_of_ends opened ends]
    exact answers
  have left : contents origin (.entry entry :: tale) = (contents origin tale).publish result := by
    rw [contents, brought]
  constructor
  · exact keeps.definitionWord
  · rw [left, keeps.mailbox]
  · rw [closed]
    rcases result with fault | (media | block) <;> rfl
  · rw [closed]
    rfl
  · rw [closed]
    rintro _ ⟨⟩
  · rw [Tale.flying?_of_ends ends]
    rintro _ ⟨⟩
  · apply keeps.serves.cons
    apply keeps.serves_end shown opened sent ends
    rw [closed, left]
    exact told (written_publish _ result)

theorem failed (keeps : Keeps origin tale storage) (flying : tale.flying? = some own)
    (held : (follower.held storage).map Handle.id = some tx.id) (failure : Failure) :
    Keeps origin (.entry (.failed (.inl storage) failure tx) :: tale)
      (Peripheral.failed storage failure tx).value := by
  rcases keeps.owned flying held with ⟨case, opened, owned, room, sent, attempts⟩
  change Keeps origin _ (storage.failed failure tx).value
  rw [failed_of_owned owned failure, attempts]
  split
  · exact keeps.retry flying opened sent ‹_› failure tx
  · have last : case.failed + 1 = maxAttempts := by omega
    apply keeps.answer rfl opened sent (Tale.ending?_of_flying flying)
    · exact if_neg ‹_›
    · exact if_neg ‹_›
    · exact fun written => .abandoned failure last written

theorem completed (keeps : Keeps origin tale storage) (flying : tale.flying? = some own)
    (held : (follower.held storage).map Handle.id = some tx.id) (reply : Packet) :
    Keeps origin (.entry (.completed (.inl storage) (some reply) tx) :: tale)
      (Peripheral.completed storage (some reply) tx).value := by
  rcases keeps.owned flying held with ⟨case, opened, owned, -, sent, -⟩
  have geometry : storage.geometry = origin.geometry := by
    rw [Storage.geometry, keeps.definitionWord, Storage.geometry]
  change Keeps origin _ (storage.completed (some reply) tx).value
  rw [completed_of_owned owned (some reply), geometry]
  apply keeps.answer rfl opened sent (Tale.ending?_of_flying flying) rfl rfl
  exact fun written => .answered reply written fun _ => number_of_interpret

end Keeps

end Steps

theorem upkeep (origin : Storage) :
    follower.Upkeep Served serve (Keeps origin : Tale Storage Q Call → Storage → Prop) where
  lawful := lawful
  served := served_serve
  called call keeps := keeps.called call
  passed keeps passes := keeps.pass passes
  rested {_ storage} now keeps _ nothing := by
    have forgotten : storage.inFlight = none := Option.map_eq_none_iff.mp nothing
    have same : follower.rests storage now = storage := by
      change { storage with inFlight := none } = storage
      rw [← forgotten]
    rw [same]
    exact keeps
  submitted handle keeps _ idle _ offered := keeps.submit idle offered handle
  failed failure keeps flying held := keeps.failed flying held failure
  completed reply keeps flying held := keeps.completed flying held reply

/-! ## Runs -/

/-- A storage device answers what it is asked. -/
structure Answers (origin : Storage) (telling : Telling Storage Q W Call) : Prop where
  told : telling.tale.journal = telling.session.journal
  now : ∃ storage, telling.session.bus.peripherals.filterMap Sum.getLeft? = [storage] ∧
    storage.mailbox = contents origin telling.tale ∧
      storage.mailbox.isBusy = (case? origin telling.tale).isSome
  paired : telling.tale.Always Record.IsPaired
  serves : telling.tale.Always (Serves origin)

/-- In every run with calls in which none of its pending work is cancelled, a storage device
takes a request exactly when none is unanswered, transmits it one transmission at a time and
three times at most, and answers it once. -/
theorem answers_after [Peripheral Q] [Wire W] (stationary : Stationary Q) {origin : Storage}
    {telling : Telling Storage Q W Call} (recounts : telling.Recounts serve origin)
    (idle : origin.inFlight = none) (fresh : origin.attempts = 0)
    (undisturbed : dropped anything telling.session.journal = []) :
    Answers origin telling := by
  have nothing : follower.held origin = none := Option.map_eq_none_iff.mpr idle
  rcases recounts.attends stationary (upkeep origin) nothing (.start fresh) undisturbed with
    ⟨told, storage, alone, attends⟩
  constructor
  · exact told
  · exact ⟨storage, alone, attends.keeps.mailbox, attends.keeps.isBusy⟩
  · exact attends.paired
  · exact attends.keeps.serves

/-- A storage device that was not asked for anything yet. -/
def unasked : Storage :=
  { address := ⟨0x20⟩, player := {}, definitionWord := 0 }

/-- A reply with four bytes of the fifth block. -/
def fifthBlock : Packet :=
  .carrying .dataTransfer (.host 0) ⟨0x20⟩ [FunctionSet.storage.bits, 5, 0x01020304]

/-- The media info is asked for and fails three times, while a block is refused.  In the cycle
of the third failure the block is asked for again, and then it is answered. -/
def asking : List (Move Storage Recorder SilentWire Call) :=
  [ .call (.ask .mediaInfo), .call (.ask (.readBlock 5)), .occur (.task 0 []),
    .cycle 1 [[.writeFailed]] [] [], .cycle 2 [[.writeFailed]] [] [],
    .cycle 3 [[.writeFailed]] [.ask (.readBlock 5)] [],
    .occur (.task 4 [[.replyReceived fifthBlock.encode]]) ]

theorem answers_asking :
    let telling := (Telling.opened (bare {} [unasked])).after serve asking
    dropped anything telling.session.journal = [] ∧
      contents unasked telling.tale = { block := some { number := 5, data := [1, 2, 3, 4] } } ∧
        Answers unasked telling := by
  intro telling
  have undisturbed : dropped anything telling.session.journal = [] := by
    decide +kernel
  have left : contents unasked telling.tale =
      { block := some { number := 5, data := [1, 2, 3, 4] } } := by
    decide +kernel
  have recounts : telling.Recounts serve unasked := by
    apply Telling.recounts_bare rfl
    · simp [asking]
    · decide +kernel
  exact ⟨undisturbed, left,
    answers_after steadfast_recorder.stationary recounts rfl rfl undisturbed⟩

end MapleBus.Device.Storage
