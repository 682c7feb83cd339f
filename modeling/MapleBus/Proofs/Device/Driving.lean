import MapleBus.Proofs.Device.Vibrating
import MapleBus.Proofs.PlayerBus.Recounting

/-!
# Vibration packs drive the latest effect

An effect waits in the mailbox until its transmission is accepted, or a newer one takes its
place.  From then on it is the one that the pack drives: it is transmitted again while it
fails, three times at most, and never once a newer effect was queued.  The mailbox counts
the transmissions that were acknowledged and tells of those that were given up or refused.
-/

namespace MapleBus.Device.Vibration

open Journal PlayerBus

variable {Q W : Type}

/-! ## Calls -/

/-- What is called through the handle of a vibration pack.  Sending, starting and stopping at
once queue an effect for time zero. -/
inductive Call where
  | queue (time : UInt64) (effect : Effect)
  | takeFault

def serve : Call → Vibration → Vibration
  | .queue time effect, pack => pack.post time effect
  | .takeFault, pack => { pack with mailbox := pack.mailbox.takeFault.2 }

theorem driven_serve (call : Call) (pack : Vibration) : Driven pack (serve call pack) := by
  cases call with
  | queue time effect => exact .posted pack time effect
  | takeFault => exact .faultTaken pack

/-! ## Drives -/

/-- An effect that is driven: how many transmissions of it were accepted and failed, and
whether a newer effect was queued since the first one. -/
structure Drive where
  effect : Effect
  sent : Nat := 1
  failed : Nat := 0
  superseded : Bool := false

/-- The fault that the end of a transmission brings. -/
def Drive.fault? (drive : Drive) : Status → Option Fault
  | .failed failure =>
      if drive.failed + 1 < maxAttempts then none else some (.transfer failure)
  | .succeeded (some reply) =>
      if reply.command = .ack then none else some (.refused reply.command)
  | _ => none

variable (origin : Vibration)

/-- The effect that waits, if its time has come. -/
def dueAt? (clock : Option UInt64) (waiting : Option (UInt64 × Effect)) : Option Effect :=
  clock.bind fun now => (waiting.filter fun waits => waits.1 ≤ now).map Prod.snd

/-- The effect that waits, and its time. -/
def queued? : Tale Vibration Q Call → Option (UInt64 × Effect)
  | [] => origin.mailbox.queued
  | .called _ (.queue time effect) :: _ => some (time, effect)
  | .called _ .takeFault :: earlier => queued? earlier
  | .entry (.accepted (.inl _) _) :: earlier =>
      if (dueAt? (Tale.clock? earlier) (queued? earlier)).isSome then none else queued? earlier
  | .entry _ :: earlier => queued? earlier

/-- The effect that is due. -/
def due? (tale : Tale Vibration Q Call) : Option Effect :=
  dueAt? tale.clock? (queued? origin tale)

/-- The effect that is driven: the one that was due when a transmission was accepted, or else
the same as before, or else a stop. -/
def drive? : Tale Vibration Q Call → Option Drive
  | [] => none
  | .called _ (.queue _ _) :: earlier =>
      (drive? earlier).map fun drive => { drive with superseded := true }
  | .called _ .takeFault :: earlier => drive? earlier
  | .entry (.accepted (.inl _) _) :: earlier =>
      match due? origin earlier, drive? earlier with
      | some effect, _ => some { effect }
      | none, some drive => some { drive with sent := drive.sent + 1 }
      | none, none => some { effect := .stop }
  | .entry entry :: earlier =>
      match Tale.ending? (.entry entry) earlier with
      | some (.failed _) =>
          (drive? earlier).map fun drive => { drive with failed := drive.failed + 1 }
      | _ => drive? earlier

/-- How many transmissions were acknowledged. -/
def acknowledged : Tale Vibration Q Call → Nat
  | [] => 0
  | record :: earlier =>
      match Tale.ending? record earlier with
      | some (.succeeded (some reply)) =>
          if reply.command = .ack then acknowledged earlier + 1 else acknowledged earlier
      | _ => acknowledged earlier

/-- The fault that a record brings. -/
def raised? (record : Record Vibration Q Call) (earlier : Tale Vibration Q Call) :
    Option Fault := do
  let status ← Tale.ending? record earlier
  let drive ← drive? origin earlier
  drive.fault? status

/-- The fault that was raised last, until it is taken or an effect is queued. -/
def fault? : Tale Vibration Q Call → Option Fault
  | [] => origin.mailbox.fault
  | .called _ _ :: _ => none
  | .entry entry :: earlier => (raised? origin (.entry entry) earlier).or (fault? earlier)

/-- What the calls, the submissions and the ends leave in the mailbox. -/
def contents (tale : Tale Vibration Q Call) : Mailbox where
  queued := queued? origin tale
  delivered := Saturating.word32 (origin.mailbox.delivered.toNat + acknowledged tale)
  fault := fault? origin tale

/-! ## What is driven -/

/-- A transmission carries an effect. -/
def Carries (tx : Transmission) (effect : Effect) : Prop :=
  tx.packet.command = .setCondition ∧
    tx.packet.payload.words = [FunctionSet.vibration.bits, effect.word]

/-- What may be transmitted: the effect that is due; else the one that is driven, if all its
transmissions failed, they were less than three, and none is queued; else, if nothing was
transmitted yet, a stop. -/
inductive Chosen (tale : Tale Vibration Q Call) (tx : Transmission) : Prop where
  | due (now time : UInt64) (effect : Effect) (clock : tale.clock? = some now)
      (waits : queued? origin tale = some (time, effect)) (isDue : time ≤ now)
      (carries : Carries tx effect)
  | again (drive : Drive) (driven : drive? origin tale = some drive)
      (nothing : queued? origin tale = none) (latest : drive.superseded = false)
      (failed : drive.sent = drive.failed) (few : drive.sent < maxAttempts)
      (carries : Carries tx drive.effect)
  | first (nothing : drive? origin tale = none) (early : due? origin tale = none)
      (carries : Carries tx .stop)

/-- The ways the end of a transmission can be taken. -/
inductive Drive.Ends (drive : Drive) (former later : Mailbox) : Status → Prop where
  | failed (failure : Failure) (few : drive.failed + 1 < maxAttempts) (same : later = former) :
      Ends drive former later (.failed failure)
  | abandoned (failure : Failure) (last : drive.failed + 1 = maxAttempts)
      (raised : later = { former with fault := some (.transfer failure) }) :
      Ends drive former later (.failed failure)
  | acknowledged (reply : Packet) (ack : reply.command = .ack)
      (counted : later =
        { former with delivered := Saturating.word32 (former.delivered.toNat + 1) }) :
      Ends drive former later (.succeeded (some reply))
  | refused (reply : Packet) (other : reply.command ≠ .ack)
      (raised : later = { former with fault := some (.refused reply.command) }) :
      Ends drive former later (.succeeded (some reply))

/-- What a vibration pack does at a record of its tale. -/
structure Drives (record : Record Vibration Q Call) (earlier : Tale Vibration Q Call) : Prop where
  /-- The mailbox is as the tale tells. -/
  shown : ∀ pack, record.device? = some pack → pack.mailbox = contents origin earlier
  /-- An effect waits until it is transmitted, not before its time, or replaced. -/
  waits : ∀ time effect, queued? origin earlier = some (time, effect) →
    queued? origin (record :: earlier) = some (time, effect) ∨
      (∃ pack later newer, record = .called pack (.queue later newer)) ∨
      ∃ pack tx now, record = .entry (.accepted (.inl pack) tx) ∧ earlier.clock? = some now ∧
        time ≤ now ∧ Carries tx effect
  transmitted : ∀ pack tx, record = .entry (.accepted (.inl pack) tx) → Chosen origin earlier tx
  /-- Whatever ends is a transmission of the effect that is driven. -/
  ended : ∀ status, Tale.ending? record earlier = some status →
    ∃ drive, drive? origin earlier = some drive ∧ drive.sent = drive.failed + 1 ∧
      drive.sent ≤ maxAttempts ∧
      drive.Ends (contents origin earlier) (contents origin (record :: earlier)) status

/-! ## Keeping to the tale -/

/-- A vibration pack is as its tale tells.  The effect it drives is under way, or to be
repeated, or finished. -/
structure Keeps (tale : Tale Vibration Q Call) (pack : Vibration) : Prop where
  mailbox : pack.mailbox = contents origin tale
  flying : ∀ own, tale.flying? = some own → pack.retry = none ∧
    ∃ handle drive, drive? origin tale = some drive ∧ pack.inFlight = some (handle, drive.effect) ∧
      drive.sent = drive.failed + 1 ∧ pack.attempts = drive.failed ∧ drive.failed < maxAttempts
  spent : tale.flying? = none → pack.retry = none → pack.attempts = 0
  repeated : ∀ effect, tale.flying? = none → pack.retry = some effect →
    ∃ drive, drive? origin tale = some drive ∧ drive.effect = effect ∧
      drive.sent = drive.failed ∧ pack.attempts = drive.failed ∧ drive.failed < maxAttempts
  first : pack.first = (drive? origin tale).isNone
  superseded : ∀ drive, drive? origin tale = some drive → drive.superseded = true →
    queued? origin tale ≠ none
  drives : tale.Always (Drives origin)

variable {origin}

/-- A pack submits an effect that is driven from then on. -/
structure Drive.IsNext (drive : Drive) (pack : Vibration) (effect : Effect) : Prop where
  effect : drive.effect = effect
  sent : drive.sent = drive.failed + 1
  attempts : pack.supersede.attempts = drive.failed
  room : drive.failed < maxAttempts
  latest : drive.superseded = false

/-- A submission may be made, and its effect is driven from then on. -/
structure Begins (origin : Vibration) (tale : Tale Vibration Q Call) (pack : Vibration)
    (tx : Transmission) (effect : Effect) : Prop where
  chosen : Chosen origin tale tx
  driven : ∃ drive, drive? origin (.entry (.accepted (.inl pack) tx) :: tale) = some drive ∧
    drive.IsNext pack effect

section Steps

variable {pack : Vibration} {tale : Tale Vibration Q Call} {effect : Effect}
  {entry : JournalEntry (Vibration ⊕ Q)} {tx own : Transmission} {now : UInt64}

theorem queued?_entry (apart : ∀ author tx, entry ≠ .accepted (.inl author) tx) :
    queued? origin (.entry entry :: tale) = queued? origin tale := by
  cases entry with
  | accepted author tx =>
      cases author with
      | inl pack => exact absurd rfl (apart pack tx)
      | inr other => rfl
  | _ => rfl

theorem drive?_entry (apart : ∀ author tx, entry ≠ .accepted (.inl author) tx) :
    drive? origin (.entry entry :: tale) =
      match Tale.ending? (.entry entry) tale with
      | some (.failed _) =>
          (drive? origin tale).map fun drive => { drive with failed := drive.failed + 1 }
      | _ => drive? origin tale := by
  cases entry with
  | accepted author tx =>
      cases author with
      | inl pack => exact absurd rfl (apart pack tx)
      | inr other => rfl
  | _ => rfl

/-- A failed transmission counts for the effect that is driven. -/
theorem drive?_of_failed {drive : Drive} (driven : drive? origin tale = some drive)
    {failure : Failure} (ends : Tale.ending? (.entry entry) tale = some (.failed failure)) :
    drive? origin (.entry entry :: tale) = some { drive with failed := drive.failed + 1 } := by
  rw [drive?_entry (Tale.apart_of_ends ends), ends, driven]
  rfl

theorem drive?_of_succeeded {drive : Drive} (driven : drive? origin tale = some drive)
    {reply : Option Packet} (ends : Tale.ending? (.entry entry) tale = some (.succeeded reply)) :
    drive? origin (.entry entry :: tale) = some drive := by
  rw [drive?_entry (Tale.apart_of_ends ends), ends, driven]

theorem fault?_of_ends {drive : Drive} (driven : drive? origin tale = some drive)
    {status : Status} (ends : Tale.ending? (.entry entry) tale = some status) :
    fault? origin (.entry entry :: tale) = (drive.fault? status).or (fault? origin tale) := by
  rw [fault?, raised?, ends, driven]
  rfl

/-- Without a submission, an end or a call the mailbox is left as it is. -/
theorem contents_of_endless (apart : ∀ author tx, entry ≠ .accepted (.inl author) tx)
    (endless : Tale.ending? (.entry entry) tale = none) :
    contents origin (.entry entry :: tale) = contents origin tale := by
  rw [contents, queued?_entry apart, acknowledged, fault?, raised?, endless]
  rfl

theorem failed_of_owned (owned : pack.owned? tx = some effect) (failure : Failure) :
    (pack.failed failure tx).value =
      if pack.attempts + 1 < maxAttempts then
        { pack with inFlight := none, attempts := pack.attempts + 1, retry := some effect }
      else
        { pack with
          inFlight := none
          attempts := 0
          mailbox := pack.mailbox.publish (.error (.transfer failure)) } := by
  unfold failed
  rw [owned]
  simp only
  split <;> rfl

theorem completed_of_owned (owned : pack.owned? tx = some effect) (reply : Option Packet) :
    (pack.completed reply tx).value =
      { pack with
        inFlight := none
        attempts := 0
        mailbox := pack.mailbox.publish (interpret reply) } := by
  unfold completed
  rw [owned]
  simp only
  split <;> rfl

theorem interpret_of_ack {reply : Packet} (ack : reply.command = .ack) :
    interpret (some reply) = .ok () := by
  simp only [interpret, Option.map_some, ack]

theorem interpret_of_other {reply : Packet} (other : reply.command ≠ .ack) :
    interpret (some reply) = .error (.refused reply.command) := by
  unfold interpret
  split
  · contradiction
  · rename_i is
    exact absurd (Option.some.inj is) other
  · rename_i is
    cases is
    rfl

/-- A repetition is given up when an effect is queued. -/
theorem supersede_of_queued (waits : pack.mailbox.queued ≠ none) :
    pack.supersede = { pack with retry := none, attempts := 0 } :=
  if_pos (Option.isSome_iff_ne_none.mpr waits)

theorem supersede_of_empty (empty : pack.mailbox.queued = none) : pack.supersede = pack := by
  rw [supersede, Mailbox.isPending, empty]
  rfl

theorem first_supersede : pack.supersede.first = pack.first := by
  rcases pack.supersede_cases with same | same <;> rw [same]

theorem dueAt?_eq_some_iff {clock : Option UInt64} {waiting : Option (UInt64 × Effect)} :
    dueAt? clock waiting = some effect ↔
      ∃ now time, clock = some now ∧ waiting = some (time, effect) ∧ time ≤ now := by
  simp only [dueAt?, Option.bind_eq_some_iff, Option.map_eq_some_iff, Option.filter_eq_some_iff,
    decide_eq_true_eq]
  constructor
  · rintro ⟨now, rfl, ⟨time, _⟩, ⟨waits, due⟩, rfl⟩
    exact ⟨now, time, rfl, waits, due⟩
  · rintro ⟨now, time, rfl, waits, due⟩
    exact ⟨now, rfl, (time, effect), ⟨waits, due⟩, rfl⟩

namespace Keeps

theorem start (fresh : origin.first = true) (quiet : origin.retry = none)
    (untried : origin.attempts = 0) : Keeps (Q := Q) origin [] origin where
  mailbox := by
    rw [contents, acknowledged, Nat.add_zero, Saturating.word32_toNat]
    rfl
  flying := by
    rintro own ⟨⟩
  spent _ _ := untried
  repeated := by
    rintro effect - again
    rw [quiet] at again
    contradiction
  first := fresh
  superseded := by
    rintro drive ⟨⟩
  drives := Tale.always_nil

/-! ### Calls -/

theorem drives_called (keeps : Keeps origin tale pack) (call : Call) :
    Drives origin (.called pack call) tale where
  shown := by
    rintro _ ⟨⟩
    exact keeps.mailbox
  waits := by
    rintro time effect waits
    cases call with
    | queue later newer => exact .inr (.inl ⟨pack, later, newer, rfl⟩)
    | takeFault => exact .inl waits
  transmitted := by
    rintro _ tx ⟨⟩
  ended := by
    rintro status ends
    cases Tale.outcome?_of_ends ends

theorem queue (keeps : Keeps origin tale pack) (time : UInt64) (effect : Effect) :
    Keeps origin (.called pack (.queue time effect) :: tale) (pack.post time effect) := by
  have driven : drive? origin (.called pack (.queue time effect) :: tale) =
      (drive? origin tale).map fun drive => { drive with superseded := true } :=
    rfl
  constructor
  · change pack.mailbox.post time effect = _
    rw [contents, acknowledged, Tale.ending?_of_no_end rfl, keeps.mailbox]
    rfl
  · rintro own flying
    rcases keeps.flying own flying with ⟨quiet, handle, drive, isDriven, rest⟩
    rw [driven, isDriven]
    exact ⟨quiet, handle, _, rfl, rest⟩
  · exact keeps.spent
  · rintro again idle is
    rcases keeps.repeated again idle is with ⟨drive, isDriven, rest⟩
    rw [driven, isDriven]
    exact ⟨_, rfl, rest⟩
  · rw [driven, Option.isNone_map]
    exact keeps.first
  · rintro drive - - ⟨⟩
  · exact keeps.drives.cons (keeps.drives_called _)

/-- A record that drives nothing else leaves the drive as it is. -/
theorem onward (keeps : Keeps origin tale pack) {record : Record Vibration Q Call}
    {mailbox : Mailbox} (driven : drive? origin (record :: tale) = drive? origin tale)
    (waiting : queued? origin (record :: tale) = queued? origin tale)
    (flying : Tale.flying? (record :: tale) = tale.flying?)
    (left : mailbox = contents origin (record :: tale)) (drives : Drives origin record tale) :
    Keeps origin (record :: tale) { pack with mailbox } where
  mailbox := left
  flying := by
    rw [flying, driven]
    exact keeps.flying
  spent := by
    rw [flying]
    exact keeps.spent
  repeated := by
    rw [flying, driven]
    exact keeps.repeated
  first := by
    rw [driven]
    exact keeps.first
  superseded := by
    rw [driven, waiting]
    exact keeps.superseded
  drives := keeps.drives.cons drives

theorem takeFault (keeps : Keeps origin tale pack) :
    Keeps origin (.called pack .takeFault :: tale)
      { pack with mailbox := pack.mailbox.takeFault.2 } := by
  have left : pack.mailbox.takeFault.2 = contents origin (.called pack .takeFault :: tale) := by
    rw [contents, acknowledged, Tale.ending?_of_no_end rfl, keeps.mailbox]
    rfl
  exact keeps.onward rfl rfl rfl left (keeps.drives_called _)

/-! ### Entries -/

theorem pass (keeps : Keeps origin tale pack) (passes : entry.Passes tale pack) :
    Keeps origin (.entry entry :: tale) pack := by
  rcases passes with ⟨apart, endless, flying, shown⟩
  have driven : drive? origin (.entry entry :: tale) = drive? origin tale := by
    rw [drive?_entry apart, endless]
  apply keeps.onward driven
  · exact queued?_entry apart
  · exact flying
  · rw [contents_of_endless apart endless]
    exact keeps.mailbox
  · constructor
    · rintro device isShown
      cases shown device isShown
      exact keeps.mailbox
    · rintro time effect waits
      rw [queued?_entry apart]
      exact .inl waits
    · rintro author tx ⟨⟩
      exact absurd rfl (apart author tx)
    · rintro status ends
      rw [endless] at ends
      contradiction

/-! ### Submissions -/

/-- Superseding a repetition loses nothing that was told. -/
theorem rest (keeps : Keeps origin tale pack) (idle : tale.flying? = none) :
    Keeps origin tale pack.supersede := by
  rcases pack.supersede_cases with same | same
  · rw [same]
    exact keeps
  · rw [same]
    constructor
    · exact keeps.mailbox
    · rintro own flying
      rw [idle] at flying
      contradiction
    · exact fun _ _ => rfl
    · rintro effect - ⟨⟩
    · exact keeps.first
    · exact keeps.superseded
    · exact keeps.drives

theorem due?_eq (keeps : Keeps origin tale pack) (clock : tale.clock? = some now) :
    due? origin tale = pack.mailbox.due? now := by
  rw [due?, clock, keeps.mailbox]
  rfl

/-- An effect that is due begins to be driven. -/
theorem begins_due (keeps : Keeps origin tale pack) (clock : tale.clock? = some now)
    (isDue : due? origin tale = some effect) (carries : Carries tx effect) :
    Begins origin tale pack tx effect := by
  rcases dueAt?_eq_some_iff.mp isDue with ⟨_, time, same, waits, reached⟩
  cases clock.symm.trans same
  have queued : pack.mailbox.queued = queued? origin tale := congrArg Mailbox.queued keeps.mailbox
  have superseded : pack.supersede = { pack with retry := none, attempts := 0 } :=
    supersede_of_queued (by simp [queued, waits])
  have spent : pack.supersede.attempts = 0 := by rw [superseded]
  have room : 0 < maxAttempts := by decide
  constructor
  · exact .due now time effect clock waits reached carries
  · rw [drive?, isDue]
    exact ⟨{ effect }, rfl, rfl, rfl, spent, room, rfl⟩

/-- Nothing waits while something is to be repeated. -/
theorem queued?_of_retry (keeps : Keeps origin tale pack)
    (again : pack.supersede.retry = some effect) :
    queued? origin tale = none ∧ pack.supersede = pack := by
  have queued : pack.mailbox.queued = queued? origin tale := congrArg Mailbox.queued keeps.mailbox
  cases waiting : queued? origin tale with
  | none => exact ⟨rfl, supersede_of_empty (queued.trans waiting)⟩
  | some waits =>
      rw [supersede_of_queued (by simp [queued, waiting])] at again
      contradiction

/-- An effect that is to be repeated is driven on. -/
theorem begins_again (keeps : Keeps origin tale pack) (idle : tale.flying? = none)
    (isDue : due? origin tale = none) (again : pack.supersede.retry = some effect)
    (carries : Carries tx effect) : Begins origin tale pack tx effect := by
  obtain ⟨waiting, same⟩ := keeps.queued?_of_retry again
  rw [same] at again
  rcases keeps.repeated effect idle again with ⟨drive, driven, rfl, failed, attempts, few⟩
  have latest : drive.superseded = false := by
    cases is : drive.superseded with
    | false => rfl
    | true => exact absurd waiting (keeps.superseded drive driven is)
  have tried : pack.supersede.attempts = drive.failed := by rw [same, attempts]
  constructor
  · exact .again drive driven waiting latest failed (failed ▸ few) carries
  · rw [drive?, isDue, driven]
    exact ⟨_, rfl, rfl, congrArg Nat.succ failed, tried, few, latest⟩

/-- Where nothing is to be repeated and nothing was driven yet, the stop begins. -/
theorem begins_stop (keeps : Keeps origin tale pack) (isDue : due? origin tale = none)
    (first : pack.first = true) (spent : pack.supersede.attempts = 0)
    (carries : Carries tx .stop) : Begins origin tale pack tx .stop := by
  have nothing : drive? origin tale = none := by
    rw [← Option.isNone_iff_eq_none, ← keeps.first, first]
  have room : 0 < maxAttempts := by decide
  constructor
  · exact .first nothing isDue carries
  · rw [drive?, isDue, nothing]
    exact ⟨{ effect := .stop }, rfl, rfl, rfl, spent, room, rfl⟩

/-- What is submitted may be transmitted, and is driven from then on. -/
theorem choose (keeps : Keeps origin tale pack) (clock : tale.clock? = some now)
    (idle : tale.flying? = none) (next : pack.supersede.next? now = some effect)
    (carries : Carries tx effect) : Begins origin tale pack tx effect := by
  simp only [next?, mailbox_supersede, ← keeps.due?_eq clock] at next
  cases isDue : due? origin tale with
  | some chosen =>
      rw [isDue] at next
      cases next
      exact keeps.begins_due clock isDue carries
  | none =>
      rw [isDue, Option.none_or] at next
      cases again : pack.supersede.retry with
      | some repeated =>
          rw [again] at next
          cases next
          exact keeps.begins_again idle isDue again carries
      | none =>
          have spent := (keeps.rest idle).spent idle again
          rw [again, Option.none_or, first_supersede] at next
          split at next
          next first =>
            cases next
            exact keeps.begins_stop isDue first spent carries
          next => contradiction

/-- What waits is transmitted when it is due. -/
theorem waits_accepted {time : UInt64} (chosen : Chosen origin tale tx)
    (waits : queued? origin tale = some (time, effect)) :
    queued? origin (.entry (.accepted (.inl pack) tx) :: tale) = some (time, effect) ∨
      ∃ now, tale.clock? = some now ∧ time ≤ now ∧ Carries tx effect := by
  cases isDue : due? origin tale with
  | none =>
      left
      have stays : (dueAt? tale.clock? (queued? origin tale)).isSome = false := by
        rw [← due?, isDue]
        rfl
      rw [queued?, stays]
      exact waits
  | some other =>
      right
      cases chosen with
      | due now later effect clock waiting reached carries =>
          cases waits.symm.trans waiting
          exact ⟨now, clock, reached, carries⟩
      | again drive driven nothing latest failed few carries =>
          rw [nothing] at waits
          contradiction
      | first nothing early carries =>
          rw [early] at isDue
          contradiction

/-- What may be transmitted is accepted. -/
theorem drives_accepted (keeps : Keeps origin tale pack) (chosen : Chosen origin tale tx) :
    Drives origin (.entry (.accepted (.inl pack) tx)) tale where
  shown := by
    rintro _ ⟨⟩
    exact keeps.mailbox
  waits := by
    rintro time waiting waits
    rcases waits_accepted chosen waits with stays | ⟨now, clock, reached, carries⟩
    · exact .inl stays
    · exact .inr (.inr ⟨pack, _, now, rfl, clock, reached, carries⟩)
  transmitted := by
    rintro _ _ ⟨⟩
    exact chosen
  ended := by
    rintro status ends
    cases Tale.outcome?_of_ends ends

/-- The next effect is submitted. -/
theorem submit (keeps : Keeps origin tale pack) (clock : tale.clock? = some now)
    (idle : tale.flying? = none) {packet : Packet} (offered : pack.offer? now = some packet)
    (handle : Handle) :
    Keeps origin
      (.entry (.accepted (.inl pack) { id := handle.id, packet, expectsReply := true }) :: tale)
      (pack.submitted now handle) := by
  rcases Option.map_eq_some_iff.mp offered with ⟨effect, next, rfl⟩
  have carries : Carries { id := handle.id, packet := pack.packet effect, expectsReply := true }
      effect :=
    ⟨rfl, rfl⟩
  rcases keeps.choose clock idle next carries with ⟨chosen, drive, driven, isNext⟩
  generalize ({ id := handle.id, packet := pack.packet effect, expectsReply := true } :
    Transmission) = tx at *
  have endless : Tale.ending? (.entry (.accepted (.inl pack) tx)) tale = none :=
    Tale.ending?_of_no_end rfl
  constructor
  · rw [contents, acknowledged, fault?, raised?, endless]
    simp only [submitted, mailbox_supersede, ← keeps.due?_eq clock]
    rw [keeps.mailbox]
    rfl
  · rintro own -
    have carried : (pack.submitted now handle).inFlight = some (handle, drive.effect) := by
      simp only [submitted, next, Option.map_some, isNext.effect]
    exact ⟨rfl, handle, drive, driven, carried, isNext.sent, isNext.attempts, isNext.room⟩
  · rintro ⟨⟩
  · rintro _ ⟨⟩
  · rw [driven]
    rfl
  · rw [driven]
    rintro _ ⟨⟩ superseded
    rw [isNext.latest] at superseded
    contradiction
  · exact keeps.drives.cons (keeps.drives_accepted chosen)

/-! ### Ends -/

theorem first_of_driven (keeps : Keeps origin tale pack) {drive : Drive}
    (driven : drive? origin tale = some drive) : pack.first = false := by
  rw [keeps.first, driven]
  rfl

/-- What is in flight carries the effect that is driven. -/
theorem owned (keeps : Keeps origin tale pack) (flying : tale.flying? = some own)
    (held : (follower.held pack).map Handle.id = some tx.id) :
    ∃ drive, drive? origin tale = some drive ∧ pack.owned? tx = some drive.effect ∧
      pack.retry = none ∧ drive.sent = drive.failed + 1 ∧ pack.attempts = drive.failed ∧
      drive.failed < maxAttempts := by
  rcases keeps.flying own flying with ⟨quiet, handle, drive, driven, inFlight, sent, rest⟩
  refine ⟨drive, driven, ?_, quiet, sent, rest⟩
  have all := (filter_of_own held).1
  exact (congrArg (Option.map Prod.snd) (all.trans inFlight)).trans rfl

theorem drives_end (keeps : Keeps origin tale pack)
    (shown : entry.device? = some pack) {drive : Drive} (driven : drive? origin tale = some drive)
    (sent : drive.sent = drive.failed + 1) (room : drive.failed < maxAttempts) {status : Status}
    (ends : Tale.ending? (.entry entry) tale = some status)
    (told : drive.Ends (contents origin tale) (contents origin (.entry entry :: tale)) status) :
    Drives origin (.entry entry) tale where
  shown := by
    rintro device isShown
    cases shown.symm.trans isShown
    exact keeps.mailbox
  waits := by
    rintro time effect waits
    rw [queued?_entry (Tale.apart_of_ends ends)]
    exact .inl waits
  transmitted := by
    rintro author tx ⟨⟩
    exact absurd rfl (Tale.apart_of_ends ends author tx)
  ended := by
    rintro other isEnd
    cases ends.symm.trans isEnd
    exact ⟨drive, driven, sent, sent ▸ room, told⟩

/-- An end after which nothing is to be repeated. -/
theorem finish (keeps : Keeps origin tale pack)
    (shown : entry.device? = some pack) {drive later : Drive}
    (driven : drive? origin tale = some drive) (sent : drive.sent = drive.failed + 1)
    (room : drive.failed < maxAttempts) {status : Status}
    (ends : Tale.ending? (.entry entry) tale = some status)
    (drives : drive? origin (.entry entry :: tale) = some later)
    (same : later.superseded = drive.superseded) (quiet : pack.retry = none)
    {mailbox : Mailbox} (left : mailbox = contents origin (.entry entry :: tale))
    (told : drive.Ends (contents origin tale) mailbox status) :
    Keeps origin (.entry entry :: tale) { pack with inFlight := none, attempts := 0, mailbox } := by
  constructor
  · exact left
  · rw [Tale.flying?_of_ends ends]
    rintro own ⟨⟩
  · exact fun _ _ => rfl
  · rintro effect - again
    rw [quiet] at again
    contradiction
  · rw [drives]
    exact keeps.first_of_driven driven
  · rw [drives, queued?_entry (Tale.apart_of_ends ends)]
    rintro _ ⟨⟩ superseded
    exact keeps.superseded drive driven (same ▸ superseded)
  · apply keeps.drives.cons
    exact keeps.drives_end shown driven sent room ends (left ▸ told)

/-- A failure that is not the last one. -/
theorem retry (keeps : Keeps origin tale pack) (flying : tale.flying? = some own) {drive : Drive}
    (driven : drive? origin tale = some drive) (sent : drive.sent = drive.failed + 1)
    (few : drive.failed + 1 < maxAttempts) (failure : Failure) (tx : Transmission) :
    Keeps origin (.entry (.failed (.inl pack) failure tx) :: tale)
      { pack with
        inFlight := none, attempts := drive.failed + 1, retry := some drive.effect } := by
  have ends : Tale.ending? (.entry (.failed (.inl pack) failure tx)) tale =
      some (.failed failure) :=
    Tale.ending?_of_flying flying
  have apart := Tale.apart_of_ends ends
  have drives := drive?_of_failed driven ends
  have silent : drive.fault? (.failed failure) = none := if_pos few
  have left : contents origin (.entry (.failed (.inl pack) failure tx) :: tale) =
      contents origin tale := by
    rw [contents, queued?_entry apart, acknowledged, ends, fault?_of_ends driven ends, silent]
    rfl
  constructor
  · rw [left]
    exact keeps.mailbox
  · rintro _ ⟨⟩
  · rintro - ⟨⟩
  · rintro _ - ⟨⟩
    exact ⟨_, drives, rfl, sent, rfl, few⟩
  · rw [drives]
    exact keeps.first_of_driven driven
  · rw [drives, queued?_entry apart]
    rintro _ ⟨⟩
    exact keeps.superseded drive driven
  · apply keeps.drives.cons
    have room : drive.failed < maxAttempts := Nat.lt_of_succ_lt few
    apply keeps.drives_end rfl driven sent room ends
    exact .failed failure few left

theorem failed (keeps : Keeps origin tale pack) (flying : tale.flying? = some own)
    (held : (follower.held pack).map Handle.id = some tx.id) (failure : Failure) :
    Keeps origin (.entry (.failed (.inl pack) failure tx) :: tale)
      (Peripheral.failed pack failure tx).value := by
  rcases keeps.owned flying held with ⟨drive, driven, owned, quiet, sent, attempts, room⟩
  change Keeps origin _ (pack.failed failure tx).value
  rw [failed_of_owned owned failure, attempts]
  split
  · exact keeps.retry flying driven sent ‹_› failure tx
  · have ends : Tale.ending? (.entry (.failed (.inl pack) failure tx)) tale =
        some (.failed failure) :=
      Tale.ending?_of_flying flying
    have last : drive.failed + 1 = maxAttempts := by omega
    have loud : drive.fault? (.failed failure) = some (.transfer failure) := if_neg ‹_›
    have left : pack.mailbox.publish (.error (.transfer failure)) =
        contents origin (.entry (.failed (.inl pack) failure tx) :: tale) := by
      rw [contents, queued?_entry (Tale.apart_of_ends ends), acknowledged, ends,
        fault?_of_ends driven ends, loud, keeps.mailbox]
      rfl
    apply keeps.finish rfl driven sent room ends (drive?_of_failed driven ends) rfl quiet left
    rw [keeps.mailbox]
    exact .abandoned failure last rfl

theorem completed (keeps : Keeps origin tale pack) (flying : tale.flying? = some own)
    (held : (follower.held pack).map Handle.id = some tx.id) (reply : Packet) :
    Keeps origin (.entry (.completed (.inl pack) (some reply) tx) :: tale)
      (Peripheral.completed pack (some reply) tx).value := by
  rcases keeps.owned flying held with ⟨drive, driven, owned, quiet, sent, -, room⟩
  have ends : Tale.ending? (.entry (.completed (.inl pack) (some reply) tx)) tale =
      some (.succeeded (some reply)) :=
    Tale.ending?_of_flying flying
  change Keeps origin _ (pack.completed (some reply) tx).value
  rw [completed_of_owned owned (some reply)]
  by_cases ack : reply.command = .ack
  · have silent : drive.fault? (.succeeded (some reply)) = none := if_pos ack
    have accepts := interpret_of_ack ack
    have left : pack.mailbox.publish (interpret (some reply)) =
        contents origin (.entry (.completed (.inl pack) (some reply) tx) :: tale) := by
      rw [accepts, contents, queued?_entry (Tale.apart_of_ends ends), acknowledged, ends,
        fault?_of_ends driven ends, silent, Option.none_or, keeps.mailbox]
      simp only [ack, if_true]
      rw [← Nat.add_assoc, ← Saturating.word32_succ]
      rfl
    apply keeps.finish rfl driven sent room ends (drive?_of_succeeded driven ends) rfl quiet left
    rw [keeps.mailbox, accepts]
    exact .acknowledged reply ack rfl
  · have loud : drive.fault? (.succeeded (some reply)) = some (.refused reply.command) :=
      if_neg ack
    have refuses := interpret_of_other ack
    have left : pack.mailbox.publish (interpret (some reply)) =
        contents origin (.entry (.completed (.inl pack) (some reply) tx) :: tale) := by
      rw [refuses, contents, queued?_entry (Tale.apart_of_ends ends), acknowledged, ends,
        fault?_of_ends driven ends, loud, keeps.mailbox]
      simp only [ack, if_false]
      rfl
    apply keeps.finish rfl driven sent room ends (drive?_of_succeeded driven ends) rfl quiet left
    rw [keeps.mailbox, refuses]
    exact .refused reply ack rfl

end Keeps

end Steps

theorem upkeep (origin : Vibration) :
    follower.Upkeep Driven serve (Keeps origin : Tale Vibration Q Call → Vibration → Prop) where
  lawful := lawful
  served := driven_serve
  called call keeps := by
    cases call with
    | queue time effect => exact keeps.queue time effect
    | takeFault => exact keeps.takeFault
  passed keeps passes := keeps.pass passes
  rested {_ pack} now keeps idle nothing := by
    have forgotten : pack.inFlight = none := Option.map_eq_none_iff.mp nothing
    have same : follower.rests pack now = pack.supersede := by
      change supersede { pack with inFlight := none } = pack.supersede
      rw [← forgotten]
    rw [same]
    exact keeps.rest idle
  submitted {tale pack now packet} handle keeps clock idle nothing offered := by
    have forgotten : pack.inFlight = none := Option.map_eq_none_iff.mp nothing
    have same : { pack with inFlight := none } = pack := by rw [← forgotten]
    have offers : pack.offer? now = some packet := same ▸ offered
    have submits : follower.submits pack now handle = pack.submitted now handle :=
      congrArg (fun pack : Vibration => pack.submitted now handle) same
    rw [submits]
    exact keeps.submit clock idle offers handle
  failed failure keeps flying held := keeps.failed flying held failure
  completed reply keeps flying held := keeps.completed flying held reply

/-! ## Runs -/

/-- A vibration pack does what it is driven to. -/
structure Obeys (origin : Vibration) (telling : Telling Vibration Q W Call) : Prop where
  told : telling.tale.journal = telling.session.journal
  now : ∃ pack : Vibration,
    telling.session.bus.peripherals.filterMap Sum.getLeft? = [pack] ∧
      pack.mailbox = contents origin telling.tale
  paired : telling.tale.Always Record.IsPaired
  drives : telling.tale.Always (Drives origin)

/-- In every run with calls in which none of its pending work is cancelled, a vibration pack
transmits a queued effect when it is due, again while it fails and nothing newer was queued,
and three times at most. -/
theorem obeys_after [Peripheral Q] [Wire W] (stationary : Stationary Q) {origin : Vibration}
    {telling : Telling Vibration Q W Call} (recounts : telling.Recounts serve origin)
    (idle : origin.inFlight = none) (quiet : origin.retry = none) (untried : origin.attempts = 0)
    (fresh : origin.first = true) (undisturbed : dropped anything telling.session.journal = []) :
    Obeys origin telling := by
  have nothing : follower.held origin = none := Option.map_eq_none_iff.mpr idle
  rcases recounts.attends stationary (upkeep origin) nothing (.start fresh quiet untried)
    undisturbed with ⟨told, pack, alone, attends⟩
  constructor
  · exact told
  · exact ⟨pack, alone, attends.keeps.mailbox⟩
  · exact attends.paired
  · exact attends.keeps.drives

/-- A vibration pack that was not driven yet. -/
def resting : Vibration :=
  { address := ⟨0x20⟩, player := {}, definitionWord := 0 }

/-- The reply of a pack that takes an effect. -/
def acknowledgement : Packet :=
  .carrying .ack (.host 0) ⟨0x20⟩ []

/-- An effect fails twice, and is not sent a third time, because a stop is queued, though for
later.  The stop is acknowledged, and the effect, which was queued again, fails three times. -/
def driving : List (Move Vibration Recorder SilentWire Call) :=
  [ .call (.queue 0 (.lasting 2 10)), .occur (.task 0 []), .cycle 1 [[.writeFailed]] [] [],
    .cycle 2 [[.writeFailed]] [.queue 10 .stop] [], .occur (.task 10 []),
    .cycle 11 [[.replyReceived acknowledgement.encode]] [] [.queue 0 (.lasting 2 10)],
    .occur (.task 12 []), .occur (.task 13 [[.writeFailed]]), .occur (.task 14 [[.writeFailed]]),
    .occur (.task 15 [[.writeFailed]]) ]

theorem obeys_driving :
    let telling := (Telling.opened (bare {} [resting])).after serve driving
    dropped anything telling.session.journal = [] ∧
      contents resting telling.tale = { delivered := 1, fault := some (.transfer .write) } ∧
        Obeys resting telling := by
  intro telling
  have undisturbed : dropped anything telling.session.journal = [] := by
    decide +kernel
  have left : contents resting telling.tale =
      { delivered := 1, fault := some (.transfer .write) } := by
    decide +kernel
  have recounts : telling.Recounts serve resting := by
    apply Telling.recounts_bare rfl
    · simp [driving]
    · decide +kernel
  exact ⟨undisturbed, left,
    obeys_after steadfast_recorder.stationary recounts rfl rfl rfl rfl undisturbed⟩

end MapleBus.Device.Vibration
