import MapleBus.Proofs.PlayerBus.Outgoing

/-!
# Whose packets go out

A quality that every peripheral brings along and nothing takes away decides what is on
the wire: each submission that was ever accepted came from somebody who had it then, and
its packet follows the rule of that author.  A frame that a cycle hands to the wire is
the packet of such a submission.
-/

namespace MapleBus

open Relation (ReflTransGen)

variable {P W : Type}

theorem JournalEntry.conclusion_ne_accepted (peripheral : P) (tx : Transmission) (author : P)
    (accepted : Transmission) : conclusion peripheral tx ≠ .accepted author accepted := by
  unfold conclusion
  cases tx.status.failure? <;> simp

namespace PlayerBus

/-! ## Accepted submissions -/

/-- Every accepted submission is by somebody with the quality and follows the rule, and
what is pending was accepted from somebody. -/
structure Vouched (quality : P → Prop) (rule : P → Packet → Prop)
    (occupant : Option Transmission) (journal : Journal P) : Prop where
  accepted : ∀ {author tx}, .accepted author tx ∈ journal → quality author ∧ rule author tx.packet
  origin : ∀ {tx}, occupant = some tx → tx.status = .pending →
    ∃ author, .accepted author tx ∈ journal

namespace Vouched

variable {quality : P → Prop} {rule : P → Packet → Prop} {occupant : Option Transmission}
  {journal : Journal P}

theorem blank : Vouched quality rule none [] where
  accepted := by
    rintro author tx ⟨⟩
  origin := by
    rintro tx ⟨⟩

/-- Entries that accept nothing vouch for nothing. -/
theorem append (vouched : Vouched quality rule occupant journal) {news : Journal P}
    (nothing : ∀ author tx, .accepted author tx ∉ news) :
    Vouched quality rule occupant (news ++ journal) where
  accepted := by
    rintro author tx mem
    rcases List.mem_append.mp mem with new | old
    · exact absurd new (nothing author tx)
    · exact vouched.accepted old
  origin := by
    rintro tx occupied pending
    obtain ⟨author, mem⟩ := vouched.origin occupied pending
    exact ⟨author, List.mem_append_right news mem⟩

theorem push (vouched : Vouched quality rule occupant journal) {entry : JournalEntry P}
    (nothing : ∀ author tx, entry ≠ .accepted author tx) :
    Vouched quality rule occupant (entry :: journal) :=
  vouched.append fun author tx mem => nothing author tx (List.mem_singleton.mp mem).symm

/-- An occupant that is no longer pending, or that is gone, needs nobody. -/
theorem proceed (vouched : Vouched quality rule occupant journal) {later : Option Transmission}
    (settled : ∀ tx, later = some tx → tx.status ≠ .pending) :
    Vouched quality rule later journal where
  accepted := vouched.accepted
  origin := fun occupied pending => absurd pending (settled _ occupied)

theorem vacate (vouched : Vouched quality rule occupant journal) :
    Vouched quality rule none journal :=
  vouched.proceed (by simp)

theorem request {author : P} {former later : Option Transmission × Journal P}
    (vouched : Vouched quality rule former.1 former.2) (has : quality author)
    (request : Request (rule author) author former later) :
    Vouched quality rule later.1 later.2 := by
  cases request with
  | refused tx packet journal => exact vouched.push (by simp)
  | cancelled tx journal pending => exact vouched.vacate.push (by simp)
  | accepted tx journal pending follows =>
      constructor
      · rintro another submitted mem
        rcases List.mem_cons.mp mem with same | old
        · cases same
          exact ⟨has, follows⟩
        · exact vouched.accepted old
      · rintro _ ⟨⟩ -
        exact ⟨author, List.mem_cons_self⟩

theorem requests {author : P} {former later : Option Transmission × Journal P}
    (vouched : Vouched quality rule former.1 former.2) (has : quality author)
    (requests : ReflTransGen (Request (rule author) author) former later) :
    Vouched quality rule later.1 later.2 := by
  induction requests with
  | refl => exact vouched
  | tail _ next ih => exact ih.request has next

end Vouched

/-! ## Stages -/

theorem forall_replace {quality : P → Prop} {front back : List P} {peripheral renewed : P}
    (everybody : ∀ other ∈ front ++ peripheral :: back, quality other)
    (has : quality peripheral → quality renewed) :
    ∀ other ∈ front ++ renewed :: back, quality other := by
  simp only [List.forall_mem_append, List.forall_mem_cons] at everybody ⊢
  exact ⟨everybody.1, has everybody.2.1, everybody.2.2⟩

variable [Peripheral P]

/-- A quality that nothing takes away from a peripheral, and a rule for the packets of
whoever has it. -/
structure Conduct (kind : (P → P) → Prop) (quality : P → Prop) (rule : P → Packet → Prop) :
    Prop where
  task : ∀ {peripheral} (now : UInt64), quality peripheral →
    (Peripheral.task peripheral now).Obeys (rule peripheral) quality
  started : ∀ {peripheral} (tx : Transmission), quality peripheral →
    quality (Peripheral.started peripheral tx).value
  failed : ∀ {peripheral} (failure : Failure) (tx : Transmission), quality peripheral →
    quality (Peripheral.failed peripheral failure tx).value
  completed : ∀ {peripheral} (reply : Option Packet) (tx : Transmission), quality peripheral →
    quality (Peripheral.completed peripheral reply tx).value
  influence : ∀ {change}, kind change → ∀ {peripheral}, quality peripheral →
    quality (change peripheral)

variable {kind : (P → P) → Prop} {quality : P → Prop} {rule : P → Packet → Prop}

theorem Conduct.conclude (conduct : Conduct kind quality rule) {peripheral : P}
    (has : quality peripheral) (tx : Transmission) :
    quality (PlayerBus.conclude peripheral tx).value := by
  unfold PlayerBus.conclude
  cases tx.status.failure? with
  | some failure => exact conduct.failed failure tx has
  | none => exact conduct.completed tx.reply? tx has

/-- Everybody who is plugged in has the quality, and so had everybody who got something
accepted. -/
structure View.Abides (quality : P → Prop) (rule : P → Packet → Prop) (view : View P) :
    Prop where
  everybody : ∀ peripheral ∈ view.peripherals, quality peripheral
  vouched : Vouched quality rule view.occupant view.journal

namespace View.Abides

variable {former later : View P}

/-- Every stage abides, provided that whoever is plugged in has the quality. -/
theorem stage (conduct : Conduct kind quality rule) (abides : former.Abides quality rule)
    (stage : Stage kind former later)
    (newcomers : ∀ newcomer, .attached newcomer ∈ later.journal → quality newcomer) :
    later.Abides quality rule := by
  have everybody := abides.everybody
  have vouched := abides.vouched
  cases stage with
  | waited _ now => exact ⟨everybody, vouched.push (by simp)⟩
  | concluded tx status front back peripheral journal now sent terminal here before =>
      refine ⟨forall_replace everybody fun has => conduct.conclude has _, ?_⟩
      have settled : Vouched quality rule none
          (.settled { tx with status } :: .cycle now :: journal) :=
        (vouched.vacate.push (by simp)).push (by simp)
      exact settled.push (JournalEntry.conclusion_ne_accepted peripheral _)
  | forgotten tx status peripherals journal now sent terminal nobody =>
      exact ⟨everybody, (vouched.vacate.push (by simp)).push (by simp)⟩
  | worked front back peripheral desk now tidy =>
      have has : quality peripheral := everybody peripheral (by simp)
      have began : (desk.write (.began peripheral)).scheduler.Tidy := tidy
      obtain ⟨⟨-, requests⟩, kept⟩ :=
        Endpoint.requests_play (conduct.task now has) peripheral began
      refine ⟨forall_replace everybody fun _ => kept, ?_⟩
      exact (vouched.push (by simp)).requests has requests
  | launched tx front back peripheral journal pending here before =>
      refine ⟨forall_replace everybody (conduct.started _), ?_⟩
      exact ((vouched.proceed (by simp)).push (by simp)).push (by simp)
  | slipped tx peripherals journal pending nobody =>
      exact ⟨everybody, (vouched.proceed (by simp)).push (by simp)⟩
  | attached occupant front back newcomer journal free =>
      refine ⟨?_, vouched.push (by simp)⟩
      simp only [List.forall_mem_append, List.forall_mem_cons] at everybody ⊢
      exact ⟨everybody.1, newcomers newcomer List.mem_cons_self, everybody.2⟩
  | detached _ leaves kept =>
      refine ⟨fun other mem => everybody other (List.mem_of_mem_filter mem), ?_⟩
      exact vouched.append (by simp)
  | withdrawn tx peripherals journal leaves pending =>
      refine ⟨fun other mem => everybody other (List.mem_of_mem_filter mem), ?_⟩
      exact (vouched.vacate.push (by simp)).append (by simp)
  | influenced _ change ofKind =>
      refine ⟨?_, vouched⟩
      rintro changed mem
      obtain ⟨peripheral, present, rfl⟩ := List.mem_map.mp mem
      exact conduct.influence ofKind (everybody peripheral present)

theorem stages (conduct : Conduct kind quality rule) (abides : former.Abides quality rule)
    (stages : Stages kind former later)
    (newcomers : ∀ newcomer, .attached newcomer ∈ later.journal → quality newcomer) :
    later.Abides quality rule := by
  induction stages with
  | refl => exact abides
  | tail _ next ih =>
      have earlier := ih fun newcomer mem => newcomers newcomer (next.suffix.subset mem)
      exact earlier.stage conduct next newcomers

end View.Abides

/-! ## Sessions -/

namespace Session

variable {session : Session P W} {now : UInt64} {arrivals : List (List Signal)} {newcomer : P}

theorem attached_settle (session : Session P W)
    (mem : .attached newcomer ∈ (session.settle now).journal) :
    .attached newcomer ∈ session.journal := by
  obtain ⟨news, split, callbacks⟩ := (calls_deliver (session.harvested now)).news
  rw [settle_eq, split] at mem
  rcases List.mem_append.mp mem with new | old
  · exact absurd (callbacks _ new) id
  · simpa [harvested] using old

theorem attached_work (session : Session P W)
    (mem : .attached newcomer ∈ (session.work now arrivals).1.journal) :
    .attached newcomer ∈ session.journal := by
  obtain ⟨news, split, works⟩ := news_work session now arrivals
  rw [split] at mem
  rcases List.mem_append.mp mem with new | old
  · exact absurd (works _ new) id
  · exact old

/-- Nobody is plugged in while a cycle works. -/
theorem attached_offering
    (mem : .attached newcomer ∈ (session.offering now arrivals).journal) :
    .attached newcomer ∈ session.journal :=
  attached_settle (session.hear (arrivals.headD []))
    (attached_work ((session.hear (arrivals.headD [])).settle now) mem)

/-- What a cycle hands to the wire was accepted from somebody who had the quality then, and
follows the rule of whoever it was accepted from. -/
theorem vouched_of_handed (conduct : Conduct kind quality rule)
    (tidy : session.bus.scheduler.Tidy) (abides : session.view.Abides quality rule)
    (newcomers : ∀ newcomer, .attached newcomer ∈ session.journal → quality newcomer)
    {tx : Transmission} (handed : session.handed? now arrivals = some tx) :
    (∃ author, .accepted author tx ∈ (session.offering now arrivals).journal) ∧
      ∀ author, .accepted author tx ∈ (session.offering now arrivals).journal →
        quality author ∧ rule author tx.packet := by
  obtain ⟨offeringTidy, stages⟩ := offering_stages kind tidy now arrivals
  have later : ∀ newcomer, .attached newcomer ∈ (session.offering now arrivals).journal →
      quality newcomer :=
    fun newcomer mem => newcomers newcomer (attached_offering mem)
  unfold handed? at handed
  generalize session.offering now arrivals = offering at handed offeringTidy stages later ⊢
  have vouched := (abides.stages conduct stages later).vouched
  obtain ⟨⟨handle, same⟩, search, rfl⟩ := Option.map_eq_some_iff.mp handed
  obtain ⟨occupied, pending⟩ := offeringTidy.occupant_of_pending search
  exact ⟨vouched.origin occupied pending, fun author mem => vouched.accepted mem⟩

/-- After every run on which only peripherals with the quality were plugged in, everybody
has it. -/
theorem abides_after [Wire W] (conduct : Conduct kind quality rule) {settings : Settings}
    {wire : W} {bus : PlayerBus P W} (created : create settings wire = .ok bus)
    {occurrences : List (Occurrence P W)}
    (ofKind : ∀ change, .influence change ∈ occurrences → kind change) :
    let session := (opened bus).after occurrences
    (∀ newcomer, .attached newcomer ∈ session.journal → quality newcomer) →
      session.bus.scheduler.Tidy ∧ session.view.Abides quality rule := by
  intro session newcomers
  obtain ⟨tidy, blank⟩ := opened_of_created created
  obtain ⟨result, stages⟩ := after_stages kind tidy ofKind
  rw [blank] at stages
  have start : View.Abides quality rule (⟨none, [], []⟩ : View P) :=
    ⟨List.forall_mem_nil _, .blank⟩
  exact ⟨result, start.stages conduct stages newcomers⟩

end Session

end PlayerBus

end MapleBus
