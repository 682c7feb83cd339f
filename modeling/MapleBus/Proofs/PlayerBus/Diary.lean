import MapleBus.PlayerBus

/-!
# Diaries

A peripheral may keep a diary of the submissions it got accepted and of the
callbacks it receives.  The diary is its own when every callback follows the
submission it is about, and founded when every callback is about something
that was submitted at all.  Keeping one changes nothing else: the bus does
what it would do without.
-/

namespace MapleBus

/-- What a peripheral writes down. -/
inductive DiaryEntry where
  /-- A submission of its own was accepted. -/
  | submitted (tx : Transmission)
  /-- It was told that a transmission went out. -/
  | started (tx : Transmission)
  /-- It was told how a transmission ended. -/
  | ended (tx : Transmission)
  deriving DecidableEq

/-- The entries of one peripheral, newest first. -/
abbrev Diary : Type := List DiaryEntry

namespace Diary

variable {newer older : Diary} {entry : DiaryEntry}

/-- Every callback is about the peripheral's own transmission: a start follows
the submission of what goes out, and an end follows the start of what ends. -/
def IsOwn : Diary → Prop
  | [] => True
  | .submitted _ :: earlier => IsOwn earlier
  | .started tx :: earlier =>
      earlier.head? = some (.submitted { tx with status := .pending }) ∧ IsOwn earlier
  | .ended tx :: earlier =>
      earlier.head? = some (.started { tx with status := .sent }) ∧ IsOwn earlier

instance decidableIsOwn : DecidablePred IsOwn
  | [] => inferInstanceAs (Decidable True)
  | .submitted _ :: earlier => decidableIsOwn earlier
  | .started tx :: earlier =>
      have := decidableIsOwn earlier
      inferInstanceAs (Decidable
        (earlier.head? = some (.submitted { tx with status := .pending }) ∧ IsOwn earlier))
  | .ended tx :: earlier =>
      have := decidableIsOwn earlier
      inferInstanceAs (Decidable
        (earlier.head? = some (.started { tx with status := .sent }) ∧ IsOwn earlier))

/-- Every callback is about a transmission that the peripheral submitted some
time before. -/
def IsFounded : Diary → Prop
  | [] => True
  | .submitted _ :: earlier => IsFounded earlier
  | .started tx :: earlier | .ended tx :: earlier =>
      .submitted { tx with status := .pending } ∈ earlier ∧ IsFounded earlier

instance decidableIsFounded : DecidablePred IsFounded
  | [] => inferInstanceAs (Decidable True)
  | .submitted _ :: earlier => decidableIsFounded earlier
  | .started tx :: earlier | .ended tx :: earlier =>
      have := decidableIsFounded earlier
      inferInstanceAs (Decidable
        (.submitted { tx with status := .pending } ∈ earlier ∧ IsFounded earlier))

/-- What was written earlier stays one's own. -/
theorem IsOwn.of_cons (own : IsOwn (entry :: older)) : IsOwn older := by
  cases entry with
  | submitted _ => exact own
  | started _ | ended _ => exact own.2

/-- A diary that is one's own speaks of one's own submissions only. -/
theorem IsOwn.isFounded {diary : Diary} (own : IsOwn diary) : IsFounded diary := by
  induction diary with
  | nil => trivial
  | cons entry earlier ih =>
      have founded := ih own.of_cons
      cases entry with
      | submitted _ => exact founded
      | started tx => exact ⟨List.mem_of_head? own.1, founded⟩
      | ended tx =>
          obtain ⟨rest, rfl⟩ := List.head?_eq_some_iff.mp own.1
          have submitted : .submitted { tx with status := .pending } ∈ rest := founded.1
          exact ⟨List.mem_cons_of_mem _ submitted, founded⟩

/-- What was written earlier stays founded. -/
theorem IsFounded.of_cons (founded : IsFounded (entry :: older)) : IsFounded older := by
  cases entry with
  | submitted _ => exact founded
  | started _ | ended _ => exact founded.2

theorem IsFounded.of_suffix (founded : IsFounded newer) (earlier : older <:+ newer) :
    IsFounded older := by
  obtain ⟨later, rfl⟩ := earlier
  induction later with
  | nil => exact founded
  | cons entry rest ih => exact ih founded.of_cons

end Diary

/-- A peripheral with its diary. -/
structure Diarist (P : Type) where
  peripheral : P
  diary : Diary := []

/-- Run a peripheral's program and write down what it gets accepted. -/
def Endpoint.keepDiary {P : Type} (program : Endpoint P) (diary : Diary) :
    Endpoint (Diarist P) :=
  match program with
  | done peripheral => done { peripheral, diary }
  | schedule packet expectsReply next =>
      schedule packet expectsReply fun answer =>
        match answer with
        | .ok handle =>
            (next answer).keepDiary
              (.submitted { id := handle.id, packet, expectsReply } :: diary)
        | .error _ => (next answer).keepDiary diary
  | status handle next => status handle fun answer => (next answer).keepDiary diary
  | cancel handle next => cancel handle fun answer => (next answer).keepDiary diary
  | cancelByRecipient recipient next =>
      cancelByRecipient recipient fun answer => (next answer).keepDiary diary
  | countRecipients recipient next =>
      countRecipients recipient fun answer => (next answer).keepDiary diary
  | isIdle next => isIdle fun answer => (next answer).keepDiary diary
  | note entry next => note entry (next.keepDiary diary)

namespace Diarist

variable {P : Type} [Peripheral P]

/-- Write down a callback, and let the peripheral act on it. -/
def write (diarist : Diarist P) (entry : DiaryEntry) (callback : Logged P) :
    Logged (Diarist P) := do
  let peripheral ← callback
  return { peripheral, diary := entry :: diarist.diary }

instance : Peripheral (Diarist P) where
  name diarist := Peripheral.name diarist.peripheral
  address diarist := Peripheral.address diarist.peripheral
  functions diarist := Peripheral.functions diarist.peripheral
  definition diarist := Peripheral.definition diarist.peripheral
  info diarist := Peripheral.info diarist.peripheral
  task diarist now := (Peripheral.task diarist.peripheral now).keepDiary diarist.diary
  started diarist tx := diarist.write (.started tx) (Peripheral.started diarist.peripheral tx)
  failed diarist failure tx :=
    diarist.write (.ended tx) (Peripheral.failed diarist.peripheral failure tx)
  completed diarist reply tx :=
    diarist.write (.ended tx) (Peripheral.completed diarist.peripheral reply tx)

end Diarist

end MapleBus
