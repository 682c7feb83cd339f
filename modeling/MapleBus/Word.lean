/-!
# Big-endian words

A bus word is thirty-two bits and travels most significant byte first.  This
module splits words into bytes and reassembles them.  Both directions are
written with place values, so that each law below is linear arithmetic over
natural numbers.  The bits of a word are looked at one by one, with masks of a
single bit.
-/

namespace MapleBus.Word

/-- The four bytes of a word, most significant first. -/
def toBytes (word : UInt32) : List UInt8 :=
  [ UInt8.ofNat (word.toNat / 0x1000000),
    UInt8.ofNat (word.toNat / 0x10000),
    UInt8.ofNat (word.toNat / 0x100),
    UInt8.ofNat word.toNat ]

/-- The word whose bytes, most significant first, are the four arguments. -/
def ofBytes (first second third fourth : UInt8) : UInt32 :=
  UInt32.ofNat
    (((first.toNat * 0x100 + second.toNat) * 0x100 + third.toNat) * 0x100 + fourth.toNat)

/-- The bytes of a word sequence in transmission order. -/
def listToBytes (words : List UInt32) : List UInt8 :=
  words.flatMap toBytes

/-- Group bytes into words.  Up to three bytes that do not fill a word are
left out. -/
def listOfBytes : List UInt8 → List UInt32
  | first :: second :: third :: fourth :: rest =>
      ofBytes first second third fourth :: listOfBytes rest
  | _ => []

/-- Group bytes into `count` words.  Bytes beyond the last word are left out,
and zeros stand in for bytes that are missing. -/
def pack : Nat → List UInt8 → List UInt32
  | 0, _ => []
  | count + 1, bytes =>
      ofBytes (bytes.getD 0 0) (bytes.getD 1 0) (bytes.getD 2 0) (bytes.getD 3 0) ::
        pack count (bytes.drop 4)

@[simp]
theorem length_toBytes (word : UInt32) : (toBytes word).length = 4 :=
  rfl

/-- Splitting a word and reassembling it changes nothing. -/
theorem ofBytes_toBytes (word : UInt32) :
    ofBytes (UInt8.ofNat (word.toNat / 0x1000000)) (UInt8.ofNat (word.toNat / 0x10000))
      (UInt8.ofNat (word.toNat / 0x100)) (UInt8.ofNat word.toNat) = word := by
  apply UInt32.toNat_inj.mp
  have bound := word.toNat_lt
  simp only [ofBytes, UInt32.toNat_ofNat', UInt8.toNat_ofNat']
  omega

/-- Reassembling four bytes and splitting the word changes nothing. -/
theorem toBytes_ofBytes (first second third fourth : UInt8) :
    toBytes (ofBytes first second third fourth) = [first, second, third, fourth] := by
  have firstBound := first.toNat_lt
  have secondBound := second.toNat_lt
  have thirdBound := third.toNat_lt
  have fourthBound := fourth.toNat_lt
  simp only [toBytes, ofBytes, UInt32.toNat_ofNat', List.cons.injEq, and_true]
  refine ⟨?_, ?_, ?_, ?_⟩ <;>
    apply UInt8.toNat_inj.mp <;> simp only [UInt8.toNat_ofNat'] <;> omega

@[simp]
theorem listToBytes_nil : listToBytes [] = [] :=
  rfl

@[simp]
theorem listToBytes_cons (word : UInt32) (rest : List UInt32) :
    listToBytes (word :: rest) = toBytes word ++ listToBytes rest :=
  rfl

theorem listToBytes_append (front back : List UInt32) :
    listToBytes (front ++ back) = listToBytes front ++ listToBytes back :=
  List.flatMap_append

/-- Every word takes four bytes. -/
@[simp]
theorem length_listToBytes (words : List UInt32) :
    (listToBytes words).length = 4 * words.length := by
  induction words with
  | nil => rfl
  | cons word rest ih =>
      simp only [listToBytes_cons, List.length_append, length_toBytes, ih,
        List.length_cons]
      omega

/-- Grouping yields one word for every four whole bytes. -/
@[simp]
theorem length_listOfBytes (bytes : List UInt8) :
    (listOfBytes bytes).length = bytes.length / 4 := by
  fun_induction listOfBytes bytes with
  | case1 first second third fourth rest ih =>
      simp only [List.length_cons, ih]
      omega
  | case2 bytes short =>
      match bytes, short with
      | [], _ | [_], _ | [_, _], _ | [_, _, _], _ => simp
      | first :: second :: third :: fourth :: rest, short =>
          exact (short first second third fourth rest rfl).elim

/-- Grouping recovers the words, whatever incomplete word follows them. -/
theorem listOfBytes_listToBytes_append (words : List UInt32) (extra : List UInt8)
    (short : extra.length < 4) :
    listOfBytes (listToBytes words ++ extra) = words := by
  induction words with
  | nil =>
      match extra, short with
      | [], _ => rfl
      | [_], _ => rfl
      | [_, _], _ => rfl
      | [_, _, _], _ => rfl
  | cons word rest ih =>
      simp only [listToBytes_cons, toBytes, List.cons_append, List.nil_append,
        listOfBytes, ofBytes_toBytes, ih]

/-- Bytes of a word and more are its four bytes and the others. -/
theorem exists_four {bytes : List UInt8} {more : Nat} (whole : bytes.length = more + 4) :
    ∃ first second third fourth rest,
      bytes = first :: second :: third :: fourth :: rest ∧ rest.length = more := by
  match bytes, whole with
  | first :: second :: third :: fourth :: rest, whole =>
      exact ⟨first, second, third, fourth, rest, rfl, by simpa using whole⟩

/-- Splitting recovers the bytes when they fill whole words. -/
theorem listToBytes_listOfBytes (bytes : List UInt8) (count : Nat)
    (whole : bytes.length = 4 * count) :
    listToBytes (listOfBytes bytes) = bytes := by
  induction count generalizing bytes with
  | zero =>
      obtain rfl : bytes = [] := List.length_eq_zero_iff.mp whole
      rfl
  | succ count ih =>
      obtain ⟨first, second, third, fourth, rest, rfl, shorter⟩ := exists_four whole
      simp [listOfBytes, toBytes_ofBytes, ih rest shorter]

@[simp]
theorem length_pack (count : Nat) (bytes : List UInt8) :
    (pack count bytes).length = count := by
  induction count generalizing bytes with
  | zero => rfl
  | succ count ih => simp [pack, ih]

/-- Packing recovers the words, whatever bytes follow them. -/
theorem pack_listToBytes_append (words : List UInt32) (later : List UInt8) :
    pack words.length (listToBytes words ++ later) = words := by
  induction words with
  | nil => rfl
  | cons word rest ih => simpa [pack, toBytes, ih] using ofBytes_toBytes word

/-- Bytes that fill the words are packed as they are grouped. -/
theorem pack_eq_listOfBytes (count : Nat) (bytes : List UInt8)
    (whole : bytes.length = 4 * count) : pack count bytes = listOfBytes bytes := by
  induction count generalizing bytes with
  | zero =>
      obtain rfl : bytes = [] := List.length_eq_zero_iff.mp whole
      rfl
  | succ count ih =>
      obtain ⟨first, second, third, fourth, rest, rfl, shorter⟩ := exists_four whole
      simp [pack, listOfBytes, ih rest shorter]

/-- Splitting recovers the packed bytes when they fill the words. -/
theorem listToBytes_pack (count : Nat) (bytes : List UInt8)
    (whole : bytes.length = 4 * count) :
    listToBytes (pack count bytes) = bytes := by
  rw [pack_eq_listOfBytes count bytes whole, listToBytes_listOfBytes bytes count whole]

/-- Packing packs the bytes of the front words first. -/
theorem pack_append (count more : Nat) (front back : List UInt8)
    (whole : front.length = 4 * count) :
    pack (count + more) (front ++ back) = pack count front ++ pack more back := by
  induction count generalizing front with
  | zero =>
      obtain rfl : front = [] := List.length_eq_zero_iff.mp whole
      rw [Nat.zero_add]
      rfl
  | succ count ih =>
      obtain ⟨first, second, third, fourth, rest, rfl, shorter⟩ := exists_four whole
      simp [pack, Nat.add_right_comm count 1 more, ih rest shorter]

/-! ## Single bits -/

/-- A word has a single bit of a mask if that bit is set. -/
theorem and_eq_iff_testBit {word mask : UInt32} {place : Nat}
    (single : ∀ other, mask.toNat.testBit other = decide (place = other)) :
    word &&& mask = mask ↔ word.toNat.testBit place := by
  rw [← UInt32.toNat_inj, UInt32.toNat_and]
  constructor
  · intro whole
    have bit := congrArg (Nat.testBit · place) whole
    simpa [single] using bit
  · intro set
    apply Nat.eq_of_testBit_eq
    intro other
    rw [Nat.testBit_and, single]
    by_cases same : place = other
    · subst same
      simp [set]
    · simp [same]

end MapleBus.Word
