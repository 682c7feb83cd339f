/-!
# Padded text fields

Fixed-width fields of ASCII text.  Text is cut or filled with spaces to the
width of the field, and a character outside ASCII is written as a question
mark.  Reading a field back drops the spaces and NULs at its end.
-/

namespace MapleBus.Text

/-- The byte that stands for a character. -/
def asciiByte (character : Char) : UInt8 :=
  if character.toNat < 128 then
    UInt8.ofNat character.toNat
  else
    0x3F

/-- Text in a field of `width` bytes. -/
def pad (width : Nat) (text : String) : Vector UInt8 width :=
  Vector.ofFn fun index =>
    match text.toList[index.val]? with
    | some character => asciiByte character
    | none => 0x20

/-- Whether a character is padding when it stands at the end of a field. -/
def isPadding (character : Char) : Bool :=
  character == ' ' || character == '\x00'

/-- The text of a field without the padding at its end.  A field that is not
well-formed UTF-8 reads as empty. -/
def unpad (field : List UInt8) : String :=
  match (ByteArray.mk field.toArray).utf8Decode? with
  | some characters =>
      String.ofList (characters.toList.reverse.dropWhile isPadding).reverse
  | none => ""

/-- Whether a character is visible ASCII. -/
def isGraphic (character : Char) : Bool :=
  33 ≤ character.toNat && character.toNat ≤ 126

theorem lt_of_isGraphic {character : Char} (graphic : isGraphic character = true) :
    character.toNat < 128 := by
  simp only [isGraphic, Bool.and_eq_true, decide_eq_true_eq] at graphic
  omega

/-- Visible characters are not padding. -/
theorem not_isPadding_of_isGraphic {character : Char} (graphic : isGraphic character = true) :
    isPadding character = false := by
  rw [isPadding, Bool.or_eq_false_iff, beq_eq_false_iff_ne, beq_eq_false_iff_ne]
  constructor
  · rintro rfl
    contradiction
  · rintro rfl
    contradiction

/-- The byte of an ASCII character is its encoding. -/
theorem utf8EncodeChar_of_ascii {character : Char} (ascii : character.toNat < 128) :
    String.utf8EncodeChar character = [asciiByte character] := by
  have bound : character.val.toNat ≤ 127 := Nat.le_of_lt_succ ascii
  simp only [String.utf8EncodeChar, if_pos bound, asciiByte, if_pos ascii]
  rfl

/-- The bytes of ASCII characters read as these characters. -/
theorem utf8Decode?_map_asciiByte {characters : List Char}
    (ascii : ∀ character ∈ characters, character.toNat < 128) :
    (ByteArray.mk (characters.map asciiByte).toArray).utf8Decode? = some characters.toArray := by
  have encoded : characters.flatMap String.utf8EncodeChar = characters.map asciiByte := by
    induction characters with
    | nil => rfl
    | cons character rest ih =>
        obtain ⟨first, others⟩ := List.forall_mem_cons.mp ascii
        rw [List.flatMap_cons, utf8EncodeChar_of_ascii first, ih others]
        rfl
  have bytes : ByteArray.mk (characters.map asciiByte).toArray = characters.utf8Encode := by
    rw [List.utf8Encode, encoded, ← List.data_toByteArray]
  rw [bytes, List.utf8Decode?_utf8Encode]

/-- Text that fits is followed by spaces. -/
theorem toList_pad {width : Nat} {text : String} (fits : text.toList.length ≤ width) :
    (pad width text).toList =
      (text.toList ++ List.replicate (width - text.toList.length) ' ').map asciiByte := by
  apply List.ext_getElem
  · simp [fits]
  · intro index _ _
    simp only [pad, Vector.toList_ofFn, List.getElem_ofFn, List.getElem_map]
    by_cases inside : index < text.toList.length
    · rw [List.getElem?_eq_getElem inside, List.getElem_append_left inside]
    · rw [List.getElem?_eq_none (by omega), List.getElem_append_right (by omega),
        List.getElem_replicate]
      rfl

/-- ASCII text that fits into a field and does not end in padding is read back from it. -/
theorem unpad_pad {width : Nat} {text : String} (fits : text.toList.length ≤ width)
    (ascii : ∀ character ∈ text.toList, character.toNat < 128)
    (whole : ∀ character, text.toList.getLast? = some character → isPadding character = false) :
    unpad (pad width text).toList = text := by
  have asciiField : ∀ character ∈
      text.toList ++ List.replicate (width - text.toList.length) ' ', character.toNat < 128 := by
    rintro character mem
    rcases List.mem_append.mp mem with given | filled
    · exact ascii character given
    · rw [List.eq_of_mem_replicate filled]
      decide
  have stripped : text.toList.reverse.dropWhile isPadding = text.toList.reverse := by
    cases reversed : text.toList.reverse with
    | nil => rfl
    | cons last rest =>
        have ends : text.toList.getLast? = some last := by
          rw [← List.head?_reverse, reversed]
          rfl
        rw [List.dropWhile_cons_of_neg]
        simp [whole last ends]
  rw [toList_pad fits, unpad, utf8Decode?_map_asciiByte asciiField]
  simp only [List.reverse_append, List.reverse_replicate]
  rw [List.dropWhile_append_of_pos, stripped, List.reverse_reverse, String.ofList_toList]
  rintro character mem
  rw [List.eq_of_mem_replicate mem]
  rfl

end MapleBus.Text
