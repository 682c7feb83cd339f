import MapleBus.Text.Numeral

/-!
# Lexemes of JSON text

JSON text is split into punctuation, words, numbers and strings by an
automaton that reads one character at a time.  A number keeps its value only
when it is a plain natural number, written without sign, fraction or exponent.
A string keeps its content only when its escapes name characters; half a
surrogate pair is allowed in a string that nobody reads.
-/

namespace MapleBus.Json

/-- A lexeme of JSON text. -/
inductive Token where
  | beginObject
  | endObject
  | beginArray
  | endArray
  | colon
  | comma
  | null
  | boolean (value : Bool)
  | number (natural : Option Nat)
  | text (content : Option String)
  deriving DecidableEq, Repr

/-- A character of a string, or a code unit that an escape names. -/
inductive Piece where
  | plain (character : Char)
  | unit (code : Nat)

/-- The characters that pieces stand for, with a high and a low surrogate in
a row as one character.  A surrogate on its own stands for nothing. -/
def characters? : List Piece → Option (List Char)
  | [] => some []
  | .plain character :: rest => (characters? rest).map (character :: ·)
  | .unit code :: rest =>
      if 0xD800 ≤ code ∧ code < 0xDC00 then
        match rest with
        | .unit low :: rest =>
            if 0xDC00 ≤ low ∧ low < 0xE000 then
              let combined := 0x10000 + (code - 0xD800) * 0x400 + (low - 0xDC00)
              (characters? rest).map (Char.ofNat combined :: ·)
            else
              none
        | _ => none
      else if 0xDC00 ≤ code ∧ code < 0xE000 then
        none
      else
        (characters? rest).map (Char.ofNat code :: ·)

/-- The digits at the front of a text, at least one, and what follows. -/
def digits? (characters : List Char) : Option (List Char × List Char) :=
  match characters.takeWhile Text.Numeral.isDigit with
  | [] => none
  | digits => some (digits, characters.dropWhile Text.Numeral.isDigit)

/-- What follows an optional fraction. -/
def afterFraction? : List Char → Option (List Char)
  | '.' :: rest => (digits? rest).map Prod.snd
  | rest => some rest

/-- What follows an optional exponent. -/
def afterExponent? : List Char → Option (List Char)
  | mark :: sign :: rest =>
      if mark = 'e' ∨ mark = 'E' then
        if sign = '+' ∨ sign = '-' then
          (digits? rest).map Prod.snd
        else
          (digits? (sign :: rest)).map Prod.snd
      else
        some (mark :: sign :: rest)
  | rest => some rest

/-- The number token whose spelling is the whole text. -/
def number? (spelling : List Char) : Option Token := do
  let unsigned :=
    match spelling with
    | '-' :: rest => rest
    | rest => rest
  let (digits, rest) ← digits? unsigned
  guard (digits.head? ≠ some '0' ∨ digits.length = 1)
  let final ← (afterFraction? rest).bind afterExponent?
  guard final.isEmpty
  return .number (Text.Numeral.read? spelling)

/-- The token whose spelling is a run of letters, digits, signs and points. -/
def word? (spelling : List Char) : Option Token :=
  if spelling = ['n', 'u', 'l', 'l'] then
    some .null
  else if spelling = ['t', 'r', 'u', 'e'] then
    some (.boolean true)
  else if spelling = ['f', 'a', 'l', 's', 'e'] then
    some (.boolean false)
  else
    number? spelling

/-- The token of a single character. -/
def punctuation? : Char → Option Token
  | '{' => some .beginObject
  | '}' => some .endObject
  | '[' => some .beginArray
  | ']' => some .endArray
  | ':' => some .colon
  | ',' => some .comma
  | _ => none

/-- The character a short escape names. -/
def escape? : Char → Option Char
  | '"' => some '"'
  | '\\' => some '\\'
  | '/' => some '/'
  | 'b' => some '\x08'
  | 'f' => some '\x0c'
  | 'n' => some '\n'
  | 'r' => some '\r'
  | 't' => some '\t'
  | _ => none

/-- The value of a hexadecimal digit. -/
def hexDigit? (character : Char) : Option Nat :=
  if '0' ≤ character ∧ character ≤ '9' then
    some (character.toNat - '0'.toNat)
  else if 'a' ≤ character ∧ character ≤ 'f' then
    some (character.toNat - 'a'.toNat + 10)
  else if 'A' ≤ character ∧ character ≤ 'F' then
    some (character.toNat - 'A'.toNat + 10)
  else
    none

/-- Whether a character may stand in a word. -/
def isWordCharacter (character : Char) : Bool :=
  Text.Numeral.isDigit character || ('a' ≤ character && character ≤ 'z') ||
    ('A' ≤ character && character ≤ 'Z') || character == '+' || character == '-' ||
    character == '.'

/-- Whether a character may stand between tokens. -/
def isSpace (character : Char) : Bool :=
  character == ' ' || character == '\t' || character == '\n' || character == '\r'

/-- What the automaton is reading.  Runs are kept last character first. -/
inductive Mode where
  | between
  | word (spelling : List Char)
  | string (pieces : List Piece)
  /-- After a backslash. -/
  | escaped (pieces : List Piece)
  /-- In an escape of four hexadecimal digits: how many are to come, and the
  value so far. -/
  | code (pieces : List Piece) (missing : Nat) (value : Nat)

/-- Read one character between tokens. -/
def startToken? (character : Char) : Option (Mode × List Token) :=
  if isSpace character then
    some (.between, [])
  else if character = '"' then
    some (.string [], [])
  else if isWordCharacter character then
    some (.word [character], [])
  else
    (punctuation? character).map fun token => (.between, [token])

/-- Read one character: the mode after it and the tokens that it ends. -/
def step? (mode : Mode) (character : Char) : Option (Mode × List Token) :=
  match mode with
  | .between => startToken? character
  | .word spelling =>
      if isWordCharacter character then
        some (.word (character :: spelling), [])
      else do
        let ended ← word? spelling.reverse
        let (mode, tokens) ← startToken? character
        return (mode, ended :: tokens)
  | .string pieces =>
      if character = '"' then
        let content := (characters? pieces.reverse).map String.ofList
        some (.between, [.text content])
      else if character = '\\' then
        some (.escaped pieces, [])
      else if character < ' ' then
        none
      else
        some (.string (.plain character :: pieces), [])
  | .escaped pieces =>
      if character = 'u' then
        some (.code pieces 3 0, [])
      else
        (escape? character).map fun named => (.string (.plain named :: pieces), [])
  | .code pieces missing value => do
      let digit ← hexDigit? character
      let value := value * 16 + digit
      match missing with
      | 0 => return (.string (.unit value :: pieces), [])
      | missing + 1 => return (.code pieces missing value, [])

/-- The tokens of the characters that follow, read from a given mode. -/
def tokensFrom? (mode : Mode) : List Char → Option (List Token)
  | [] =>
      match mode with
      | .between => some []
      | .word spelling => (word? spelling.reverse).map fun token => [token]
      | _ => none
  | character :: rest => do
      let (mode, ended) ← step? mode character
      let tokens ← tokensFrom? mode rest
      return ended ++ tokens

/-- The tokens of a text. -/
def tokens? (text : String) : Option (List Token) :=
  tokensFrom? .between text.toList

end MapleBus.Json
