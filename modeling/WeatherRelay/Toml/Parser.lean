import WeatherRelay.Toml.DateTime
import WeatherRelay.Toml.Lexer
import WeatherRelay.Toml.Number
import WeatherRelay.Toml.Value

/-! Keys, values and lines of a TOML document. -/

set_option autoImplicit false

namespace WeatherRelay.Toml

/-- What reads from the front of the tokens, with the tokens behind it. -/
abbrev Reader (α : Type) := List Token → Option (α × List Token)

def skipBlank : List Token → List Token
  | .blank _ :: rest => rest
  | tokens => tokens

def expect? (token : Token) (tokens : List Token) : Option (List Token) :=
  match skipBlank tokens with
  | [] => none
  | first :: rest => if first = token then some rest else none

def endLine? (tokens : List Token) : Option (List Token) :=
  let tokens :=
    match skipBlank tokens with
    | .comment :: rest => rest
    | tokens => tokens
  match tokens with
  | [] => some []
  | .newline :: rest => some rest
  | _ => none

def readKey : Reader String
  | .bare text :: rest => some (String.ofList text, rest)
  | .string text false :: rest => some (String.ofList text, rest)
  | _ => none

/-- Keys with points between them. `fuel` is at least the number of tokens. -/
def readDottedKey : Nat → Reader (List String)
  | 0, _ => none
  | fuel + 1, tokens => do
    let (key, tokens) ← readKey tokens
    match skipBlank tokens with
    | .period :: tokens =>
      let (keys, tokens) ← readDottedKey fuel (skipBlank tokens)
      some (key :: keys, tokens)
    | tokens => some ([key], tokens)

/-! ### Scalars -/

/-- The power of ten of a float, given what stands behind its digits: nothing, or an `e` and a
number, which is in the next token where it has a plus sign. -/
def readPower (text : List Char) : Reader (Option Int) := fun tokens =>
  match text with
  | [] => some (none, tokens)
  | mark :: digits =>
    if mark != 'e' && mark != 'E' then none
    else if digits.isEmpty then
      let tokens :=
        match tokens with
        | .plus :: rest => rest
        | tokens => tokens
      match tokens with
      | .bare text :: rest => do
        let (digits, behind) ← readDigits 10 false false text
        if behind.isEmpty then some (some (valueOf 10 digits : Int), rest) else none
      | _ => none
    else do
      let (negative, digits) := Decimal.takeSign digits
      let (digits, behind) ← readDigits 10 false false digits
      let power : Int := valueOf 10 digits
      if behind.isEmpty then some (some (if negative then -power else power), tokens) else none

/-- A float: digits, those behind the point if there is one, and the power of ten if there is
one. It must be finite. -/
def readFloat (text : List Char) (fraction : Option (List Char)) : Reader Value := fun tokens => do
  let (negative, whole, suffix) ← readSigned text
  let (places, suffix) ←
    match fraction with
    | none => some ([], suffix)
    | some text => if suffix.isEmpty then readDigits 10 false false text else none
  let (power, tokens) ← readPower suffix tokens
  let decimal : Decimal :=
    ⟨negative, valueOf 10 (whole ++ places), power.getD 0 - (places.length : Nat)⟩
  match decimal.toBinary .double with
  | .finite sign rank => some (.float (.finite sign rank), tokens)
  | _ => none

def hasExponent (text : List Char) : Bool := text.contains 'e' || text.contains 'E'

def readNumber (text : List Char) : Reader Value := fun tokens =>
  let whole (value : Option Int) : Option (Value × List Token) :=
    value.map fun value => (.integer value, tokens)
  match text with
  | '0' :: 'x' :: digits => whole (based? 16 digits)
  | '0' :: 'o' :: digits => whole (based? 8 digits)
  | '0' :: 'b' :: digits => whole (based? 2 digits)
  | text =>
    if hasExponent text then readFloat text none tokens
    else
      match tokens with
      | .period :: .bare fraction :: rest => readFloat text (some fraction) rest
      | .period :: _ => none
      | tokens =>
        if text = ['i', 'n', 'f'] then some (.float (.infinity false), tokens)
        else if text = ['-', 'i', 'n', 'f'] then some (.float (.infinity true), tokens)
        else if text = ['n', 'a', 'n'] || text = ['-', 'n', 'a', 'n'] then
          some (.float .nan, tokens)
        else whole (decimal? text)

/-- A bare token behind a given mark, as the text that both have in the document. -/
def readMarked (mark : Token) (text : List Char) : Reader (List Char) := fun tokens =>
  match tokens with
  | first :: rest =>
    if first = mark then
      match rest with
      | .bare digits :: rest => some (text ++ digits, rest)
      | _ => none
    else some ([], tokens)
  | [] => some ([], [])

/-- Minutes, seconds, a fraction and an offset, behind an hour and its colon. -/
def readClock : Reader (List Char)
  | .bare minute :: .colon :: .bare second :: tokens => do
    let (fraction, tokens) ← readMarked .period ['.'] tokens
    let (offset, tokens) ← readMarked .plus ['+'] tokens
    let (offsetMinute, tokens) ← readMarked .colon [':'] tokens
    some (minute ++ ':' :: second ++ fraction ++ offset ++ offsetMinute, tokens)
  | _ => none

/-- The hour that one space divides from its date, if it is there. -/
def readSpacedHour : List Token → List Char × List Token
  | .blank [' '] :: .bare hour :: rest => (' ' :: hour, rest)
  | tokens => ([], tokens)

def readDateTime (text : List Char) : Reader Value := fun tokens => do
  let (hour, tokens) := readSpacedHour tokens
  let (clock, tokens) ←
    match tokens with
    | .colon :: rest => (readClock rest).map fun (clock, rest) => (':' :: clock, rest)
    | tokens => some ([], tokens)
  some (.text (← dateTime? (text ++ hour ++ clock)), tokens)

/-- Whether a bare token is the start of a date rather than of a number. -/
def startsDate (text : List Char) : Bool :=
  text.contains 'T' || text.contains 't' ||
    ((text.drop 1).contains '-' &&
      !(text.zip (text.drop 1)).any fun (a, b) => (a = 'e' || a = 'E') && b = '-')

def readBare (text : List Char) : Reader Value := fun tokens =>
  if text = ['t', 'r', 'u', 'e'] then some (.bool true, tokens)
  else if text = ['f', 'a', 'l', 's', 'e'] then some (.bool false, tokens)
  else if text = ['i', 'n', 'f'] || text = ['n', 'a', 'n'] ||
      text.head?.any fun c => c = '-' || c.isDigit then
    if startsDate text then readDateTime text tokens
    else
      match tokens with
      | .colon :: _ => readDateTime text tokens
      | tokens => readNumber text tokens
  else none

/-! ### Values -/

/-- Blanks, line ends and comments inside an array. -/
def skipLines : Nat → List Token → Option (List Token)
  | 0, _ => none
  | fuel + 1, tokens =>
    match skipBlank tokens with
    | .newline :: rest => skipLines fuel rest
    | .comment :: rest => do skipLines fuel (← endLine? rest)
    | tokens => some tokens

mutual

def readValue : Nat → Reader Value
  | 0, _ => none
  | fuel + 1, tokens =>
    match tokens with
    | .string text _ :: rest => some (.text (String.ofList text), rest)
    | .bare text :: rest => readBare text rest
    | .plus :: .bare text :: rest => readNumber text rest
    | .leftBracket :: rest => (readItems fuel rest).map fun (items, rest) => (.array items, rest)
    | .leftBrace :: rest =>
      match skipBlank rest with
      | .rightBrace :: rest => some (.table false [], rest)
      | rest => (readPairs fuel [] rest).map fun (entries, rest) => (.table false entries, rest)
    | _ => none

def readItems : Nat → Reader (List Value)
  | 0, _ => none
  | fuel + 1, tokens => do
    let tokens ← skipLines (tokens.length + 1) tokens
    match tokens with
    | .rightBracket :: rest => some ([], rest)
    | tokens =>
      let (item, tokens) ← readValue fuel tokens
      let tokens ← skipLines (tokens.length + 1) tokens
      match tokens with
      | .comma :: rest => (readItems fuel rest).map fun (items, rest) => (item :: items, rest)
      | .rightBracket :: rest => some ([item], rest)
      | _ => none

/-- The pairs of a table on one line and its closing brace, added to the entries before them. -/
def readPairs : Nat → Entries → Reader Entries
  | 0, _, _ => none
  | fuel + 1, entries, tokens => do
    let (key, tokens) ← readDottedKey tokens.length tokens
    let tokens ← expect? .equals tokens
    let (value, tokens) ← readValue fuel (skipBlank tokens)
    let entries ← entries.addDotted? value key
    match skipBlank tokens with
    | .rightBrace :: rest => some (entries, rest)
    | .comma :: rest => readPairs fuel entries (skipBlank rest)
    | _ => none

end

/-! ### Lines -/

inductive Line where
  | header (path : List String) (array : Bool)
  | pair (path : List String) (value : Value)

/-- A header between brackets, behind the first one. -/
def readHeader (tokens : List Token) : Option (Line × List Token) := do
  let (array, tokens) :=
    match tokens with
    | .leftBracket :: rest => (true, rest)
    | tokens => (false, tokens)
  let tokens := skipBlank tokens
  let (path, tokens) ← readDottedKey tokens.length tokens
  let tokens ← expect? .rightBracket tokens
  let tokens ←
    if array then
      match tokens with
      | .rightBracket :: rest => some rest
      | _ => none
    else some tokens
  some (.header path array, ← endLine? tokens)

def readPair (tokens : List Token) : Option (Line × List Token) := do
  let (path, tokens) ← readDottedKey tokens.length tokens
  let tokens ← expect? .equals tokens
  let tokens := skipBlank tokens
  let (value, tokens) ← readValue (2 * tokens.length + 2) tokens
  some (.pair path value, ← endLine? tokens)

def linesWithin : Nat → List Token → Option (List Line)
  | 0, _ => none
  | fuel + 1, tokens =>
    match skipBlank tokens with
    | [] => some []
    | .newline :: rest => linesWithin fuel rest
    | .comment :: rest => do linesWithin fuel (← endLine? rest)
    | .leftBracket :: rest => do
      let (line, rest) ← readHeader rest
      some (line :: (← linesWithin fuel rest))
    | tokens => do
      let (line, rest) ← readPair tokens
      some (line :: (← linesWithin fuel rest))

def lines? (tokens : List Token) : Option (List Line) := linesWithin (tokens.length + 1) tokens

end WeatherRelay.Toml
