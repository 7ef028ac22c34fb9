import WeatherRelay.Json.Reader

/-! The tokens of a TOML document. -/

set_option autoImplicit false

namespace WeatherRelay.Toml

inductive Token where
  | blank (text : List Char)
  | newline
  | comment
  | equals
  | period
  | comma
  | colon
  | plus
  | leftBrace
  | rightBrace
  | leftBracket
  | rightBracket
  /-- Letters, digits, dashes and underscores: a key, a number, or a part of a date. -/
  | bare (text : List Char)
  | string (text : List Char) (multiline : Bool)
  deriving DecidableEq, Repr

/-- A carriage return before a line feed counts as nothing. -/
def foldLineEnds : List Char → List Char
  | '\r' :: '\n' :: rest => '\n' :: foldLineEnds rest
  | c :: rest => c :: foldLineEnds rest
  | [] => []

def isSpace (c : Char) : Bool := c = ' ' || c = '\t'

def isBare (c : Char) : Bool := c.isAlphanum || c = '-' || c = '_'

def isCommentChar (c : Char) : Bool := c = '\t' || ' ' ≤ c

def isStringChar (c : Char) : Bool := c = '\t' || (' ' ≤ c && c != '\x7f')

abbrev StringPart := List Char × List Char

def StringPart.push (c : Char) (part : StringPart) : StringPart := (c :: part.1, part.2)

/-- The character of a code in hexadecimal digits, if they are that many and there is one. -/
def readCode (digits : Nat) (input : List Char) : Option (Char × List Char) := do
  let code := input.take digits
  if code.length < digits then none
  else
    let value ← code.foldlM (fun value c => do some (16 * value + (← Json.hexValue? c))) 0
    if value < 0xD800 || (0xE000 ≤ value && value < 0x110000) then
      some (Char.ofNat value, input.drop digits)
    else none

/-- The input behind the line end that a backslash hides, with all blanks and line ends there. -/
def skipHidden (input : List Char) : Option (List Char) :=
  match input.dropWhile isSpace with
  | '\n' :: rest => some (rest.dropWhile fun c => isSpace c || c = '\n')
  | [] => some []
  | _ => none

/-- The character that an escape stands for, none where it hides a line end, and the input
behind it. -/
def readEscape (multiline : Bool) : List Char → Option (Option Char × List Char)
  | [] => none
  | c :: rest =>
    let known (value : Char) : Option (Option Char × List Char) := some (some value, rest)
    if c = '"' || c = '\\' then known c
    else if c = 'b' then known '\x08'
    else if c = 'f' then known '\x0c'
    else if c = 'n' then known '\n'
    else if c = 'r' then known '\r'
    else if c = 't' then known '\t'
    else if c = 'u' then (readCode 4 rest).map fun (value, rest) => (some value, rest)
    else if c = 'U' then (readCode 8 rest).map fun (value, rest) => (some value, rest)
    else if multiline && (isSpace c || c = '\n') then
      (skipHidden (c :: rest)).map fun rest => (none, rest)
    else none

/-- The rest of a string that was closed by three quotes: up to two more quotes belong to it. -/
def closeMultiline (quote : Char) : List Char → StringPart
  | a :: b :: rest =>
    if a = quote then if b = quote then ([quote, quote], rest) else ([quote], b :: rest)
    else ([], a :: b :: rest)
  | [a] => if a = quote then ([quote], []) else ([], [a])
  | [] => ([], [])

/-- The body of a string up to its closing quotes. -/
def readBody (quote : Char) (multiline : Bool) : Nat → List Char → Option StringPart
  | 0, _ => none
  | _, [] => none
  | fuel + 1, c :: rest =>
    if c = quote then
      if !multiline then some ([], rest)
      else
        match rest with
        | a :: b :: rest =>
          if a = quote && b = quote then some (closeMultiline quote rest)
          else (readBody quote multiline fuel (a :: b :: rest)).map (.push c)
        | rest => (readBody quote multiline fuel rest).map (.push c)
    else if c = '\n' then
      if multiline then (readBody quote multiline fuel rest).map (.push c) else none
    else if c = '\\' && quote = '"' then
      match readEscape multiline rest with
      | none => none
      | some (none, rest) => readBody quote multiline fuel rest
      | some (some value, rest) => (readBody quote multiline fuel rest).map (.push value)
    else if isStringChar c then (readBody quote multiline fuel rest).map (.push c)
    else none

def readString (quote : Char) (input : List Char) : Option (Token × List Char) :=
  let body (multiline : Bool) (input : List Char) : Option (Token × List Char) :=
    (readBody quote multiline (input.length + 1) input).map fun (text, rest) =>
      (.string text multiline, rest)
  match input with
  | a :: b :: rest =>
    if a = quote then
      if b = quote then
        match rest with
        | '\n' :: rest => body true rest
        | rest => body true rest
      else some (.string [] false, b :: rest)
    else body false input
  | [a] => if a = quote then some (.string [] false, []) else none
  | [] => none

/-- The first token, and the input behind it. -/
def readToken : List Char → Option (Token × List Char)
  | [] => none
  | c :: rest =>
    if c = '\n' then some (.newline, rest)
    else if isSpace c then
      some (.blank (c :: rest.takeWhile isSpace), rest.dropWhile isSpace)
    else if c = '#' then some (.comment, rest.dropWhile isCommentChar)
    else if c = '=' then some (.equals, rest)
    else if c = '.' then some (.period, rest)
    else if c = ',' then some (.comma, rest)
    else if c = ':' then some (.colon, rest)
    else if c = '+' then some (.plus, rest)
    else if c = '\x7b' then some (.leftBrace, rest)
    else if c = '\x7d' then some (.rightBrace, rest)
    else if c = '[' then some (.leftBracket, rest)
    else if c = ']' then some (.rightBracket, rest)
    else if c = '\'' || c = '"' then readString c rest
    else if isBare c then some (.bare (c :: rest.takeWhile isBare), rest.dropWhile isBare)
    else none

def tokensWithin : Nat → List Char → Option (List Token)
  | _, [] => some []
  | 0, _ => none
  | fuel + 1, input => do
    let (token, rest) ← readToken input
    some (token :: (← tokensWithin fuel rest))

/-- All tokens of a document. A byte order mark in front of it counts as nothing. -/
def tokens? (text : String) : Option (List Token) :=
  let input := foldLineEnds text.toList
  let input :=
    match input with
    | '\uFEFF' :: rest => rest
    | input => input
  tokensWithin input.length input

end WeatherRelay.Toml
