import WeatherRelay.Json.Reader

/-! Literal socket addresses: an address of the network and a port. -/

set_option autoImplicit false

namespace WeatherRelay

/-- Four octets and a port, or eight groups of sixteen bits, a scope and a port. -/
inductive SocketAddress where
  | v4 (octets : List Nat) (port : Nat)
  | v6 (groups : List Nat) (scope port : Nat)
  deriving DecidableEq, Repr

namespace SocketAddress

/-! ### Writing -/

def octetsText (octets : List Nat) : String := String.intercalate "." (octets.map toString)

def groupText (group : Nat) : String := String.ofList (Nat.toDigits 16 group)

def groupsText (groups : List Nat) : String := String.intercalate ":" (groups.map groupText)

def zeroRun (groups : List Nat) : Nat := (groups.takeWhile (· = 0)).length

/-- The first longest run of zeros: its start and its length. -/
def longestZeroRun (groups : List Nat) : Nat × Nat :=
  (List.range groups.length).foldl
    (fun best start =>
      let length := zeroRun (groups.drop start)
      if best.2 < length then (start, length) else best)
    (0, 0)

def groupOctets (group : Nat) : List Nat := [group / 256, group % 256]

/-- Groups with their first longest run of zeros, if there are two in it, left out; octets where
the address is one of four octets in another dress. -/
def v6Text (groups : List Nat) : String :=
  if groups.take 6 = [0, 0, 0, 0, 0, 0xFFFF] then
    "::ffff:" ++ octetsText ((groups.drop 6).flatMap groupOctets)
  else
    let (start, length) := longestZeroRun groups
    if 1 < length then
      groupsText (groups.take start) ++ "::" ++ groupsText (groups.drop (start + length))
    else groupsText groups

def text : SocketAddress → String
  | v4 octets port => octetsText octets ++ ":" ++ toString port
  | v6 groups scope port =>
    "[" ++ v6Text groups ++ (if scope = 0 then "" else "%" ++ toString scope) ++ "]:" ++
      toString port

/-! ### Reading -/

/-- What reads from the front of a text, with the text behind it. -/
abbrev Reader (α : Type) := List Char → Option (α × List Char)

def isDigitOf (base : Nat) (c : Char) : Bool := (Json.hexValue? c).any (· < base)

/-- A number of at most `width` digits, no more than a bound. -/
def readNumber (base width bound : Nat) (leadingZeros : Bool) : Reader Nat := fun text =>
  let digits := text.takeWhile (isDigitOf base)
  let value := digits.foldl (fun value c => base * value + (Json.hexValue? c).getD 0) 0
  if digits.isEmpty || width < digits.length || bound < value ||
      (!leadingZeros && 1 < digits.length && digits.head? = some '0') then none
  else some (value, text.drop digits.length)

def readMark (mark : Char) : Reader Unit
  | c :: rest => if c = mark then some ((), rest) else none
  | [] => none

def readOctet : Reader Nat := readNumber 10 3 255 false

def readOctets : Reader (List Nat) := fun text => do
  let (a, text) ← readOctet text
  let ((), text) ← readMark '.' text
  let (b, text) ← readOctet text
  let ((), text) ← readMark '.' text
  let (c, text) ← readOctet text
  let ((), text) ← readMark '.' text
  let (d, text) ← readOctet text
  some ([a, b, c, d], text)

/-- The colon in front of every group but the first. -/
def readSeparator (first : Bool) : Reader Unit := fun text =>
  if first then some ((), text) else readMark ':' text

/-- Up to `room` groups. Four octets may stand for the last two of them, and the flag tells
whether they do. -/
def readGroups (first : Bool) (room : Nat) (text : List Char) : List Nat × Bool × List Char :=
  match room with
  | 0 => ([], false, text)
  | room + 1 =>
    let octets :=
      if room = 0 then none
      else (readSeparator first text).bind fun ((), text) => readOctets text
    match octets with
    | some ([a, b, c, d], text) => ([256 * a + b, 256 * c + d], true, text)
    | _ =>
      match (readSeparator first text).bind fun ((), text) => readNumber 16 4 0xFFFF true text with
      | none => ([], false, text)
      | some (group, text) =>
        let (groups, mixed, text) := readGroups false room text
        (group :: groups, mixed, text)

/-- Eight groups, or fewer around two colons that stand for zeros. -/
def readV6Groups : Reader (List Nat) := fun text => do
  let (head, mixed, text) := readGroups true 8 text
  if head.length = 8 then some (head, text)
  else if mixed then none
  else
    let ((), text) ← readMark ':' text
    let ((), text) ← readMark ':' text
    let (tail, _, text) := readGroups true (7 - head.length) text
    some (head ++ List.replicate (8 - head.length - tail.length) 0 ++ tail, text)

def readPort : Reader Nat := fun text => do
  let ((), text) ← readMark ':' text
  readNumber 10 text.length 65535 true text

def readV4 : Reader SocketAddress := fun text => do
  let (octets, text) ← readOctets text
  let (port, text) ← readPort text
  some (.v4 octets port, text)

def readScope : Reader Nat
  | '%' :: rest => readNumber 10 rest.length (twoTo 32 - 1) true rest
  | text => some (0, text)

def readV6 : Reader SocketAddress := fun text => do
  let ((), text) ← readMark '[' text
  let (groups, text) ← readV6Groups text
  let (scope, text) ← readScope text
  let ((), text) ← readMark ']' text
  let (port, text) ← readPort text
  some (.v6 groups scope port, text)

def ofText? (text : String) : Option SocketAddress :=
  match (readV4 text.toList).orElse fun () => readV6 text.toList with
  | some (address, []) => some address
  | _ => none

end SocketAddress

end WeatherRelay
