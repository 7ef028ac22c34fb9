import WeatherRelay.Decimal.Numeral
import WeatherRelay.Fault
import WeatherRelay.Passcode
import WeatherRelay.Text.Blank

/-! Stations that report, and how they come out of their settings. -/

set_option autoImplicit false

namespace WeatherRelay

/-- The name and version under which reports are made. -/
def software : String := "remoteweather"

def version : String := "0.4.0"

structure ReportEntry where
  enabled : Bool := true
  callsign : String := ""
  /-- Derived from the callsign where absent or blank. -/
  passcode : Option String := none
  latitude : Binary64 := 0
  longitude : Binary64 := 0
  symbolTable : String := "/"
  symbolCode : String := "_"
  comment : Option String := none
  deriving DecidableEq

structure StationEntry where
  name : String
  report : Option ReportEntry := none
  deriving DecidableEq

/-- What a client says about itself. -/
structure Login where
  callsign : String
  passcode : UInt16
  software : String
  version : String
  deriving DecidableEq, Repr

/-- The line that is sent, with its line end. -/
def Login.text (login : Login) : String :=
  "user " ++ login.callsign ++ " pass " ++ toString login.passcode.toNat ++ " vers " ++
    login.software ++ "-" ++ login.version ++ "\r\n"

structure Station where
  /-- The name that readings of this station carry. -/
  name : String
  callsign : String
  passcode : UInt16
  latitude : Binary64
  longitude : Binary64
  symbolTable : Char
  symbolCode : Char
  comment : Option String
  deriving DecidableEq

namespace Station

/-- Decimal digits, at most 65535, after an optional plus sign. -/
def passcodeOfText? (text : String) : Option UInt16 :=
  (Decimal.naturalOf? 65535 text).map UInt16.ofNat

/-- The passcode that is configured, or else the one that belongs to the callsign. -/
def configuredPasscode (name callsign : String) (passcode : Option String) :
    Except ReportError UInt16 :=
  match passcode with
  | none => .ok (Passcode.ofCallsign callsign)
  | some text =>
    let text := Text.trim text
    if text = "" then .ok (Passcode.ofCallsign callsign)
    else
      match passcodeOfText? text with
      | some passcode => .ok passcode
      | none => .error (.configuration (.passcodeNotNumber name text))

def ofEntry (entry : StationEntry) : Except ReportError (Option Station) :=
  match entry.report with
  | none => .ok none
  | some report =>
    if !report.enabled then .ok none
    else
      let callsign := String.ofList ((Text.trim report.callsign).toList.map Char.toUpper)
      if callsign = "" then .error (.configuration (.callsignRequired entry.name))
      else if report.latitude.same 0 && report.longitude.same 0 then
        .error (.configuration (.locationRequired entry.name))
      else do
        let passcode ← configuredPasscode entry.name callsign report.passcode
        .ok (some {
          name := entry.name
          callsign
          passcode
          latitude := report.latitude
          longitude := report.longitude
          symbolTable := report.symbolTable.toList.head?.getD '/'
          symbolCode := report.symbolCode.toList.head?.getD '_'
          comment := report.comment.filter fun comment => Text.trim comment != "" })

/-- The stations that report, in order, or the first error. -/
def ofEntries : List StationEntry → Except ReportError (List Station)
  | [] => .ok []
  | entry :: rest => do
    let station ← ofEntry entry
    let stations ← ofEntries rest
    .ok (station.toList ++ stations)

def login (station : Station) : Login := ⟨station.callsign, station.passcode, software, version⟩

end Station

end WeatherRelay
