import Mathlib.Data.List.Forall2
import WeatherRelay.Program
import WeatherRelay.Proofs.Binary.Order
import WeatherRelay.Proofs.Decimal.Digits
import WeatherRelay.Proofs.Text.Trimmed

/-! What the settings of stations become.

An entry that is to report has either a first fault, for which it is refused, or a station in normal
form. Such a station written as an entry again is that station.
-/

set_option autoImplicit false

namespace WeatherRelay

open Text (trim OnlyBlanks Trimmed)

theorem Binary.same_zero_iff {x : Binary64} : x.same 0 = true ↔ x.toRat? = some 0 :=
  same_zero_iff_toRat? (by decide)

namespace Station

/-! ### Passcodes -/

/-- Decimal digits, possibly behind a plus sign, of a number of sixteen bits. -/
def SpellsPasscode (text : String) (passcode : UInt16) : Prop :=
  ∃ digits, (text.toList = digits ∨ text.toList = '+' :: digits) ∧ digits ≠ [] ∧
    (∀ c ∈ digits, c.isDigit = true) ∧ Decimal.digitsValue digits = passcode.toNat

-- A plus sign is no digit, so the digits are all that stands behind it, or else the whole text.
theorem naturalOf?_eq_some_iff {bound n : Nat} {text : String} :
    Decimal.naturalOf? bound text = some n ↔ n ≤ bound ∧
      ∃ digits, (text.toList = digits ∨ text.toList = '+' :: digits) ∧ digits ≠ [] ∧
        (∀ c ∈ digits, c.isDigit = true) ∧ Decimal.digitsValue digits = n := by
  have unsigned (digits : List Char) :
      (if digits.isEmpty || !digits.all Char.isDigit then none
        else if Decimal.digitsValue digits ≤ bound then some (Decimal.digitsValue digits) else none) =
          some n ↔
        n ≤ bound ∧ digits ≠ [] ∧ (∀ c ∈ digits, c.isDigit = true) ∧
          Decimal.digitsValue digits = n := by
    simp only [Bool.or_eq_true, List.isEmpty_iff, Bool.not_eq_true', ← Bool.not_eq_true,
      List.all_eq_true, Option.ite_none_left_eq_some, Option.ite_none_right_eq_some,
      Option.some.injEq, not_or, not_not, ne_eq]
    constructor
    · rintro ⟨⟨something, digit⟩, within, rfl⟩
      exact ⟨within, something, digit, rfl⟩
    · rintro ⟨within, something, digit, rfl⟩
      exact ⟨⟨something, digit⟩, within, rfl⟩
  unfold Decimal.naturalOf?
  dsimp only
  split
  case h_1 rest spelled =>
    rw [unsigned, spelled]
    constructor
    · exact fun ⟨within, digits⟩ => ⟨within, rest, .inr rfl, digits⟩
    · rintro ⟨within, digits, whole | behind, something, digit, value⟩
      · have plus : '+'.isDigit = true := digit _ (whole ▸ List.mem_cons_self)
        exact absurd plus (by decide)
      · cases behind
        exact ⟨within, something, digit, value⟩
  case h_2 noPlus =>
    rw [unsigned]
    constructor
    · exact fun ⟨within, digits⟩ => ⟨within, text.toList, .inl rfl, digits⟩
    · rintro ⟨within, digits, rfl | behind, something, digit, value⟩
      · exact ⟨within, something, digit, value⟩
      · exact absurd behind (noPlus digits)

theorem passcodeOfText?_eq_some_iff {text : String} {passcode : UInt16} :
    passcodeOfText? text = some passcode ↔ SpellsPasscode text passcode := by
  have small : passcode.toNat ≤ 65535 := Nat.le_of_lt_succ passcode.toNat_lt
  simp only [passcodeOfText?, Option.map_eq_some_iff, naturalOf?_eq_some_iff]
  constructor
  · rintro ⟨n, ⟨within, digits, spelled, something, digit, rfl⟩, rfl⟩
    refine ⟨digits, spelled, something, digit, ?_⟩
    rw [UInt16.toNat_ofNat_of_lt' (Nat.lt_succ_of_le within)]
  · rintro ⟨digits, spelled, something, digit, value⟩
    exact ⟨passcode.toNat, ⟨small, digits, spelled, something, digit, value⟩, UInt16.ofNat_toNat⟩

theorem spellsPasscode_toString (passcode : UInt16) :
    SpellsPasscode (toString passcode.toNat) passcode := by
  refine ⟨_, .inl (Decimal.toList_toString _), Decimal.padded_ne_nil _ _, fun c member => ?_,
    Decimal.digitsValue_padded _ _⟩
  exact Decimal.isDigit_of_mem_padded member

/-- Letter case makes no difference to a passcode. -/
theorem ofCallsign_upperCase (callsign : String) :
    Passcode.ofCallsign (upperCase callsign) = Passcode.ofCallsign callsign := by
  have hyphen (c : Char) : decide (c.toUpper ≠ '-') = decide (c ≠ '-') := by
    rw [decide_eq_decide, ne_eq, ne_eq, toUpper_eq_iff (by decide)]
  have base : Passcode.base (upperCase callsign) = Passcode.base callsign := by
    simp only [Passcode.base, upperCase, String.toList_ofList, List.takeWhile_map, List.map_map,
      Function.comp_def, toUpper_toUpper, hyphen]
  rw [Passcode.ofCallsign, base, Passcode.ofCallsign]

/-- The passcode of a callsign: the configured one, or else the one that is derived. -/
inductive HasPasscode (callsign : String) : Option String → UInt16 → Prop where
  | absent : HasPasscode callsign none (Passcode.ofCallsign callsign)
  | blank {text : String} : OnlyBlanks text →
      HasPasscode callsign (some text) (Passcode.ofCallsign callsign)
  | configured {text : String} {passcode : UInt16} : ¬ OnlyBlanks text →
      SpellsPasscode (trim text) passcode → HasPasscode callsign (some text) passcode

section ConfiguredPasscode

variable {name callsign text : String}

theorem configuredPasscode_blank (blank : OnlyBlanks text) :
    configuredPasscode name callsign (some text) = .ok (Passcode.ofCallsign callsign) := by
  simp only [configuredPasscode, Text.trim_eq_empty_iff.mpr blank, if_true]

theorem configuredPasscode_given (given : ¬ OnlyBlanks text) :
    configuredPasscode name callsign (some text) =
      match passcodeOfText? (trim text) with
      | some passcode => .ok passcode
      | none => .error (.configuration (.passcodeNotNumber name (trim text))) := by
  exact if_neg (mt Text.trim_eq_empty_iff.mp given)

theorem configuredPasscode_eq_ok_iff {configured : Option String} {passcode : UInt16} :
    configuredPasscode name callsign configured = .ok passcode ↔
      HasPasscode callsign configured passcode := by
  cases configured with
  | none =>
    constructor
    · rintro ⟨⟩
      exact .absent
    · rintro ⟨⟩
      rfl
  | some text =>
    by_cases blank : OnlyBlanks text
    · rw [configuredPasscode_blank blank]
      constructor
      · rintro ⟨⟩
        exact .blank blank
      · rintro (_ | _ | ⟨given, -⟩)
        · rfl
        · exact absurd blank given
    · rw [configuredPasscode_given blank]
      constructor
      · intro accepted
        cases spelled : passcodeOfText? (trim text) with
        | none =>
          rw [spelled] at accepted
          cases accepted
        | some configured =>
          rw [spelled] at accepted
          cases accepted
          exact .configured blank (passcodeOfText?_eq_some_iff.mp spelled)
      · rintro (_ | only | ⟨-, spells⟩)
        · exact absurd only blank
        · rw [passcodeOfText?_eq_some_iff.mpr spells]

/-- A text that is configured is no passcode. -/
def NoPasscode (text : String) : Prop :=
  ¬ OnlyBlanks text ∧ ∀ passcode, ¬ SpellsPasscode (trim text) passcode

theorem configuredPasscode_eq_error_iff {configured : Option String} {error : ReportError} :
    configuredPasscode name callsign configured = .error error ↔
      ∃ text, configured = some text ∧ NoPasscode text ∧
        error = .configuration (.passcodeNotNumber name (trim text)) := by
  cases configured with
  | none => simp [configuredPasscode]
  | some text =>
    by_cases blank : OnlyBlanks text
    · simp [configuredPasscode_blank blank, NoPasscode, blank]
    · have unspelled : passcodeOfText? (trim text) = none ↔
          ∀ passcode, ¬ SpellsPasscode (trim text) passcode := by
        simp only [Option.eq_none_iff_forall_ne_some, ne_eq, passcodeOfText?_eq_some_iff]
      simp only [configuredPasscode_given blank, Option.some.injEq, exists_eq_left', NoPasscode,
        blank, not_false_eq_true, true_and, ← unspelled]
      cases passcodeOfText? (trim text) <;> simp [eq_comm]

end ConfiguredPasscode

end Station

/-- A station is to report. -/
def StationEntry.reports (entry : StationEntry) : Bool := entry.report.any ReportEntry.enabled

namespace ReportEntry

/-- Both coordinates are zero, of whichever sign. -/
def Unplaced (report : ReportEntry) : Prop :=
  report.latitude.toRat? = some 0 ∧ report.longitude.toRat? = some 0

instance (report : ReportEntry) : Decidable report.Unplaced := inferInstanceAs (Decidable (_ ∧ _))

/-- The first fault of an entry. -/
inductive Refused (name : String) (report : ReportEntry) : SettingsFault → Prop where
  | callsign : OnlyBlanks report.callsign → Refused name report (.callsignRequired name)
  | location : ¬ OnlyBlanks report.callsign → report.Unplaced →
      Refused name report (.locationRequired name)
  | passcode {text : String} : ¬ OnlyBlanks report.callsign → ¬ report.Unplaced →
      report.passcode = some text → Station.NoPasscode text →
      Refused name report (.passcodeNotNumber name (trim text))

/-- The station that an entry without a fault stands for. -/
structure Accepted (name : String) (report : ReportEntry) (station : Station) : Prop where
  called : ¬ OnlyBlanks report.callsign
  placed : ¬ report.Unplaced
  name_eq : station.name = name
  callsign_eq : station.callsign = upperCase (trim report.callsign)
  passcode : Station.HasPasscode station.callsign report.passcode station.passcode
  latitude_eq : station.latitude = report.latitude
  longitude_eq : station.longitude = report.longitude
  symbolTable_eq : station.symbolTable = report.symbolTable.toList.head?.getD '/'
  symbolCode_eq : station.symbolCode = report.symbolCode.toList.head?.getD '_'
  comment_iff : ∀ text, station.comment = some text ↔ report.comment = some text ∧ ¬ OnlyBlanks text

end ReportEntry

namespace Station

section Entry

variable {entry : StationEntry} {report : ReportEntry} {station : Station}

theorem ofEntry_of_not_reports (silent : entry.reports = false) : ofEntry entry = .ok none := by
  unfold ofEntry
  cases reported : entry.report with
  | none => rfl
  | some report =>
    have disabled : report.enabled = false := by simpa [StationEntry.reports, reported] using silent
    simp [disabled]

theorem ofEntry_of_reports (reported : entry.report = some report) (enabled : report.enabled = true) :
    ofEntry entry =
      if OnlyBlanks report.callsign then .error (.configuration (.callsignRequired entry.name))
      else if report.Unplaced then .error (.configuration (.locationRequired entry.name))
      else
        (configuredPasscode entry.name (upperCase (trim report.callsign)) report.passcode).map
          fun passcode => some {
            name := entry.name
            callsign := upperCase (trim report.callsign)
            passcode
            latitude := report.latitude
            longitude := report.longitude
            symbolTable := report.symbolTable.toList.head?.getD '/'
            symbolCode := report.symbolCode.toList.head?.getD '_'
            comment := report.comment.filter fun comment => trim comment != "" } := by
  have called : upperCase (trim report.callsign) = "" ↔ OnlyBlanks report.callsign :=
    upperCase_eq_empty_iff.trans Text.trim_eq_empty_iff
  have unplaced : (report.latitude.same 0 && report.longitude.same 0) = true ↔ report.Unplaced := by
    rw [Bool.and_eq_true, Binary.same_zero_iff, Binary.same_zero_iff, ReportEntry.Unplaced]
  unfold ofEntry
  rw [reported]
  simp only [enabled, Bool.not_true, Bool.false_eq_true, if_false]
  change (if upperCase (trim report.callsign) = "" then _ else _) = _
  by_cases blank : OnlyBlanks report.callsign
  · rw [if_pos (called.mpr blank), if_pos blank]
  rw [if_neg (mt called.mp blank), if_neg blank]
  by_cases nowhere : report.Unplaced
  · rw [if_pos (unplaced.mpr nowhere), if_pos nowhere]
  rw [if_neg (mt unplaced.mp nowhere), if_neg nowhere]
  change (configuredPasscode entry.name (upperCase (trim report.callsign)) report.passcode >>= _) = _
  cases configuredPasscode entry.name (upperCase (trim report.callsign)) report.passcode <;> rfl

theorem ofEntry_eq_error_iff (reported : entry.report = some report)
    (enabled : report.enabled = true) {error : ReportError} :
    ofEntry entry = .error error ↔
      ∃ fault, error = .configuration fault ∧ report.Refused entry.name fault := by
  rw [ofEntry_of_reports reported enabled]
  split_ifs with blank unplaced
  · constructor
    · rintro ⟨⟩
      exact ⟨_, rfl, .callsign blank⟩
    · rintro ⟨fault, rfl, _ | called | called⟩
      · rfl
      · exact absurd blank called
      · exact absurd blank called
  · constructor
    · rintro ⟨⟩
      exact ⟨_, rfl, .location blank unplaced⟩
    · rintro ⟨fault, rfl, called | _ | ⟨-, placed⟩⟩
      · exact absurd called blank
      · rfl
      · exact absurd unplaced placed
  · have mapped : ∀ {f : UInt16 → Option Station} {result : Except ReportError UInt16},
        result.map f = .error error ↔ result = .error error := by
      rintro f (_ | _) <;> simp [Except.map]
    rw [mapped, configuredPasscode_eq_error_iff]
    constructor
    · rintro ⟨text, configured, noPasscode, rfl⟩
      exact ⟨_, rfl, .passcode blank unplaced configured noPasscode⟩
    · rintro ⟨fault, rfl, called | ⟨-, nowhere⟩ | ⟨-, -, configured, noPasscode⟩⟩
      · exact absurd called blank
      · exact absurd nowhere unplaced
      · exact ⟨_, configured, noPasscode, rfl⟩

theorem kept_iff {comment : Option String} {text : String} :
    (comment.filter fun comment => trim comment != "") = some text ↔
      comment = some text ∧ ¬ OnlyBlanks text := by
  rw [Option.filter_eq_some_iff, bne_iff_ne, ne_eq, Text.trim_eq_empty_iff]

theorem ofEntry_eq_ok_iff (reported : entry.report = some report)
    (enabled : report.enabled = true) :
    ofEntry entry = .ok (some station) ↔ report.Accepted entry.name station := by
  rw [ofEntry_of_reports reported enabled]
  split_ifs with blank unplaced
  · exact ⟨nofun, fun accepted => absurd blank accepted.called⟩
  · exact ⟨nofun, fun accepted => absurd unplaced accepted.placed⟩
  constructor
  · intro accepted
    cases configured : configuredPasscode entry.name (upperCase (trim report.callsign))
        report.passcode with
    | error error =>
      rw [configured] at accepted
      cases accepted
    | ok passcode =>
      rw [configured] at accepted
      cases accepted
      exact ⟨blank, unplaced, rfl, rfl, configuredPasscode_eq_ok_iff.mp configured, rfl, rfl, rfl, rfl,
        fun _ => kept_iff⟩
  · intro accepted
    have configured : configuredPasscode entry.name station.callsign report.passcode =
        .ok station.passcode := configuredPasscode_eq_ok_iff.mpr accepted.passcode
    have comment : station.comment = report.comment.filter fun comment => trim comment != "" :=
      Option.ext fun text => (accepted.comment_iff text).trans kept_iff.symm
    rw [accepted.callsign_eq] at configured
    rw [configured, ← comment, ← accepted.name_eq, ← accepted.callsign_eq, ← accepted.latitude_eq,
      ← accepted.longitude_eq, ← accepted.symbolTable_eq, ← accepted.symbolCode_eq]
    rfl

end Entry

/-- What a station is like whatever the texts of its entry were. -/
structure Normal (station : Station) : Prop where
  callsign_ne : station.callsign ≠ ""
  callsign_trimmed : Trimmed station.callsign
  callsign_upper : ∀ c ∈ station.callsign.toList, c.isLower = false
  placed : ¬ (station.latitude.toRat? = some 0 ∧ station.longitude.toRat? = some 0)
  comment : ∀ text ∈ station.comment, ¬ OnlyBlanks text

theorem normal_of_accepted {name : String} {report : ReportEntry} {station : Station}
    (accepted : report.Accepted name station) : station.Normal where
  callsign_ne := by
    rw [accepted.callsign_eq, ne_eq, upperCase_eq_empty_iff, Text.trim_eq_empty_iff]
    exact accepted.called
  callsign_trimmed := by
    rw [accepted.callsign_eq]
    exact trimmed_upperCase (Text.trimmed_trim _)
  callsign_upper := by
    rw [accepted.callsign_eq]
    exact fun c => isLower_of_mem_upperCase
  placed := by
    rw [accepted.latitude_eq, accepted.longitude_eq]
    exact accepted.placed
  comment text kept := ((accepted.comment_iff text).mp kept).2

/-- The settings of a station, with its passcode in decimal and a symbol in each of the two texts. -/
def settings (station : Station) : ReportEntry where
  callsign := station.callsign
  passcode := some (toString station.passcode.toNat)
  latitude := station.latitude
  longitude := station.longitude
  symbolTable := station.symbolTable.toString
  symbolCode := station.symbolCode.toString
  comment := station.comment

/-- A station as an entry. -/
def toEntry (station : Station) : StationEntry where
  name := station.name
  report := some station.settings

theorem hasPasscode_toString (callsign : String) (passcode : UInt16) :
    HasPasscode callsign (some (toString passcode.toNat)) passcode := by
  have solid : ∀ c ∈ (toString passcode.toNat).toList, Text.isBlank c = false := fun c member =>
    Text.isBlank_of_isDigit (Decimal.isDigit_of_mem_padded (Decimal.toList_toString _ ▸ member))
  have trimmed := Text.trimmed_of_solid solid
  refine .configured (trimmed.not_onlyBlanks fun empty => ?_) ?_
  · have spelled := Decimal.toList_toString passcode.toNat
    rw [empty] at spelled
    exact Decimal.padded_ne_nil _ _ spelled.symm
  · rw [Text.trim_eq_self_iff.mpr trimmed]
    exact spellsPasscode_toString passcode

/-- A station in normal form, written as an entry, is accepted as the same station. -/
theorem ofEntry_toEntry {station : Station} (normal : station.Normal) :
    ofEntry station.toEntry = .ok (some station) := by
  have accepted : station.settings.Accepted station.name station := {
    called := normal.callsign_trimmed.not_onlyBlanks normal.callsign_ne
    placed := normal.placed
    name_eq := rfl
    callsign_eq := by
      rw [settings, Text.trim_eq_self_iff.mpr normal.callsign_trimmed,
        upperCase_eq_self normal.callsign_upper]
    passcode := hasPasscode_toString _ _
    latitude_eq := rfl
    longitude_eq := rfl
    symbolTable_eq := by simp [settings]
    symbolCode_eq := by simp [settings]
    comment_iff := fun text => ⟨fun kept => ⟨kept, normal.comment text kept⟩, And.left⟩ }
  exact (ofEntry_eq_ok_iff rfl rfl).mpr accepted

section Entries

variable {entry : StationEntry} {rest : List StationEntry}

theorem exists_report_of_reports (reports : entry.reports = true) :
    ∃ report, entry.report = some report ∧ report.enabled = true := by
  unfold StationEntry.reports at reports
  cases reported : entry.report with
  | none =>
    rw [reported] at reports
    cases reports
  | some report =>
    rw [reported] at reports
    exact ⟨report, rfl, reports⟩

/-- Only an entry that is to report has a station. -/
theorem accepted_of_ofEntry {station : Station} (accepted : ofEntry entry = .ok (some station)) :
    ∃ report, entry.report = some report ∧ report.enabled = true ∧
      report.Accepted entry.name station := by
  cases reports : entry.reports with
  | false =>
    rw [ofEntry_of_not_reports reports] at accepted
    cases accepted
  | true =>
    obtain ⟨report, reported, enabled⟩ := exists_report_of_reports reports
    exact ⟨report, reported, enabled, (ofEntry_eq_ok_iff reported enabled).mp accepted⟩

/-- An entry that is to report is accepted or refused. -/
theorem ofEntry_of_reports_cases (reports : entry.reports = true) :
    (∃ station, ofEntry entry = .ok (some station)) ∨ ∃ error, ofEntry entry = .error error := by
  obtain ⟨report, reported, enabled⟩ := exists_report_of_reports reports
  rw [ofEntry_of_reports reported enabled]
  split_ifs
  · exact .inr ⟨_, rfl⟩
  · exact .inr ⟨_, rfl⟩
  · cases configuredPasscode entry.name (upperCase (trim report.callsign)) report.passcode with
    | error error => exact .inr ⟨error, rfl⟩
    | ok passcode => exact .inl ⟨_, rfl⟩

theorem ofEntries_cons_of_not_reports (silent : entry.reports = false) :
    ofEntries (entry :: rest) = ofEntries rest := by
  rw [ofEntries, ofEntry_of_not_reports silent]
  cases ofEntries rest <;> rfl

theorem ofEntries_cons_error {error : ReportError} (refused : ofEntry entry = .error error) :
    ofEntries (entry :: rest) = .error error := by
  rw [ofEntries, refused]
  rfl

theorem ofEntries_cons_ok {station : Station} (accepted : ofEntry entry = .ok (some station)) :
    ofEntries (entry :: rest) = (ofEntries rest).map (station :: ·) := by
  rw [ofEntries, accepted]
  cases ofEntries rest <;> rfl

/-- All entries that are to report are accepted, and their stations come in the same order. -/
def AllAccepted (entries : List StationEntry) (stations : List Station) : Prop :=
  List.Forall₂ (fun entry station => ofEntry entry = .ok (some station)) entries stations

/-- An entry is refused with an error, and all before it are accepted. -/
def FirstRefused (entries : List StationEntry) (error : ReportError) : Prop :=
  ∃ before entry after, entries = before ++ entry :: after ∧
    (∀ earlier ∈ before, ∃ station, ofEntry earlier = .ok (some station)) ∧
    ofEntry entry = .error error

theorem FirstRefused.cons {station : Station} {error : ReportError}
    (accepted : ofEntry entry = .ok (some station)) (refused : FirstRefused rest error) :
    FirstRefused (entry :: rest) error := by
  obtain ⟨before, refusedEntry, after, rfl, earlier, refused⟩ := refused
  refine ⟨entry :: before, refusedEntry, after, rfl, ?_, refused⟩
  exact List.forall_mem_cons.mpr ⟨⟨station, accepted⟩, earlier⟩

theorem ofEntries_cases (entries : List StationEntry) :
    (∃ stations, ofEntries entries = .ok stations ∧
      AllAccepted (entries.filter StationEntry.reports) stations) ∨
    ∃ error, ofEntries entries = .error error ∧
      FirstRefused (entries.filter StationEntry.reports) error := by
  induction entries with
  | nil => exact .inl ⟨[], rfl, .nil⟩
  | cons entry rest ih =>
    cases reports : entry.reports with
    | false =>
      rw [ofEntries_cons_of_not_reports reports, List.filter_cons_of_neg (by simp [reports])]
      exact ih
    | true =>
      rw [List.filter_cons_of_pos reports]
      rcases ofEntry_of_reports_cases reports with ⟨station, accepted⟩ | ⟨error, refused⟩
      · rw [ofEntries_cons_ok accepted]
        rcases ih with ⟨stations, outcome, all⟩ | ⟨error, outcome, refused⟩
        · exact .inl ⟨station :: stations, by rw [outcome]; rfl, .cons accepted all⟩
        · exact .inr ⟨error, by rw [outcome]; rfl, refused.cons accepted⟩
      · exact .inr ⟨error, ofEntries_cons_error refused, [], entry, _, rfl, nofun, refused⟩

end Entries

/-- The stations of a list of entries, or the error of the first entry that is refused; entries that
are not to report make no difference. An entry is refused if its callsign is blank, its position is
missing or its passcode is no number, for the first of these. The station of any other is in normal
form, has the passcode that is configured or else the one that the passcode command prints for its
callsign, and is read as itself when it is written as an entry. -/
theorem ofEntries_in_normal_form (entries : List StationEntry) :
    ((∃ stations, ofEntries entries = .ok stations ∧
        AllAccepted (entries.filter StationEntry.reports) stations) ∨
      ∃ error, ofEntries entries = .error error ∧
        FirstRefused (entries.filter StationEntry.reports) error) ∧
    (∀ entry, entry.reports = false → ofEntry entry = .ok none) ∧
    ∀ entry report, entry.report = some report → report.enabled = true →
      ((∃ error, ofEntry entry = .error error) ↔ OnlyBlanks report.callsign ∨ report.Unplaced ∨
        ∃ text, report.passcode = some text ∧ NoPasscode text) ∧
      (∀ error, ofEntry entry = .error error ↔
        ∃ fault, error = .configuration fault ∧ report.Refused entry.name fault) ∧
      ∀ station, ofEntry entry = .ok (some station) →
        report.Accepted entry.name station ∧ station.Normal ∧
        Passcode.ofCallsign station.callsign = Passcode.ofCallsign (trim report.callsign) ∧
        (Trimmed report.callsign →
          Program.passcodeOutput report.callsign = Program.passcodeOutput station.callsign) ∧
        ofEntry station.toEntry = .ok (some station) := by
  refine ⟨ofEntries_cases entries, fun entry => ofEntry_of_not_reports,
    fun entry report reported enabled => ⟨?refused, fun error => ofEntry_eq_error_iff reported enabled,
      fun station outcome => ?accepted⟩⟩
  case refused =>
    simp only [ofEntry_eq_error_iff reported enabled]
    constructor
    · rintro ⟨_, fault, rfl, blank | ⟨-, nowhere⟩ | ⟨-, -, configured, noPasscode⟩⟩
      · exact .inl blank
      · exact .inr (.inl nowhere)
      · exact .inr (.inr ⟨_, configured, noPasscode⟩)
    · intro faults
      by_cases blank : OnlyBlanks report.callsign
      · exact ⟨_, _, rfl, .callsign blank⟩
      by_cases nowhere : report.Unplaced
      · exact ⟨_, _, rfl, .location blank nowhere⟩
      obtain ⟨text, configured, noPasscode⟩ := (faults.resolve_left blank).resolve_left nowhere
      exact ⟨_, _, rfl, .passcode blank nowhere configured noPasscode⟩
  case accepted =>
    have accepted := (ofEntry_eq_ok_iff reported enabled).mp outcome
    have normal := normal_of_accepted accepted
    have passcode : Passcode.ofCallsign station.callsign =
        Passcode.ofCallsign (trim report.callsign) := by
      rw [accepted.callsign_eq, ofCallsign_upperCase]
    refine ⟨accepted, normal, passcode, fun trimmed => ?_, ofEntry_toEntry normal⟩
    rw [Program.passcodeOutput, Program.passcodeOutput, passcode, Text.trim_eq_self_iff.mpr trimmed]

end Station

end WeatherRelay
