import WeatherRelay.Proofs.History
import WeatherRelay.Proofs.Session.Calls

/-! The journals that a conversation can have.

An orderly course adds one event in each phase and has a single successor; a conversation that is
cut short ends in some phase of it, at most one event later. What holds before every write is
proved along the course and carried over to where it was cut.
-/

set_option autoImplicit false

namespace WeatherRelay

open Text.Utf8 (Bytes)

namespace Session

/-- Lines of the server to a client start like this. -/
def Marked (line : String) : Prop := line.toList.head? = some '#'

/-- The bytes that went out, in order. -/
def sentBy (journal : List WireEvent) : Bytes := journal.flatMap WireEvent.sent

/-- What a completed write put on the wire. -/
def completed? : WireEvent → Option Bytes
  | .wrote bytes true => some bytes
  | _ => none

def completedWrites (journal : List WireEvent) : List Bytes := journal.filterMap completed?

/-- A greeting was read. -/
def Greeted (journal : List WireEvent) : Prop :=
  ∃ greeting, .received greeting ∈ journal ∧ Marked greeting

/-- The last event is an accepted reply to a login that went out before. -/
def Verified (login : Bytes) (accepted : String → Prop) (journal : List WireEvent) : Prop :=
  ∃ earlier reply, journal = earlier ++ [.received reply] ∧ .wrote login true ∈ earlier ∧
    Marked reply ∧ accepted reply

/-- A relation between the bytes of every write and all that happened before it. -/
def AtWrites (relation : List WireEvent → Bytes → Prop) (journal : List WireEvent) : Prop :=
  Throughout (fun before event =>
    ∀ bytes complete, event = .wrote bytes complete → relation before bytes) journal

section Journals

variable (login report : Bytes) (accepted : String → Prop)

/-- A conversation that has gone well so far, with its phase. -/
inductive Course : Phase → List WireEvent → Prop where
  | dialed : Course .awaitGreeting [.dialed]
  | greeted {journal : List WireEvent} {greeting : String} :
      Course .awaitGreeting journal → Marked greeting →
      Course .loggingIn (journal ++ [.received greeting])
  | loggedIn {journal : List WireEvent} :
      Course .loggingIn journal → Course .awaitVerification (journal ++ [.wrote login true])
  | verified {journal : List WireEvent} {reply : String} :
      Course .awaitVerification journal → Marked reply → accepted reply →
      Course .sending (journal ++ [.received reply])
  | reported {journal : List WireEvent} :
      Course .sending journal → Course .closed (journal ++ [.wrote report true])

/-- A conversation that failed: in a dial, a read, or a write that may have been begun. -/
inductive CutShort : List WireEvent → Prop where
  | undialed : CutShort [.dialed]
  | unread {phase : Phase} {journal : List WireEvent} :
      Course login report accepted phase journal → phase ≠ .closed → CutShort journal
  | refused {phase : Phase} {journal : List WireEvent} {line : String} :
      Course login report accepted phase journal → phase ≠ .closed →
      CutShort (journal ++ [.received line])
  | loginBroken {journal : List WireEvent} {part : Bytes} :
      Course login report accepted .loggingIn journal → part <+: login →
      CutShort (journal ++ [.wrote part false])
  | reportBroken {journal : List WireEvent} {part : Bytes} :
      Course login report accepted .sending journal → part <+: report →
      CutShort (journal ++ [.wrote part false])

/-- What is written completely by the time a phase is reached. -/
def completedBy : Phase → List Bytes
  | .awaitVerification | .sending => [login]
  | .closed => [login, report]
  | _ => []

/-- The order of things on the wire: the bytes are those of login and report as far as they go,
none go out before a greeting, and none beyond the login before an accepted reply to it. -/
structure WritesInTurn (journal : List WireEvent) : Prop where
  sent : sentBy journal <+: login ++ report
  greeted : AtWrites (fun before _ => Greeted before) journal
  verified : AtWrites (fun before bytes =>
    login.length < (sentBy before).length + bytes.length → Verified login accepted before) journal

end Journals

variable {login report : Bytes} {accepted : String → Prop} {phase : Phase}
  {journal : List WireEvent}

@[simp] theorem sentBy_concat (journal : List WireEvent) (event : WireEvent) :
    sentBy (journal ++ [event]) = sentBy journal ++ event.sent := by
  simp [sentBy]

@[simp] theorem completedWrites_concat (journal : List WireEvent) (event : WireEvent) :
    completedWrites (journal ++ [event]) = completedWrites journal ++ (completed? event).toList := by
  unfold completedWrites
  rw [List.filterMap_append]
  cases completed : completed? event <;> simp [completed]

theorem Course.completed (course : Course login report accepted phase journal) :
    completedWrites journal = completedBy login report phase := by
  induction course with
  | dialed => rfl
  | greeted _ _ ih => simp [ih, completed?, completedBy]
  | loggedIn _ ih => simp [ih, completed?, completedBy]
  | verified _ _ _ ih => simp [ih, completed?, completedBy]
  | reported _ ih => simp [ih, completed?, completedBy]

theorem Course.sent_eq (course : Course login report accepted phase journal) :
    sentBy journal = (completedBy login report phase).flatten := by
  induction course with
  | dialed => rfl
  | greeted _ _ ih => simp [ih, WireEvent.sent, completedBy]
  | loggedIn _ ih => simp [ih, WireEvent.sent, completedBy]
  | verified _ _ _ ih => simp [ih, WireEvent.sent, completedBy]
  | reported _ ih => simp [ih, WireEvent.sent, completedBy]

theorem atWrites_concat {relation : List WireEvent → Bytes → Prop} {event : WireEvent}
    (earlier : AtWrites relation journal)
    (last : ∀ bytes complete, event = .wrote bytes complete → relation journal bytes) :
    AtWrites relation (journal ++ [event]) :=
  throughout_concat.mpr ⟨earlier, last⟩

theorem atWrites_dialed (relation : List WireEvent → Bytes → Prop) :
    AtWrites relation [.dialed] :=
  atWrites_concat (throughout_nil _) (by simp)

theorem Greeted.concat (greeted : Greeted journal) (event : WireEvent) :
    Greeted (journal ++ [event]) := by
  obtain ⟨greeting, member, marked⟩ := greeted
  exact ⟨greeting, List.mem_append_left _ member, marked⟩

theorem Course.greeted_of_ne (course : Course login report accepted phase journal)
    (behind : phase ≠ .awaitGreeting) : Greeted journal := by
  induction course with
  | dialed => exact absurd rfl behind
  | @greeted _ greeting _ marked _ =>
    exact ⟨greeting, List.mem_append_right _ (List.mem_singleton.mpr rfl), marked⟩
  | loggedIn _ ih => exact (ih (by decide)).concat _
  | verified _ _ _ ih => exact (ih (by decide)).concat _
  | reported _ ih => exact (ih (by decide)).concat _

theorem Course.verified_of_sending (course : Course login report accepted .sending journal) :
    Verified login accepted journal := by
  cases course with
  | @verified earlier reply answered marked accepts =>
    refine ⟨earlier, reply, rfl, ?_, marked, accepts⟩
    cases answered with
    | loggedIn => exact List.mem_append_right _ (List.mem_singleton.mpr rfl)

theorem Course.greeted_before (course : Course login report accepted phase journal) :
    AtWrites (fun before _ => Greeted before) journal := by
  induction course with
  | dialed => exact atWrites_dialed _
  | greeted _ _ ih => exact atWrites_concat ih (by simp)
  | loggedIn earlier ih => exact atWrites_concat ih fun _ _ _ => earlier.greeted_of_ne (by decide)
  | verified _ _ _ ih => exact atWrites_concat ih (by simp)
  | reported earlier ih => exact atWrites_concat ih fun _ _ _ => earlier.greeted_of_ne (by decide)

theorem Course.verified_before (course : Course login report accepted phase journal) :
    AtWrites (fun before bytes => login.length < (sentBy before).length + bytes.length →
      Verified login accepted before) journal := by
  induction course with
  | dialed => exact atWrites_dialed _
  | greeted _ _ ih => exact atWrites_concat ih (by simp)
  | loggedIn earlier ih =>
    refine atWrites_concat ih fun bytes complete same beyond => ?_
    -- The login itself does not reach beyond the login.
    cases same
    rw [earlier.sent_eq] at beyond
    simp [completedBy] at beyond
  | verified _ _ _ ih => exact atWrites_concat ih (by simp)
  | reported earlier ih => exact atWrites_concat ih fun _ _ _ _ => earlier.verified_of_sending

theorem Course.writesInTurn (course : Course login report accepted phase journal) :
    WritesInTurn login report accepted journal where
  sent := by
    rw [course.sent_eq]
    cases phase <;> simp [completedBy]
  greeted := course.greeted_before
  verified := course.verified_before

/-- A conversation that was cut short keeps to the order, and never completes both writes. -/
theorem CutShort.writesInTurn (cut : CutShort login report accepted journal) :
    WritesInTurn login report accepted journal := by
  cases cut with
  | undialed => exact Course.dialed.writesInTurn
  | unread course _ => exact course.writesInTurn
  | refused course _ =>
    have inTurn := course.writesInTurn
    refine ⟨?_, atWrites_concat inTurn.greeted (by simp), atWrites_concat inTurn.verified (by simp)⟩
    simpa [WireEvent.sent] using inTurn.sent
  | @loginBroken earlier part course short =>
    have inTurn := course.writesInTurn
    refine ⟨?_, atWrites_concat inTurn.greeted fun _ _ _ => course.greeted_of_ne (by decide),
      atWrites_concat inTurn.verified fun bytes complete same beyond => ?_⟩
    · rw [sentBy_concat, course.sent_eq]
      exact short.trans (List.prefix_append _ _)
    · cases same
      rw [course.sent_eq] at beyond
      simp only [completedBy, List.flatten_nil, List.length_nil, Nat.zero_add] at beyond
      exact absurd short.length_le (Nat.not_le_of_lt beyond)
  | @reportBroken earlier part course short =>
    have inTurn := course.writesInTurn
    refine ⟨?_, atWrites_concat inTurn.greeted fun _ _ _ => course.greeted_of_ne (by decide),
      atWrites_concat inTurn.verified fun _ _ _ _ => course.verified_of_sending⟩
    have loginOnly : (completedBy login report .sending).flatten = login := by simp [completedBy]
    rw [sentBy_concat, course.sent_eq, loginOnly]
    exact (List.prefix_append_right_inj login).mpr short

theorem Course.completed_le_one (course : Course login report accepted phase journal)
    (running : phase ≠ .closed) : (completedWrites journal).length ≤ 1 := by
  rw [course.completed]
  cases phase <;> simp_all [completedBy]

theorem CutShort.completed_le_one (cut : CutShort login report accepted journal) :
    (completedWrites journal).length ≤ 1 := by
  cases cut with
  | undialed => exact Nat.zero_le _
  | unread course running => exact course.completed_le_one running
  | refused course running => simpa [completed?] using course.completed_le_one running
  | loginBroken course _ => simp [completed?, course.completed, completedBy]
  | reportBroken course _ => simp [completed?, course.completed, completedBy]

end Session

end WeatherRelay
