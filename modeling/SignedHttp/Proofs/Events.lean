import SignedHttp.Telemetry

/-!
# What events leave in counts and lines

Telemetry takes events in order, so what they leave is said of the list as a whole: every
count grows by the number of events that count its outcome (`count_absorb`), the written lines
are those of the logged records in their order (`lines_absorb`), and nothing else changes
(`absorb_fst`). A record is written as one line when the levels admit it, its level has a
name, the log's clock stands at a date and its numbers can be written (`write_eq_line`).

Key definitions: `outcomesOf`, `recordsOf`, `recordsAt`, `linesAt`.
Key theorems: `Telemetry.count_absorb`, `Telemetry.lines_absorb`, `Telemetry.linesAt_absorb`,
`Telemetry.write_eq_line`.
-/

namespace SignedHttp

def Event.outcome? : Event → Option Outcome
  | .counted outcome => some outcome
  | .logged _ => none

def Event.record? : Event → Option Log.Record
  | .counted _ => none
  | .logged record => some record

def outcomesOf (events : List Event) : List Outcome :=
  events.filterMap Event.outcome?

def recordsOf (events : List Event) : List Log.Record :=
  events.filterMap Event.record?

def recordsAt (level : Int) (events : List Event) : List Log.Record :=
  (recordsOf events).filter (·.level = level)

def linesAt (level : Int) (lines : List Line) : List Line :=
  lines.filter (·.record.level = level)

theorem outcomesOf_append (first second : List Event) :
    outcomesOf (first ++ second) = outcomesOf first ++ outcomesOf second :=
  List.filterMap_append

theorem recordsOf_append (first second : List Event) :
    recordsOf (first ++ second) = recordsOf first ++ recordsOf second :=
  List.filterMap_append

theorem recordsAt_append (level : Int) (first second : List Event) :
    recordsAt level (first ++ second) = recordsAt level first ++ recordsAt level second := by
  rw [recordsAt, recordsOf_append, List.filter_append]
  rfl

namespace Telemetry

theorem absorb_fst : ∀ (telemetry : Telemetry) (events : List Event),
    (telemetry.absorb events).1 =
      { telemetry with tally := (outcomesOf events).foldl Tally.increment telemetry.tally }
  | _, [] => rfl
  | telemetry, .logged _ :: events => absorb_fst telemetry events
  | telemetry, .counted outcome :: events =>
    absorb_fst { telemetry with tally := telemetry.tally.increment outcome } events

theorem count_foldl_increment (outcome : Outcome) : ∀ (tally : Tally) (outcomes : List Outcome),
    (outcomes.foldl Tally.increment tally).count outcome =
      tally.count outcome + outcomes.count outcome
  | _, [] => rfl
  | tally, o :: outcomes => by
    rw [List.foldl_cons, count_foldl_increment outcome _ outcomes, Tally.count_increment,
      List.count_cons]
    by_cases h : o = outcome
    · simp only [h, beq_self_eq_true, if_true]
      omega
    · have h' : ¬ outcome = o := fun e => h e.symm
      simp [h, h']

/-- A count grows by the number of events that count its outcome. -/
theorem count_absorb (telemetry : Telemetry) (events : List Event) (outcome : Outcome) :
    (telemetry.absorb events).1.tally.count outcome =
      telemetry.tally.count outcome + (outcomesOf events).count outcome := by
  rw [absorb_fst, count_foldl_increment]

/-- The lines of events are those of their records. -/
theorem lines_absorb : ∀ (telemetry : Telemetry) (events : List Event),
    (telemetry.absorb events).2 = (recordsOf events).flatMap telemetry.write
  | _, [] => rfl
  | telemetry, .logged record :: events => by
    change telemetry.write record ++ (telemetry.absorb events).2 = _
    rw [lines_absorb telemetry events]
    rfl
  | telemetry, .counted outcome :: events =>
    lines_absorb { telemetry with tally := telemetry.tally.increment outcome } events

theorem record_of_mem_write {telemetry : Telemetry} {record : Log.Record} {line : Line}
    (h : line ∈ telemetry.write record) : line.record = record := by
  rw [write] at h
  split at h
  · split at h
    · rw [List.mem_singleton.mp h]
    · cases h
  · cases h

theorem line_of_mem_absorb {telemetry : Telemetry} {events : List Event} {line : Line}
    (h : line ∈ (telemetry.absorb events).2) :
    line.record.line telemetry.instant = .ok line.text := by
  rw [lines_absorb] at h
  obtain ⟨record, -, h⟩ := List.mem_flatMap.mp h
  rw [write] at h
  split at h
  · split at h
    · rename_i htext
      rw [List.mem_singleton.mp h, htext]
    · cases h
  · cases h

theorem linesAt_write (telemetry : Telemetry) (level : Int) (record : Log.Record) :
    linesAt level (telemetry.write record) =
      if record.level = level then telemetry.write record else [] := by
  split
  · rename_i h
    refine List.filter_eq_self.mpr fun line hline => ?_
    rw [record_of_mem_write hline, h, decide_eq_true rfl]
  · rename_i h
    refine List.filter_eq_nil_iff.mpr fun line hline => ?_
    rwa [record_of_mem_write hline, decide_eq_true_iff]

/-- The lines of one level are those of its records. -/
theorem linesAt_absorb (telemetry : Telemetry) (level : Int) (events : List Event) :
    linesAt level (telemetry.absorb events).2 =
      (recordsAt level events).flatMap telemetry.write := by
  rw [lines_absorb, recordsAt]
  induction recordsOf events with
  | nil => rfl
  | cons record records ih =>
    rw [List.flatMap_cons, linesAt, List.filter_append, ← linesAt, ← linesAt, ih, linesAt_write]
    by_cases h : record.level = level
    · simp [h]
    · simp [h]

end Telemetry

theorem Moment.reach_eq_ok {instant : Int} (hfirst : firstInstant ≤ instant)
    (hlast : instant ≤ lastInstant) : reach instant = .ok (.ofMicros instant) := by
  rw [firstInstant] at hfirst
  rw [lastInstant] at hlast
  have hcountable :
      (instant / dayMicros < -0x80000000 || 0x7FFFFFFF < instant / dayMicros) = false := by
    rw [Bool.or_eq_false_iff, decide_eq_false_iff_not, decide_eq_false_iff_not, dayMicros]
    omega
  have hdays : ¬ 999999999 < (instant / dayMicros).natAbs := by
    rw [dayMicros]
    omega
  have hyears : (decide (instant < firstInstant) || decide (lastInstant < instant)) = false := by
    rw [Bool.or_eq_false_iff, decide_eq_false_iff_not, decide_eq_false_iff_not, firstInstant,
      lastInstant]
    omega
  rw [reach, hcountable, if_neg Bool.false_ne_true, if_neg hdays, hyears,
    if_neg Bool.false_ne_true]

theorem Moment.exists_reach {instant : Int} (hfirst : firstInstant ≤ instant)
    (hlast : instant ≤ lastInstant) : ∃ moment, reach instant = .ok moment :=
  ⟨_, reach_eq_ok hfirst hlast⟩

namespace Telemetry

/-! ### Records that are written -/

theorem admits_errorLevel {levels : Log.Levels} (hlogger : .ofNat levels.logger ≤ Log.errorLevel)
    (hhandler : .ofNat levels.handler ≤ Log.errorLevel) :
    levels.admits Log.errorLevel = true := by
  have heffective : Int.ofNat levels.effective ≤ Log.errorLevel := by
    rw [Log.Levels.effective]
    split
    · decide
    · exact hlogger
  rw [Log.Levels.admits, Log.Levels.enabled, decide_eq_true heffective, decide_eq_true hhandler]
  rfl

theorem holdsLongNumeral_of_field? {fields : List (String × Json)} {name : String} {value : Json}
    (hfields : ∀ field ∈ fields, field.2.holdsLongNumeral = false)
    (h : Log.field? name fields = some value) : value.holdsLongNumeral = false := by
  rw [Log.field?, List.lookup_eq_some_iff] at h
  obtain ⟨before, after, h, -⟩ := h
  refine hfields (name, value) (List.mem_reverse.mp ?_)
  rw [h]
  exact List.mem_append_right _ List.mem_cons_self

theorem anyMemberHoldsLongNumeral_eq_false : ∀ {members : List (String × Json)},
    (∀ member ∈ members, member.2.holdsLongNumeral = false) →
      Json.anyMemberHoldsLongNumeral members = false
  | [], _ => by rw [Json.anyMemberHoldsLongNumeral]
  | (name, value) :: members, h => by
    obtain ⟨hvalue, hmembers⟩ := List.forall_mem_cons.mp h
    rw [Json.anyMemberHoldsLongNumeral, hvalue, anyMemberHoldsLongNumeral_eq_false hmembers]
    rfl

theorem exists_lineOf (moment : Moment) (level logger : String) (message : List Nat)
    {fields : List (String × Json)}
    (hfields : ∀ field ∈ fields, field.2.holdsLongNumeral = false) :
    ∃ text, Log.lineOf moment (.string level) (.string logger) message fields = .ok text := by
  have hjson : Json.holdsLongNumeral (.object ([("ts", .string moment.text),
      ("level", .string level), ("logger", .string logger), ("message", .ofPoints message)] ++
        Log.writtenFields.filterMap fun name => (Log.field? name fields).map (name, ·))) =
          false := by
    rw [Json.holdsLongNumeral]
    refine anyMemberHoldsLongNumeral_eq_false fun member hmember => ?_
    rcases List.mem_append.mp hmember with h | h
    · simp only [List.mem_cons, List.not_mem_nil, or_false] at h
      rcases h with rfl | rfl | rfl | rfl
      · exact Json.holdsLongNumeral_string _
      · exact Json.holdsLongNumeral_string _
      · exact Json.holdsLongNumeral_string _
      · exact Json.holdsLongNumeral_of_codes? (Json.codes?_ofPoints message)
    · obtain ⟨name, -, h⟩ := List.mem_filterMap.mp h
      obtain ⟨value, hvalue, rfl⟩ := Option.map_eq_some_iff.mp h
      exact holdsLongNumeral_of_field? hfields hvalue
  exact ⟨_, if_neg (Bool.eq_false_iff.mp hjson)⟩

/-- A record at the level of failures is written as one line, if that level is admitted, the
log's clock stands at a date and all numbers in the fields are short enough. -/
theorem write_eq_line {telemetry : Telemetry} {record : Log.Record} {moment : Moment}
    (hlevel : record.level = Log.errorLevel)
    (hadmits : telemetry.levels.admits Log.errorLevel = true)
    (hmoment : Moment.reach telemetry.instant = .ok moment)
    (hfields : ∀ field ∈ record.fields, field.2.holdsLongNumeral = false) :
    ∃ text, record.line telemetry.instant = .ok text ∧
      telemetry.write record = [⟨record, text⟩] := by
  obtain ⟨text, htext⟩ := exists_lineOf moment "ERROR" record.logger record.message hfields
  have hline : record.line telemetry.instant = .ok text := by
    rw [Log.Record.line, hlevel, hmoment]
    exact htext
  exact ⟨text, hline, by rw [write, hlevel, if_pos hadmits, hline]⟩

end Telemetry

end SignedHttp
