import SignedHttp.Proofs.Events
import SignedHttp.Proofs.Json.RoundTrip
import SignedHttp.Proofs.Moments

/-!
# Every record is one line that can be read back

What a record says on its line is an entry. Whichever way the record comes to the log, the line is
one of plain characters, and is read back as the object of the entry: the four members that all
records have and those of the seven extra fields that were set, in this order, with their values,
and nothing else (`Entry.Shows`). The object says all of the entry that can be seen on the line, so
entries that differ in it have different lines (`Entry.reads_back`).

Key definitions: `Log.Entry`, `Log.Entry.IsWritable`, `Log.Entry.object`, `Log.Entry.Yields`,
`Log.Entry.Shows`, `Log.Entry.Agrees`.
Key theorems: `Log.levelName?_inj`, `Log.Draft.line_eq`, `Log.Entry.shows_lineOf`,
`Log.Entry.reads_back`.
-/

namespace SignedHttp

/-! ### Strings -/

namespace Json

/-- Whether a value is the string of these code points. -/
def IsText (value : Json) (s : List Nat) : Prop :=
  value.codes? = some s

variable {value : Json} {s : List Nat}

theorem isText_ofPoints (s : List Nat) : (ofPoints s).IsText s :=
  codes?_ofPoints s

theorem IsText.isUnicode (h : value.IsText s) (hs : ∀ n ∈ s, n < 0x110000) :
    value.isUnicode = true := by
  rw [← ofPoints_of_codes? h]
  unfold ofPoints
  split
  · simp [Json.isUnicode]
  · rw [Json.isUnicode, List.all_eq_true]
    exact fun n hn => decide_eq_true (hs n hn)

theorem IsText.joined (h : value.IsText s) : value.joined = ofPoints (joinPairs s) := by
  cases value with
  | string t => rw [← Option.some.inj h, Json.joined, joinPairs_points, ofPoints_points]
  | points t => rw [← Option.some.inj h, Json.joined]
  | _ => cases h

theorem joinedMembers_eq_map (members : List (String × Json)) :
    joinedMembers members = members.map fun member => (member.1, member.2.joined) := by
  induction members with
  | nil => rw [joinedMembers, List.map_nil]
  | cons member members ih =>
    obtain ⟨name, value⟩ := member
    rw [joinedMembers, ih, List.map_cons]

theorem areMembersUnicode_of_forall : ∀ {members : List (String × Json)},
    (∀ member ∈ members, member.2.isUnicode = true) → areMembersUnicode members = true
  | [], _ => by rw [areMembersUnicode]
  | (name, value) :: members, h => by
    obtain ⟨hvalue, hmembers⟩ := List.forall_mem_cons.mp h
    rw [areMembersUnicode, hvalue, areMembersUnicode_of_forall hmembers]
    rfl

end Json

namespace Log

/-! ### Names of levels -/

theorem levelName?_eq_some {level : Int} {name : String} (h : levelName? level = some name) :
    (∃ n, (n, name) ∈ namedLevels ∧ Int.ofNat n = level) ∨
      name = "Level " ++ Text.Decimal.numeral level := by
  rw [levelName?] at h
  split at h
  · rename_i n named hfind
    obtain rfl := Option.some.inj h
    have hlevel := List.find?_some hfind
    exact .inl ⟨n, List.mem_of_find?_eq_some hfind, of_decide_eq_true hlevel⟩
  · obtain ⟨numeral, hnumeral, rfl⟩ := Option.map_eq_some_iff.mp h
    rw [Text.Decimal.numeral?] at hnumeral
    split at hnumeral
    · cases hnumeral
    · exact .inr (by rw [Option.some.inj hnumeral])

theorem levelName?_inj {a b : Int} {name : String} (ha : levelName? a = some name)
    (hb : levelName? b = some name) : a = b := by
  have hnames : ∀ p ∈ namedLevels, ∀ q ∈ namedLevels, p.2 = q.2 → p.1 = q.1 := by decide
  have hunnamed : ∀ p ∈ namedLevels, ∀ s : String, p.2 ≠ "Level " ++ s := fun p hp s h => by
    have hlast : ∀ p ∈ namedLevels, p.2.toList[1]? ≠ some 'e' := by decide
    refine hlast p hp ?_
    rw [h, String.toList_append]
    rfl
  rcases levelName?_eq_some ha with ⟨n, hn, rfl⟩ | h
  · rcases levelName?_eq_some hb with ⟨m, hm, rfl⟩ | h
    · have hsame : n = m := hnames _ hn _ hm rfl
      rw [hsame]
    · exact absurd h (hunnamed _ hn _)
  · rcases levelName?_eq_some hb with ⟨m, hm, rfl⟩ | h'
    · exact absurd h (hunnamed _ hm _)
    · refine Text.Decimal.numeral_inj (String.toList_injective ?_)
      have hchars := congrArg String.toList (h.symm.trans h')
      rw [String.toList_append, String.toList_append] at hchars
      exact List.append_cancel_left hchars

theorem exists_levelName? {level : Int} (h : Text.Decimal.isLong level = false) :
    ∃ name, levelName? level = some name := by
  rw [levelName?]
  split
  · exact ⟨_, rfl⟩
  · rw [Text.Decimal.numeral?, h]
    exact ⟨_, rfl⟩

/-! ### Entries -/

/-- What a record says on its line, and the instant at which it does. Strings are given by their
code points. -/
structure Entry where
  instant : Int
  level : Int
  logger : List Nat
  message : List Nat
  fields : List (String × Json)

namespace Entry

/-- Whether an entry can be written: at its instant there is a date, its strings are Unicode, and
its numbers are not too long. Of fields this is asked of those that are written. -/
structure IsWritable (entry : Entry) : Prop where
  first : Moment.firstInstant ≤ entry.instant
  last : entry.instant ≤ Moment.lastInstant
  level : Text.Decimal.isLong entry.level = false
  logger : ∀ n ∈ entry.logger, n < 0x110000
  message : ∀ n ∈ entry.message, n < 0x110000
  fields : ∀ name ∈ writtenFields, ∀ value ∈ field? name entry.fields,
    value.isUnicode = true ∧ value.holdsLongNumeral = false

/-- The fields that are written, with the surrogate pairs of their strings put together. -/
def shown (entry : Entry) : List (String × Json) :=
  writtenFields.filterMap fun name => (field? name entry.fields).map (name, ·.joined)

/-- What the line is to be read as, where the level has this name. -/
def object (entry : Entry) (level : String) : Json :=
  .object ([("ts", .string (Moment.ofMicros entry.instant).text), ("level", .string level),
    ("logger", Json.ofPoints (Json.joinPairs entry.logger)),
    ("message", Json.ofPoints (Json.joinPairs entry.message))] ++ entry.shown)

/-- Whether the line of an entry is as it should be. -/
def Shows (entry : Entry) (line : Except Fault String) : Prop :=
  ∃ text level, line = .ok text ∧ levelName? entry.level = some level ∧
    text.toList.all Json.isPlain = true ∧ Json.read? text = some (entry.object level)

/-- Whether entries agree in all that can be seen on their lines. -/
structure Agrees (entry other : Entry) : Prop where
  instant : entry.instant = other.instant
  level : entry.level = other.level
  logger : Json.joinPairs entry.logger = Json.joinPairs other.logger
  message : Json.joinPairs entry.message = Json.joinPairs other.message
  shown : entry.shown = other.shown

variable {entry other : Entry} {line : Except Fault String} {level : String} {logger : Json}

def members (entry : Entry) (level : String) (logger : Json) : List (String × Json) :=
  [("ts", .string (Moment.ofMicros entry.instant).text), ("level", .string level),
    ("logger", logger), ("message", .ofPoints entry.message)] ++
      writtenFields.filterMap fun name => (field? name entry.fields).map (name, ·)

theorem IsWritable.of_mem_members (h : entry.IsWritable) (hlogger : logger.IsText entry.logger)
    {member : String × Json} (hmember : member ∈ entry.members level logger) :
    member.2.isUnicode = true ∧ member.2.holdsLongNumeral = false := by
  have hmessage := Json.isText_ofPoints entry.message
  have htext : ∀ s : String, (Json.string s).isUnicode = true ∧
      (Json.string s).holdsLongNumeral = false := fun s => by
    simp [Json.isUnicode, Json.holdsLongNumeral]
  rcases List.mem_append.mp hmember with hmember | hmember
  · simp only [List.mem_cons, List.not_mem_nil, or_false] at hmember
    rcases hmember with rfl | rfl | rfl | rfl
    · exact htext _
    · exact htext _
    · exact ⟨hlogger.isUnicode h.logger, Json.holdsLongNumeral_of_codes? hlogger⟩
    · exact ⟨hmessage.isUnicode h.message, Json.holdsLongNumeral_of_codes? hmessage⟩
  · obtain ⟨name, hname, hfield⟩ := List.mem_filterMap.mp hmember
    obtain ⟨value, hvalue, rfl⟩ := Option.map_eq_some_iff.mp hfield
    exact h.fields name hname value hvalue

theorem joined_members (hlogger : logger.IsText entry.logger) :
    (Json.object (entry.members level logger)).joined = entry.object level := by
  have hfields : (writtenFields.filterMap fun name => (field? name entry.fields).map (name, ·)).map
      (fun member => (member.1, member.2.joined)) = entry.shown := by
    rw [shown, List.map_filterMap]
    simp only [Option.map_map]
    rfl
  rw [Json.joined, Json.joinedMembers_eq_map, members, List.map_append, hfields, object]
  simp only [List.map_cons, List.map_nil, Json.joined, hlogger.joined,
    (Json.isText_ofPoints entry.message).joined]

theorem shows_lineOf (h : entry.IsWritable) (hlevel : levelName? entry.level = some level)
    (hlogger : logger.IsText entry.logger) :
    entry.Shows (lineOf (.ofMicros entry.instant) (.string level) logger entry.message
      entry.fields) := by
  have hshort : (Json.object (entry.members level logger)).holdsLongNumeral = false := by
    rw [Json.holdsLongNumeral]
    exact Telemetry.anyMemberHoldsLongNumeral_eq_false fun _ hmember =>
      (h.of_mem_members hlogger hmember).2
  have hunicode : (Json.object (entry.members level logger)).isUnicode = true := by
    rw [Json.isUnicode]
    exact Json.areMembersUnicode_of_forall fun _ hmember => (h.of_mem_members hlogger hmember).1
  refine ⟨(Json.object (entry.members level logger)).render, level, ?_, hlevel,
    Json.render_plain _, ?_⟩
  · exact if_neg (Bool.eq_false_iff.mp hshort)
  · rw [Json.read?_render hunicode, joined_members hlogger]

/-- The object that a line is read as says all that can be seen of the entry. -/
theorem agrees_of_object_eq {level' : String} (h : entry.IsWritable) (h' : other.IsWritable)
    (hlevel : levelName? entry.level = some level) (hlevel' : levelName? other.level = some level')
    (hobject : entry.object level = other.object level') : entry.Agrees other := by
  have hmembers := Json.object.inj hobject
  simp only [List.cons_append, List.nil_append, List.cons.injEq, Prod.mk.injEq, true_and,
    Json.string.injEq] at hmembers
  obtain ⟨hmoment, rfl, hlogger, hmessage, hshown⟩ := hmembers
  exact ⟨Moment.text_inj h.first h'.first hmoment, levelName?_inj hlevel hlevel',
    Json.ofPoints_inj hlogger, Json.ofPoints_inj hmessage, hshown⟩

end Entry

/-! ### Drafts -/

namespace Draft

/-- The names of what a record has for itself and takes from a field if there is one. -/
def ownNames : List String :=
  ["name", "levelname", "msg", "args", obstacle]

/-- Whether a field stands beside what a record has for itself. -/
def IsApart (field : String × Json) : Prop :=
  field.1 ∉ ownNames ∧ WholeName.ofName? field.1 = none

/-- Whether a draft makes a record that says this: its fields stand apart, and its message is put
together. -/
structure Makes (draft : Draft) (entry : Entry) : Prop where
  level : draft.level = .number entry.level
  logger : draft.logger.IsText entry.logger
  message : draft.message .none = .ok entry.message
  fields : draft.fields = entry.fields
  apart : ∀ field ∈ draft.fields, IsApart field

variable {draft : Draft} {entry : Entry}

theorem foldlM_add : ∀ {fields : List (String × Json)}, (∀ field ∈ fields, IsApart field) →
    ∀ before, fields.foldlM GivenFields.add ⟨true, before⟩ = .ok ⟨true, before ++ fields⟩
  | [], _, before => by
    rw [List.append_nil]
    rfl
  | field :: fields, h, before => by
    obtain ⟨hfield, hfields⟩ := List.forall_mem_cons.mp h
    have hadd : GivenFields.add ⟨true, before⟩ field = .ok ⟨true, before ++ [field]⟩ := by
      rw [GivenFields.add, hfield.2]
    rw [List.foldlM_cons, hadd]
    exact (foldlM_add hfields _).trans (by rw [List.append_assoc]; rfl)

/-- None of them gives what a record has for itself. -/
theorem field?_own {fields : List (String × Json)} (h : ∀ field ∈ fields, IsApart field)
    {name : String} (hname : name ∈ ownNames) : field? name fields = none := by
  rw [field?, List.lookup_eq_none_iff]
  intro field hfield
  rw [bne_iff_ne]
  rintro rfl
  exact (h field (List.mem_reverse.mp hfield)).1 hname

theorem get_own {fields : List (String × Json)} (h : ∀ field ∈ fields, IsApart field)
    {name : String} (hname : name ∈ ownNames) (own : Json) :
    GivenFields.get ⟨true, fields⟩ name own = .ok own := by
  rw [GivenFields.get, field?_own h hname]
  rfl

theorem message_apart (h : ∀ field ∈ draft.fields, IsApart field) :
    draft.message ⟨true, draft.fields⟩ = draft.message .none := by
  have harguments : draft.argumentsWith ⟨true, draft.fields⟩ = draft.argumentsWith .none := by
    rw [argumentsWith, argumentsWith]
    dsimp only
    rw [field?_own h (by decide), get_own h (by decide)]
    rfl
  rw [message, message]
  dsimp only
  rw [field?_own h (by decide), get_own h (by decide), harguments]
  rfl

theorem line_eq (hmakes : draft.Makes entry) {level : String}
    (hlevel : levelName? entry.level = some level) {moment : Moment}
    (hmoment : Moment.reach entry.instant = .ok moment) :
    draft.line entry.instant =
      lineOf moment (.string level) draft.logger entry.message entry.fields := by
  have hlabel : levelLabel draft.level = .ok (.string level) := by
    rw [hmakes.level, levelLabel, hlevel]
  rw [line, hlabel, hmoment, GivenFields.none, foldlM_add hmakes.apart, List.nil_append]
  change (do
    let level ← GivenFields.get ⟨true, draft.fields⟩ "levelname" (.string level)
    let logger ← GivenFields.get ⟨true, draft.fields⟩ "name" draft.logger
    let message ← draft.message ⟨true, draft.fields⟩
    lineOf moment level logger message draft.fields) = _
  rw [get_own hmakes.apart (by decide), get_own hmakes.apart (by decide),
    message_apart hmakes.apart, hmakes.message, hmakes.fields]
  rfl

end Draft

/-! ### Lines of entries -/

def Record.entry (record : Record) (instant : Int) : Entry :=
  ⟨instant, record.level, Text.points record.logger.toList, record.message, record.fields⟩

theorem Record.line_eq (record : Record) {instant : Int} {level : String}
    (hlevel : levelName? record.level = some level) {moment : Moment}
    (hmoment : Moment.reach instant = .ok moment) :
    record.line instant =
      lineOf moment (.string level) (.string record.logger) record.message record.fields := by
  rw [line, levelLabel, hlevel, hmoment]
  rfl

namespace Entry

/-- What the line of an entry comes out as, whether a record says it or a draft. -/
inductive Yields : Entry → Except Fault String → Prop where
  | record (record : Record) (instant : Int) : Yields (record.entry instant) (record.line instant)
  | draft {draft : Draft} {entry : Entry} (h : draft.Makes entry) :
    Yields entry (draft.line entry.instant)

variable {entry other : Entry} {line otherLine : Except Fault String}

theorem Yields.shows (hyields : entry.Yields line) (h : entry.IsWritable) : entry.Shows line := by
  have hmoment := Moment.reach_eq_ok h.first h.last
  obtain ⟨level, hlevel⟩ := exists_levelName? h.level
  cases hyields with
  | record record instant =>
    have hline : record.line instant = _ := record.line_eq hlevel hmoment
    rw [hline]
    exact shows_lineOf h hlevel rfl
  | draft hmakes =>
    rw [Draft.line_eq hmakes hlevel hmoment]
    exact shows_lineOf h hlevel hmakes.logger

theorem Shows.agrees (hshows : entry.Shows line) (hother : other.Shows line) (h : entry.IsWritable)
    (h' : other.IsWritable) : entry.Agrees other := by
  obtain ⟨text, level, rfl, hlevel, -, hread⟩ := hshows
  obtain ⟨text', level', hsame, hlevel', -, hread'⟩ := hother
  rw [← Except.ok.inj hsame, hread] at hread'
  exact agrees_of_object_eq h h' hlevel hlevel' (Option.some.inj hread')

/-- **Every record is one line that can be read back.** A record with a date, Unicode strings and
numbers that are not too long has a line of plain characters, which is read as the object of its
instant, level, logger and message and of those of the seven extra fields that were set, in their
order, with nothing else; and records that differ in any of these have different lines. -/
theorem reads_back (hyields : entry.Yields line) (h : entry.IsWritable) :
    entry.Shows line ∧ ∀ other otherLine, other.Yields otherLine → other.IsWritable →
      ¬ entry.Agrees other → line ≠ otherLine := by
  refine ⟨hyields.shows h, fun other otherLine hother hwritable hdiffer hsame => hdiffer ?_⟩
  subst hsame
  exact (hyields.shows h).agrees (hother.shows hwritable) h hwritable

/-- A draft with quotes, a line break, a surrogate pair in two halves, and nested values. -/
def sampleDraft : Draft where
  logger := .string "a\"b"
  level := .number 15
  template := .points ⟨[0x7F, 0xD83D, 0xDE00, 0x0A], by decide⟩
  arguments := []
  fields := [("result", .points ⟨[0xD800], by decide⟩), ("more", .null),
    ("url", .array [.object [("x", .string "é\n")], .number (-5)])]

def sampleEntry : Entry where
  instant := 1700000000000000
  level := 15
  logger := Text.points "a\"b".toList
  message := [0x7F, 0xD83D, 0xDE00, 0x0A]
  fields := sampleDraft.fields

theorem reads_back_nested : sampleDraft.Makes sampleEntry ∧ sampleEntry.IsWritable ∧
    ∃ text, sampleDraft.line sampleEntry.instant = .ok text ∧
      Json.read? text = some (.object [("ts", .string "2023-11-14T22:13:20Z"),
        ("level", .string "Level 15"), ("logger", .string "a\"b"),
        ("message", .string "\x7f😀\n"),
        ("url", .array [.object [("x", .string "é\n")], .number (-5)]),
        ("result", .points ⟨[0xD800], by decide⟩)]) := by
  have hmakes : sampleDraft.Makes sampleEntry := by
    refine ⟨rfl, rfl, rfl, rfl, ?_⟩
    simp only [Draft.IsApart]
    decide
  have hwritable : sampleEntry.IsWritable :=
    ⟨by decide, by decide, by decide, by decide, by decide, by decide⟩
  obtain ⟨⟨text, level, hline, hlevel, -, hread⟩, -⟩ := reads_back (.draft hmakes) hwritable
  have hname : levelName? sampleEntry.level = some "Level 15" := by decide
  rw [← Option.some.inj (hname.symm.trans hlevel)] at hread
  exact ⟨hmakes, hwritable, text, hline, hread⟩

end Entry

end Log

end SignedHttp
