import SignedHttp.CommandLine
import SignedHttp.Proofs.Hooks.Verification
import SignedHttp.Proofs.Sessions.Chosen
import SignedHttp.Proofs.Signing.Shape
import SignedHttp.Proofs.Text.Line
import SignedHttp.Proofs.Text.Occurrence

/-!
# What the command line prints

With settings that are strings (`StringSettings`) and a clock that can be read, the command shows
how it is used if it is given no address, and refuses if there is no secret, exactly when no signer
can be made of the settings either. Else it prints what the signer of the settings makes of address
and body, if all that it writes can be encoded (`CommandLine.Encodes`), and ends in a fault if there
is a surrogate in that (`CommandLine.run_answers`).

Each field has a line. Whoever takes the lines apart at the first colon that a blank follows finds
names and values again, if the names hold neither that nor a line break (`fieldsOf?_written`): the
values hold no break, for both are solid, and the name ends at the first mark, for it holds none.
What a line break is, is left to the reader.

Key definitions: `StringSettings`, `CommandLine.written`, `CommandLine.fieldsOf?`,
`CommandLine.Encodes`, `CommandLine.made`, `CommandLine.Signs`.
Key theorems: `CommandLine.fieldsOf?_written`, `CommandLine.run_signs`, `CommandLine.run_refused`.
-/

namespace SignedHttp

/-- Settings that are strings, by their code points. The secret may be missing, and the API key may
be anything. -/
structure StringSettings where
  secret : Option (List Nat)
  base : List Nat
  apiKey : Json
  timestampName : List Nat
  signName : List Nat
  level : List Nat

namespace StringSettings

variable (strings : StringSettings)

def settings : Settings :=
  ⟨.ofCodes strings.secret, .ofPoints strings.base, strings.apiKey,
    .ofPoints strings.timestampName, .ofPoints strings.signName, .ofPoints strings.level⟩

def signer (secret : List Nat) : Signer :=
  ⟨.json (.ofPoints secret), .json (.ofPoints strings.base),
    .json (.ofPoints strings.timestampName), .json (.ofPoints strings.signName), [], []⟩

/-- Whether the level is the name of one, or of nothing that logging knows. -/
def NamesLevel : Prop :=
  ∀ name : String, strings.level = Text.points name.toList → Text.upper name ∉ Log.strangeNames

/-- Either no secret is there, or it is a string with which a signer can be made. -/
theorem secret_cases :
    strings.settings.hasSecret = .ok false ∨ ∃ secret, strings.secret = some secret ∧
      strings.settings.hasSecret = .ok true ∧
      Signer.ofSettings strings.settings = .ok (strings.signer secret) := by
  obtain ⟨secret, base, apiKey, timestampName, signName, level⟩ := strings
  cases secret with
  | none => exact .inl rfl
  | some secret =>
    have hempty : (Json.ofPoints secret).isEmpty = secret.isEmpty :=
      Payload.isEmpty_of_codes? (Payload.codes?_ofPoints secret)
    cases hnil : secret.isEmpty with
    | true =>
      rw [List.isEmpty_iff.mp hnil]
      exact .inl rfl
    | false =>
      rw [hnil] at hempty
      refine .inr ⟨secret, rfl, ?_, if_neg (Bool.eq_false_iff.mp hempty)⟩
      exact Settings.hasSecret_of_codes? (Json.codes?_ofPoints secret) hnil

end StringSettings

namespace CommandLine

/-! ### Writing and reading lines -/

/-- The line of a field: its name, a colon and a blank, its value. -/
def lineOf (field : Field) : List Char :=
  field.1.toList ++ [':', ' '] ++ field.2.toList

def written (fields : List Field) : String :=
  .ofList ((fields.map lineOf).flatMap (· ++ ['\n']))

/-- The field on a line, whose name ends at the first colon with a blank behind it. -/
def fieldOf? (line : List Char) : Option Field :=
  (Text.splitFirst? [':', ' '] line).map fun (name, value) => (.ofList name, .ofList value)

/-- The fields on the lines of a text, if there is one on each. -/
def fieldsOf? (breaks : Text.LineBreaks) (text : String) : Option (List Field) :=
  (breaks.cut text.toList).mapM fieldOf?

/-- Whether a name can be read from a line: it holds no line break, and not the mark of its end. -/
structure Legible (breaks : Text.LineBreaks) (name : String) : Prop where
  unbroken : ∀ c ∈ name.toList, breaks.isBreak c = false
  unmarked : ¬ [':', ' '] <:+: name.toList

theorem fieldOf?_lineOf {field : Field} (h : ¬ [':', ' '] <:+: field.1.toList) :
    fieldOf? (lineOf field) = some field := by
  have hfirst := Text.firstAt_mark (by decide) h field.2.toList
  rw [fieldOf?, lineOf, Text.splitFirst?_eq_some_iff.mpr hfirst]
  simp only [Option.map_some, String.ofList_toList]

/-- A line holds a break only if its name or its value does. -/
theorem unbroken_lineOf {breaks : Text.LineBreaks} {field : Field}
    (hname : ∀ c ∈ field.1.toList, breaks.isBreak c = false)
    (hvalue : ∀ c ∈ field.2.toList, breaks.isBreak c = false) :
    ∀ c ∈ lineOf field, breaks.isBreak c = false := by
  have hcolon : breaks.isBreak ':' = false := by
    rw [Bool.eq_false_iff]
    exact fun h => absurd (breaks.isBlank_of_isBreak ':' h) (by decide)
  have hmark : ∀ c ∈ [':', ' '], breaks.isBreak c = false :=
    List.forall_mem_cons.mpr ⟨hcolon, List.forall_mem_singleton.mpr breaks.space⟩
  exact List.forall_mem_append.mpr ⟨List.forall_mem_append.mpr ⟨hname, hmark⟩, hvalue⟩

theorem fieldsOf?_written {breaks : Text.LineBreaks} {fields : List Field}
    (hnames : ∀ field ∈ fields, Legible breaks field.1)
    (hvalues : ∀ field ∈ fields, ∀ c ∈ field.2.toList, breaks.isBreak c = false) :
    fieldsOf? breaks (written fields) = some fields := by
  have hlines : ∀ line ∈ fields.map lineOf, ∀ c ∈ line, breaks.isBreak c = false := by
    rw [List.forall_mem_map]
    exact fun field h => unbroken_lineOf (hnames field h).unbroken (hvalues field h)
  rw [fieldsOf?, written, String.toList_ofList, breaks.cut_lines hlines]
  clear hlines hvalues
  induction fields with
  | nil => rfl
  | cons field fields ih =>
    obtain ⟨hname, hrest⟩ := List.forall_mem_cons.mp hnames
    rw [List.map_cons, List.mapM_cons, fieldOf?_lineOf hname.unmarked, ih hrest]
    rfl

theorem printLines_map : ∀ fields : List Field,
    printLines (fields.map fun field => (.text field.1, field.2)) = (written fields, none)
  | [] => rfl
  | (name, value) :: fields => by
    have hline : fieldLine (.text name, value) = Text.points (name ++ (": " ++ value)).toList :=
      (Text.points_append name (": " ++ value)).symm
    have hcheck : Text.Utf8.check (fieldLine (.text name, value)) = .ok () := by
      rw [hline, Text.Utf8.check, Text.Unencodable.checkFrom_eq_ok_iff]
      exact Text.all_points _
    rw [List.map_cons, printLines, hcheck, printLines_map fields, hline, Text.ofPoints_points]
    refine congrArg (·, none) (String.toList_inj.mp ?_)
    simp [written, lineOf]

theorem printLines_cases : ∀ fields : List (Payload × String),
    ((printLines fields).2 = none ∧
      ∀ field ∈ fields, (fieldLine field).all Text.isCharacter = true) ∨
    ∃ refusal, (printLines fields).2 = some (.surrogates refusal)
  | [] => .inl ⟨rfl, fun _ h => by cases h⟩
  | field :: fields => by
    rw [printLines]
    cases hcheck : Text.Utf8.check (fieldLine field) with
    | error refusal => exact .inr ⟨refusal, rfl⟩
    | ok _ =>
      have hline := (Text.Unencodable.checkFrom_eq_ok_iff _ _ _).mp hcheck
      rcases printLines_cases fields with ⟨hnone, hlines⟩ | hrefused
      · exact .inl ⟨hnone, List.forall_mem_cons.mpr ⟨hline, hlines⟩⟩
      · exact .inr hrefused

theorem all_fieldLine (name : List Nat) (value : String) :
    (fieldLine (.json (.ofPoints name), value)).all Text.isCharacter =
      name.all Text.isCharacter := by
  rw [fieldLine, Payload.codes?_ofPoints, Option.getD_some, List.all_append, Text.all_points,
    Bool.and_true]

theorem printLines_pairs (timestamp sign : String) (path : Json) {timestampName signName : List Nat}
    (h : ¬ (timestampName.all Text.isCharacter = true ∧ signName.all Text.isCharacter = true)) :
    ∃ refusal, (printLines (SignedHeaders.pairs ⟨timestamp, sign, path,
      .json (.ofPoints timestampName), .json (.ofPoints signName)⟩)).2 =
        some (.surrogates refusal) := by
  refine (printLines_cases _).resolve_left fun ⟨_, hlines⟩ => h ?_
  rw [SignedHeaders.pairs] at hlines
  dsimp only at hlines
  split at hlines
  · rename_i hsame
    have hline := hlines _ List.mem_cons_self
    rw [all_fieldLine] at hline
    rw [← Json.ofPoints_inj (Json.isSame_ofPoints_iff.mp hsame)]
    exact ⟨hline, hline⟩
  · obtain ⟨htimestamp, hsign⟩ := List.forall_mem_cons.mp hlines
    rw [List.forall_mem_singleton, all_fieldLine] at hsign
    rw [all_fieldLine] at htimestamp
    exact ⟨htimestamp, hsign⟩

/-- A reader of the fields of a signing finds them, if their names differ and are legible. -/
theorem fieldsOf?_textFields {breaks : Text.LineBreaks} {clock : Clock} {signed : SignedHeaders}
    {timestampName signName : String} (hreadable : signed.Readable clock)
    (hne : timestampName ≠ signName) (htimestamp : Legible breaks timestampName)
    (hsign : Legible breaks signName) :
    fieldsOf? breaks (written (signed.textFields timestampName signName)) =
      some [(timestampName, signed.timestamp), (signName, signed.sign)] := by
  have hunbroken : ∀ c ∈ signed.sign.toList ++ signed.timestamp.toList,
      breaks.isBreak c = false := by
    intro c hc
    obtain ⟨-, hblank⟩ := Bool.and_eq_true_iff.mp (hreadable.solid c hc)
    rw [Bool.eq_false_iff]
    intro h
    rw [breaks.isBlank_of_isBreak c h] at hblank
    cases hblank
  obtain ⟨hsignValue, htimestampValue⟩ := List.forall_mem_append.mp hunbroken
  rw [SignedHeaders.textFields, if_neg hne]
  refine fieldsOf?_written ?_ ?_
  · exact List.forall_mem_cons.mpr ⟨htimestamp, List.forall_mem_singleton.mpr hsign⟩
  · exact List.forall_mem_cons.mpr ⟨htimestampValue, List.forall_mem_singleton.mpr hsignValue⟩

/-! ### The ends of a run -/

def Result.counts (result : Result) : Tally :=
  (result.telemetry.absorb result.events).1.tally

/-- The body among what follows the address: only the next argument counts. -/
def bodyOf (rest : List (List Nat)) : Payload :=
  .json (.ofCodes rest.head?)

def bodyCodes (rest : List (List Nat)) : List Nat :=
  rest.head?.getD []

theorem bodyText_bodyOf (rest : List (List Nat)) :
    (bodyOf rest).bodyText = .ok (.ofPoints (bodyCodes rest)) := by
  cases rest with
  | nil => rfl
  | cons body rest => exact Payload.bodyText_of_codes? (Payload.codes?_ofPoints body)

/-- Whether all that the command signs and prints can be encoded: there is no surrogate in the
secret, in what is signed of address and body, or in the names of the fields. -/
structure Encodes (strings : StringSettings) (url : List Nat) (rest : List (List Nat)) : Prop where
  secret : ∀ secret, strings.secret = some secret → secret.all Text.isCharacter = true
  path : (Text.eraseFirst strings.base url).all Text.isCharacter = true
  body : (bodyCodes rest).all Text.isCharacter = true
  timestampName : strings.timestampName.all Text.isCharacter = true
  signName : strings.signName.all Text.isCharacter = true

variable {strings : StringSettings} {clock : Clock} {url : List Nat} {rest : List (List Nat)}
  {secret : List Nat} {n : Int}

theorem exists_configure (hlevel : strings.NamesLevel) :
    ∃ levels, Log.Levels.configure (.json strings.settings.logLevel) = .ok levels := by
  change ∃ levels, Log.Levels.configure (.json (.ofPoints strings.level)) = .ok levels
  rw [Log.Levels.configure]
  cases hvalue : Json.ofPoints strings.level with
  | string name =>
    have hname : strings.level = Text.points name.toList := by
      rw [← Option.some.inj ((Json.codes?_ofPoints _).symm.trans (congrArg Json.codes? hvalue))]
    exact ⟨_, by rw [Log.chooseLevel_text (hlevel name hname)]; rfl⟩
  | points s => exact ⟨_, rfl⟩
  | _ => cases (Json.codes?_ofPoints _).symm.trans (congrArg Json.codes? hvalue)

theorem run_of_missing (hlevel : strings.NamesLevel)
    (h : strings.settings.hasSecret = .ok false) (telemetry : Telemetry) (clock : Clock)
    (url : List Nat) (rest : List (List Nat)) : ∃ levels,
    run telemetry strings.settings clock ((url :: rest).map .ofPoints) =
      ⟨2, "", noSecret, none, [], { telemetry with levels := levels }⟩ := by
  obtain ⟨levels, hconfigure⟩ := exists_configure hlevel
  refine ⟨levels, ?_⟩
  rw [List.map_cons, run, hconfigure]
  dsimp only
  rw [h]

theorem run_of_secret (hlevel : strings.NamesLevel)
    (hthere : strings.settings.hasSecret = .ok true)
    (hsigner : Signer.ofSettings strings.settings = .ok (strings.signer secret))
    (telemetry : Telemetry) (clock : Clock) (url : List Nat) (rest : List (List Nat)) :
    ∃ levels, run telemetry strings.settings clock ((url :: rest).map .ofPoints) =
      match ((strings.signer secret).sign clock (.ofPoints url) (bodyOf rest) .null).result with
      | .error fault => ⟨1, "", "", some fault,
          ((strings.signer secret).sign clock (.ofPoints url) (bodyOf rest) .null).events,
          { telemetry with levels := levels }⟩
      | .ok signed =>
        ⟨if (printLines signed.pairs).2.isSome then 1 else 0, (printLines signed.pairs).1, "",
          (printLines signed.pairs).2,
          ((strings.signer secret).sign clock (.ofPoints url) (bodyOf rest) .null).events,
          { telemetry with levels := levels }⟩ := by
  obtain ⟨levels, hconfigure⟩ := exists_configure hlevel
  have hbody : (rest.map Json.ofPoints).head?.getD .null = .ofCodes rest.head? := by
    cases rest <;> rfl
  refine ⟨levels, ?_⟩
  rw [List.map_cons, run, hconfigure]
  dsimp only
  rw [hthere]
  dsimp only
  rw [hbody, sign, hsigner]
  rfl

/-- What the command's signer makes of address and body, with the signature of what these come
to. -/
theorem signed_eq (htime : clock.read.1.milliseconds = .ok n)
    (hshort : Text.Decimal.isLong n = false) :
    ((strings.signer secret).sign clock (.ofPoints url) (bodyOf rest) .null).result =
      (fun sign => ⟨Text.Decimal.numeral n, sign, .ofPoints (Text.eraseFirst strings.base url),
        .json (.ofPoints strings.timestampName), .json (.ofPoints strings.signName)⟩) <$>
        Signature.ofPoints (.json (.ofPoints secret))
          (Text.points (Text.Decimal.numeral n).toList) (Text.eraseFirst strings.base url)
          (bodyCodes rest) :=
  Signer.result_of_codes? _ _ (Json.codes?_ofPoints url) (Payload.codes?_ofPoints strings.base)
    htime hshort (bodyText_bodyOf rest) (Json.codes?_ofPoints _)

/-- What it makes of what can be encoded. -/
def made (strings : StringSettings) (url : List Nat) (rest : List (List Nat)) (secret : List Nat)
    (n : Int) : SignedHeaders :=
  ⟨Text.Decimal.numeral n,
    Signature.ofKey (Text.Utf8.encode (Text.ofPoints secret))
      (Text.Utf8.encode (Text.ofPoints (Text.points (Text.Decimal.numeral n).toList ++
        Text.eraseFirst strings.base url ++ bodyCodes rest))),
    .ofPoints (Text.eraseFirst strings.base url), .text (Text.ofPoints strings.timestampName),
    .text (Text.ofPoints strings.signName)⟩

namespace Encodes

theorem signer_eq (h : Encodes strings url rest) (secret : List Nat) :
    strings.signer secret = .named (.json (.ofPoints secret)) (.json (.ofPoints strings.base))
      (Text.ofPoints strings.timestampName) (Text.ofPoints strings.signName) := by
  rw [StringSettings.signer, Json.ofPoints_of_all h.timestampName,
    Json.ofPoints_of_all h.signName]
  rfl

theorem encodePoints_eq (h : Encodes strings url rest) (n : Int) :
    Text.Utf8.encodePoints (Text.points (Text.Decimal.numeral n).toList ++
        Text.eraseFirst strings.base url ++ bodyCodes rest) =
      .ok (Text.Utf8.encode (Text.ofPoints (Text.points (Text.Decimal.numeral n).toList ++
        Text.eraseFirst strings.base url ++ bodyCodes rest))) := by
  refine Text.Utf8.encodePoints_of_all ?_
  rw [List.all_append, List.all_append, Text.all_points, h.path, h.body]
  rfl

theorem signed_eq (h : Encodes strings url rest) (hsecret : strings.secret = some secret)
    (htime : clock.read.1.milliseconds = .ok n) (hshort : Text.Decimal.isLong n = false) :
    ((strings.signer secret).sign clock (.ofPoints url) (bodyOf rest) .null).result =
      .ok (made strings url rest secret n) := by
  have hkey : (Payload.json (.ofPoints secret)).keyBytes =
      .ok (Text.Utf8.encode (Text.ofPoints secret)) := by
    rw [Json.ofPoints_of_all (h.secret secret hsecret)]
    rfl
  rw [CommandLine.signed_eq htime hshort, Signature.ofPoints_of_ok (h.encodePoints_eq n), hkey,
    Json.ofPoints_of_all h.timestampName, Json.ofPoints_of_all h.signName]
  rfl

theorem verifies (h : Encodes strings url rest) (n : Int) {secret path body : String}
    (hpath : Text.eraseFirst strings.base url = Text.points path.toList)
    (hbody : bodyCodes rest = Text.points body.toList) :
    Text.Base64.decode? (made strings url rest (Text.points secret.toList) n).sign =
      some (Crypto.hmacSha256 (Text.Utf8.encode secret)
        (Text.Utf8.encode (Text.Decimal.numeral n) ++ Text.Utf8.encode path ++
          Text.Utf8.encode body)) := by
  have hmessage := h.encodePoints_eq n
  rw [hpath, hbody, Signature.encodePoints_texts] at hmessage
  rw [made]
  dsimp only
  rw [Text.ofPoints_points, hpath, hbody, ← Except.ok.inj hmessage,
    Signature.decode?_ofKey (Text.Utf8.decode_encode body)]

end Encodes

/-- What the command leaves when it signs, by the signer and what that one makes. -/
structure Signs (strings : StringSettings) (clock : Clock) (url : List Nat)
    (rest : List (List Nat)) (before : Telemetry) (result : Result) (signer : Signer)
    (signed : SignedHeaders) : Prop where
  exit : result.exit = 0
  signer_eq : Signer.ofSettings strings.settings = .ok signer
  signed_eq : (signer.sign clock (.ofPoints url) (bodyOf rest) .null).result = .ok signed
  counts : result.counts = before.tally.increment (signer.outcome (.ofPoints url))
  /-- There is one line for each of the fields, in their order. -/
  output : ∃ fields : List Field,
    signed.fields = .ok (fields.map fun field => (.text field.1, field.2)) ∧
      result.output = written fields
  /-- Both fields are read again, if their names differ and are legible. -/
  recovers : strings.timestampName ≠ strings.signName → ∀ breaks : Text.LineBreaks,
    Legible breaks (Text.ofPoints strings.timestampName) →
      Legible breaks (Text.ofPoints strings.signName) →
        fieldsOf? breaks result.output =
          some [(Text.ofPoints strings.timestampName, signed.timestamp),
            (Text.ofPoints strings.signName, signed.sign)]
  /-- The signature is the keyed digest of timestamp, path and body. -/
  verifies : ∀ secret path body : String, strings.secret = some (Text.points secret.toList) →
    Text.eraseFirst strings.base url = Text.points path.toList →
      bodyCodes rest = Text.points body.toList →
        Text.Base64.decode? signed.sign = some (Crypto.hmacSha256 (Text.Utf8.encode secret)
          (Text.Utf8.encode signed.timestamp ++ Text.Utf8.encode path ++ Text.Utf8.encode body))

theorem run_signs (telemetry : Telemetry) (hlevel : strings.NamesLevel)
    (hsecret : strings.secret = some secret) (hthere : strings.settings.hasSecret = .ok true)
    (hsigner : Signer.ofSettings strings.settings = .ok (strings.signer secret))
    (htime : clock.read.1.milliseconds = .ok n) (hshort : Text.Decimal.isLong n = false)
    (h : Encodes strings url rest) :
    ∃ signed, Signs strings clock url rest telemetry
      (run telemetry strings.settings clock ((url :: rest).map .ofPoints)) (strings.signer secret)
      signed := by
  have hsigned := h.signed_eq hsecret htime hshort
  obtain ⟨hfields, hpairs⟩ := @SignedHeaders.fields_eq (made strings url rest secret n) _ _ rfl rfl
  have hprinted : printLines (made strings url rest secret n).pairs =
      (written ((made strings url rest secret n).textFields
        (Text.ofPoints strings.timestampName) (Text.ofPoints strings.signName)), none) := by
    rw [hpairs, printLines_map]
  obtain ⟨-, houtcomes, -⟩ := Signer.sign_ok rfl hsigned
  obtain ⟨levels, hrun⟩ := run_of_secret hlevel hthere hsigner telemetry clock url rest
  rw [hsigned] at hrun
  dsimp only at hrun
  rw [hprinted] at hrun
  refine ⟨made strings url rest secret n, ?_⟩
  rw [hrun]
  exact {
    exit := rfl
    signer_eq := hsigner
    signed_eq := hsigned
    counts := by
      rw [Result.counts, Telemetry.absorb_fst, houtcomes]
      rfl
    output := ⟨_, by rw [hfields, hpairs], rfl⟩
    recovers := fun hne _ htimestamp hsign => by
      have hreadable := Signer.readable_of_sign (h.signer_eq secret ▸ hsigned)
      refine fieldsOf?_textFields hreadable (fun hsame => ?_) htimestamp hsign
      rw [← Text.points_ofPoints h.timestampName, ← Text.points_ofPoints h.signName, hsame] at hne
      exact hne rfl
    verifies := fun text path body htext hpath hbody => by
      rw [Option.some.inj (hsecret.symm.trans htext)]
      exact h.verifies n hpath hbody }

theorem run_refused (telemetry : Telemetry) (hlevel : strings.NamesLevel)
    (hsecret : strings.secret = some secret) (hthere : strings.settings.hasSecret = .ok true)
    (hsigner : Signer.ofSettings strings.settings = .ok (strings.signer secret))
    (htime : clock.read.1.milliseconds = .ok n) (hshort : Text.Decimal.isLong n = false)
    (h : ¬ Encodes strings url rest) :
    let result := run telemetry strings.settings clock ((url :: rest).map .ofPoints)
    result.exit = 1 ∧ ∃ refusal, result.fault = some (.surrogates refusal) := by
  intro result
  obtain ⟨levels, hrun⟩ := run_of_secret hlevel hthere hsigner telemetry clock url rest
  have hresult : result = _ := hrun
  rw [hresult, signed_eq htime hshort]
  -- what is signed is encoded first, then the secret, and the names when they are printed
  cases hall : (Text.points (Text.Decimal.numeral n).toList ++
      Text.eraseFirst strings.base url ++ bodyCodes rest).all Text.isCharacter with
  | false =>
    rw [Signature.ofPoints_of_error (Text.Utf8.encodePoints_codes ⟨_, hall⟩)]
    exact ⟨rfl, _, rfl⟩
  | true =>
    rw [Signature.ofPoints_of_ok (Text.Utf8.encodePoints_of_all hall)]
    cases hkey : secret.all Text.isCharacter with
    | false =>
      have hvalue : Json.ofPoints secret = .points ⟨secret, hkey⟩ :=
        Json.ofPoints_codes ⟨secret, hkey⟩
      rw [hvalue]
      exact ⟨rfl, _, rfl⟩
    | true =>
      have hnames : ¬ (strings.timestampName.all Text.isCharacter = true ∧
          strings.signName.all Text.isCharacter = true) := fun ⟨ht, hs⟩ => by
        rw [List.all_append, List.all_append, Bool.and_eq_true, Bool.and_eq_true] at hall
        refine h ⟨fun other hother => ?_, hall.1.2, hall.2, ht, hs⟩
        rw [← Option.some.inj (hsecret.symm.trans hother)]
        exact hkey
      rw [Json.ofPoints_of_all hkey]
      change (if (printLines (SignedHeaders.pairs _)).2.isSome = true then 1 else 0) = 1 ∧
        ∃ refusal, (printLines (SignedHeaders.pairs _)).2 = some (.surrogates refusal)
      obtain ⟨refusal, hfault⟩ := printLines_pairs _ _ _ hnames
      rw [hfault]
      exact ⟨rfl, refusal, rfl⟩

/-- Without an address the command shows how it is used and signs nothing. With one it refuses
exactly if there is no secret, for want of which no signer can be made either; else it exits with 0
and prints, a line for each, the fields that the signer of the settings makes, if all that it signs
and prints can be encoded, and otherwise it exits with 1 for a surrogate. -/
theorem run_answers (hlevel : strings.NamesLevel)
    (htime : clock.read.1.milliseconds = .ok n) (hshort : Text.Decimal.isLong n = false)
    (telemetry : Telemetry) :
    run telemetry strings.settings clock [] = ⟨1, usage, "", none, [], telemetry⟩ ∧
    ∀ (url : List Nat) (rest : List (List Nat)),
      let result := run telemetry strings.settings clock ((url :: rest).map .ofPoints)
      (result.exit = 2 ∧ result.output = "" ∧ result.counts = telemetry.tally ↔
        strings.settings.hasSecret = .ok false) ∧
      (strings.settings.hasSecret = .ok false ↔
        Signer.ofSettings strings.settings = .error .missingSecret) ∧
      (strings.settings.hasSecret ≠ .ok false →
        (Encodes strings url rest →
          ∃ signer signed, Signs strings clock url rest telemetry result signer signed) ∧
        (¬ Encodes strings url rest →
          result.exit = 1 ∧ ∃ refusal, result.fault = some (.surrogates refusal))) := by
  refine ⟨rfl, fun url rest => ?_⟩
  rcases strings.secret_cases with hmissing | ⟨secret, hsecret, hthere, hsigner⟩
  · have hsigner := (Signer.ofSettings_eq_error_iff _ _ hmissing).mpr rfl
    obtain ⟨levels, hrun⟩ := run_of_missing hlevel hmissing telemetry clock url rest
    rw [hrun]
    exact ⟨iff_of_true ⟨rfl, rfl, rfl⟩ hmissing, iff_of_true hmissing hsigner,
      fun h => absurd hmissing h⟩
  · have hnot : strings.settings.hasSecret ≠ .ok false := by
      rw [hthere]
      exact fun h => nomatch h
    have hmade : Signer.ofSettings strings.settings ≠ .error .missingSecret := by
      rw [hsigner]
      exact fun h => nomatch h
    have hsigns := @run_signs strings clock url rest secret n telemetry hlevel hsecret hthere
      hsigner htime hshort
    have hrefused := @run_refused strings clock url rest secret n telemetry hlevel hsecret hthere
      hsigner htime hshort
    refine ⟨iff_of_false ?_ hnot, iff_of_false hnot hmade, fun _ => ⟨fun h => ?_, hrefused⟩⟩
    · rintro ⟨hexit, -⟩
      by_cases h : Encodes strings url rest
      · obtain ⟨signed, hsigned⟩ := hsigns h
        rw [hsigned.exit] at hexit
        cases hexit
      · rw [(hrefused h).1] at hexit
        cases hexit
    · obtain ⟨signed, hsigned⟩ := hsigns h
      exact ⟨_, signed, hsigned⟩

/-- A signing with a third argument, and with a name that ends in a colon. -/
theorem run_answers_colon :
    let codes (s : String) : List Nat := Text.points s.toList
    let strings : StringSettings :=
      ⟨some (codes "secret"), codes "http://host", .null, codes "time:", codes "sign",
        codes "debug"⟩
    let clock := Clock.always (.seconds 1)
    let url := codes "http://host/ping"
    let rest := [codes "x", codes "ignored"]
    let result := run .initial strings.settings clock ((url :: rest).map .ofPoints)
    strings.NamesLevel ∧ clock.read.1.milliseconds = .ok 1000 ∧
      Text.Decimal.isLong 1000 = false ∧ ∃ signer signed,
        Signs strings clock url rest .initial result signer signed ∧
        fieldsOf? .unicode result.output =
          some [("time:", signed.timestamp), ("sign", signed.sign)] ∧
        fieldsOf? .feeds result.output =
          some [("time:", signed.timestamp), ("sign", signed.sign)] := by
  intro codes strings clock url rest result
  have hlevel : strings.NamesLevel := by
    intro name hname
    have hdebug : "debug" = name := by
      rw [← Text.ofPoints_points "debug", ← Text.ofPoints_points name]
      exact congrArg Text.ofPoints hname
    rw [← hdebug]
    decide +kernel
  have htime : clock.read.1.milliseconds = .ok 1000 := rfl
  have hshort : Text.Decimal.isLong 1000 = false := by decide
  have hlegible : ∀ breaks ∈ [Text.LineBreaks.unicode, .feeds], ∀ name ∈ ["time:", "sign"],
      Legible breaks name := by
    have hunbroken : ∀ breaks ∈ [Text.LineBreaks.unicode, .feeds], ∀ name ∈ ["time:", "sign"],
        name.toList.all (!breaks.isBreak ·) = true := by decide
    have hunmarked : ∀ name ∈ ["time:", "sign"],
        Text.occursIn [':', ' '] name.toList = false := by decide
    intro breaks hbreaks name hname
    refine ⟨fun c hc => ?_, fun h => ?_⟩
    · have hc' := List.all_eq_true.mp (hunbroken breaks hbreaks name hname) c hc
      rwa [Bool.not_eq_true'] at hc'
    · rw [← Text.occursIn_iff, hunmarked name hname] at h
      cases h
  have hencodes : Encodes strings url rest := by
    refine ⟨fun secret hsecret => ?_, ?_, ?_, ?_, ?_⟩
    · rw [← Option.some.inj hsecret]
      exact Text.all_points _
    all_goals decide
  have hthere : strings.settings.hasSecret ≠ .ok false := by
    decide
  obtain ⟨-, hanswers⟩ := @run_answers strings clock 1000 hlevel htime hshort .initial
  obtain ⟨-, -, hsigns⟩ := hanswers url rest
  obtain ⟨signer, signed, hsigned⟩ := (hsigns hthere).1 hencodes
  have hrecovers := hsigned.recovers (by decide)
  rw [show strings.timestampName = Text.points "time:".toList from rfl,
    show strings.signName = Text.points "sign".toList from rfl, Text.ofPoints_points,
    Text.ofPoints_points] at hrecovers
  refine ⟨hlevel, htime, hshort, signer, signed, hsigned, ?_, ?_⟩
  · exact hrecovers .unicode (hlegible _ (by simp) _ (by simp)) (hlegible _ (by simp) _ (by simp))
  · exact hrecovers .feeds (hlegible _ (by simp) _ (by simp)) (hlegible _ (by simp) _ (by simp))

/-- An argument with a surrogate, which a byte that is no UTF-8 comes as, makes the command exit
with 1, having printed nothing. -/
theorem run_not_answers_surrogate :
    let codes (s : String) : List Nat := Text.points s.toList
    let strings : StringSettings :=
      ⟨some (codes "s"), codes "http://a", .null, codes "timestamp", codes "sign", codes "INFO"⟩
    let clock := Clock.always (.seconds 1)
    let result := run .initial strings.settings clock
      [.ofPoints (codes "http://h/" ++ [0xDCFF])]
    strings.settings.hasSecret = .ok true ∧ clock.read.1.milliseconds = .ok 1000 ∧
      result.exit = 1 ∧ result.output = "" ∧
      result.fault = some (.surrogates ⟨13, 0xDCFF, []⟩) := by
  intro codes strings clock result
  refine ⟨by decide, rfl, ?_⟩
  dsimp only [result, strings, clock, codes]
  decide +kernel

end CommandLine

end SignedHttp
