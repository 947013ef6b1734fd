import SignedHttp.Proofs.Hooks.Presence
import SignedHttp.Proofs.Signing.Shape

/-!
# What repeated signing leaves to be read

A signer is applied to one mapping again and again (`Signer.applyAll`). Values of one name become
one value there, and what was there before may hold anything, separators too. Still a reader who
takes the value apart finds the signatures at its end, one element each and in their order, and so
for the timestamps (`Signer.applyAll_recovers`). This rests on the shape of the two texts: neither
holds a comma, so each is one element, whatever it is joined to (`Headers.endsIn_foldAll`).

Applications that fail leave the mapping as it is, so only those count that succeed. The clock may
give anything each time.

Key definitions: `Application`, `Signer.applyAll`, `Headers.EndsIn`.
Key theorems: `Headers.endsIn_foldAll`, `Signer.applyAll_named`, `Signer.applyAll_recovers`.
-/

namespace SignedHttp

/-! ### The end of a field -/

namespace Headers

/-- Whether the first field of a name ends in values, one element each. -/
def EndsIn (name : String) (values : List String) (fields : List Field) : Prop :=
  ∃ field, fields.find? (fun field => Text.sameName field.1 name) = some field ∧
    values <:+ Text.elements field.2

theorem flatMap_elements {values : List String}
    (h : ∀ value ∈ values, Text.elements value = [value]) :
    values.flatMap Text.elements = values := by
  rw [List.flatMap_congr h]
  exact List.flatMap_singleton' values

theorem endsIn_foldAll {name : String} {added : List Field} {values : List String}
    (hadded : valuesOf name added = values) (hne : values ≠ [])
    (helements : ∀ value ∈ values, Text.elements value = [value]) (before : List Field) :
    EndsIn name values (foldAll added before) := by
  refine (exists_find?_iff (p := fun first => values <:+ Text.elements first)).mpr ?_
  have hvalues := (foldAll_keepsHistory added before).values name
  rw [hadded] at hvalues
  cases hbefore : valuesOf name before with
  | nil =>
    rw [hbefore] at hvalues
    refine ⟨", ".intercalate values, [], ?_, ?_⟩
    · rw [hvalues]
      simp [joined, hne]
    · have hall := Text.elements_intercalate hne
      rw [flatMap_elements helements] at hall
      exact ⟨[], hall.symm⟩
  | cons old rest =>
    rw [hbefore] at hvalues
    refine ⟨_, rest, hvalues, ?_⟩
    rw [Text.elements_intercalate (List.cons_ne_nil old _), List.flatMap_cons,
      flatMap_elements helements]
    exact List.suffix_append _ _

end Headers

/-! ### Many applications -/

/-- An application of a signer: the clock as it stands then, the address and the body. -/
structure Application where
  clock : Clock
  url : Json
  body : Payload

namespace Signer

/-- Applies a signer to headers again and again: the applications that succeed with what they
signed, and the headers at the end. -/
def applyAll (signer : Signer) : List Application → Option Headers →
    List (Application × SignedHeaders) × Option Headers
  | [], headers => ([], headers)
  | application :: rest, headers =>
    let (run, headers) := signer.apply application.clock headers application.url application.body
    let (done, headers) := signer.applyAll rest headers
    match run.result with
    | .ok signed => ((application, signed) :: done, headers)
    | .error _ => (done, headers)

variable {secret base : Payload} {timestampName signName : String}

/-- A mapping takes the fields of all applications that succeed, in their order. -/
theorem applyAll_named (rule : NameRule) : ∀ (applications : List Application)
    (fields : List Field), ∃ done,
      (named secret base timestampName signName).applyAll applications
          (some (.named rule fields)) =
        (done, some (.named rule (Headers.foldAll
          (done.flatMap fun entry => entry.2.textFields timestampName signName) fields))) ∧
      ∀ entry ∈ done, ((named secret base timestampName signName).sign entry.1.clock entry.1.url
        entry.1.body .null).result = .ok entry.2
  | [], _ => ⟨[], rfl, fun _ h => by cases h⟩
  | application :: rest, fields => by
    cases hresult : ((named secret base timestampName signName).sign application.clock
      application.url application.body .null).result with
    | error fault =>
      obtain ⟨done, hdone, hsigned⟩ := applyAll_named rule rest fields
      refine ⟨done, ?_, hsigned⟩
      rw [applyAll, apply_of_error _ hresult]
      exact hdone
    | ok signed =>
      obtain ⟨done, hdone, hsigned⟩ := applyAll_named rule rest
        (Headers.foldAll (signed.textFields timestampName signName) fields)
      refine ⟨(application, signed) :: done, ?_, List.forall_mem_cons.mpr ⟨hresult, hsigned⟩⟩
      rw [applyAll, apply_of_ok rule fields hresult]
      dsimp only
      rw [hdone, hresult, List.flatMap_cons, Headers.foldAll_append]

theorem valuesOf_flatMap_textFields (hnames : Text.sameName timestampName signName = false) :
    ∀ done : List (Application × SignedHeaders),
      let fields := done.flatMap fun entry => entry.2.textFields timestampName signName
      Headers.valuesOf timestampName fields = done.map (·.2.timestamp) ∧
        Headers.valuesOf signName fields = done.map (·.2.sign)
  | [] => ⟨rfl, rfl⟩
  | entry :: done => by
    obtain ⟨htimestamp, hsign⟩ := entry.2.valuesOf_textFields hnames
    obtain ⟨htimestamps, hsigns⟩ := valuesOf_flatMap_textFields hnames done
    intro fields
    refine ⟨?_, ?_⟩
    · rw [show fields = _ from List.flatMap_cons, Headers.valuesOf_append, htimestamp, htimestamps]
      rfl
    · rw [show fields = _ from List.flatMap_cons, Headers.valuesOf_append, hsign, hsigns]
      rfl

/-- After any applications to a mapping, of which at least one succeeded, the first field of the
signature's name ends in the signatures that were made, in their order, and that of the timestamp's
name in the timestamps; and all of these have the shape that makes them readable. -/
theorem applyAll_recovers (hnames : Text.sameName timestampName signName = false)
    (secret base : Payload) (rule : NameRule) (before : List Field)
    (applications : List Application) :
    let signer := named secret base timestampName signName
    ∃ done after,
      signer.applyAll applications (some (.named rule before)) =
        (done, some (.named rule after)) ∧
      (done ≠ [] → Headers.EndsIn signName (done.map (·.2.sign)) after ∧
        Headers.EndsIn timestampName (done.map (·.2.timestamp)) after) ∧
      ∀ entry ∈ done,
        (signer.sign entry.1.clock entry.1.url entry.1.body .null).result = .ok entry.2 ∧
          entry.2.Readable entry.1.clock := by
  intro signer
  obtain ⟨done, hdone, hsigned⟩ :=
    @applyAll_named secret base timestampName signName rule applications before
  obtain ⟨htimestamps, hsigns⟩ := valuesOf_flatMap_textFields hnames done
  refine ⟨done, _, hdone, fun hne => ⟨?_, ?_⟩, fun entry hentry =>
    ⟨hsigned entry hentry, readable_of_sign (hsigned entry hentry)⟩⟩
  · refine Headers.endsIn_foldAll hsigns (by simpa using hne) ?_ before
    exact List.forall_mem_map.mpr fun entry hentry =>
      (elements_of_sign (hsigned entry hentry)).2.1
  · refine Headers.endsIn_foldAll htimestamps (by simpa using hne) ?_ before
    exact List.forall_mem_map.mpr fun entry hentry =>
      (elements_of_sign (hsigned entry hentry)).1

/-- Two applications at times before and after the epoch, to a mapping in which the name of the
signature stands already, with a separator at the end of its value. -/
theorem applyAll_recovers_twice :
    let signer := named (.text "secret") (.text "") "timestamp" "sign"
    let applications : List Application :=
      [⟨.always (.seconds 1), .string "/a", .absent⟩,
        ⟨.always (.seconds (-1)), .string "/b", .text "x"⟩]
    Text.sameName "timestamp" "sign" = false ∧ ∃ first second after,
      signer.applyAll applications (some (.named .exact [("Sign", "old, ")])) =
        ([(⟨.always (.seconds 1), .string "/a", .absent⟩, first),
          (⟨.always (.seconds (-1)), .string "/b", .text "x"⟩, second)],
            some (.named .exact after)) ∧
      Headers.EndsIn "sign" [first.sign, second.sign] after ∧
      Headers.EndsIn "timestamp" ["1000", "-1000"] after := by
  intro signer applications
  have hnames : Text.sameName "timestamp" "sign" = false := by
    rw [Text.sameName, Text.Ascii.lower_eq_asciiLower rfl, Text.Ascii.lower_eq_asciiLower rfl]
    decide
  refine ⟨hnames, ?_⟩
  have hkey : (Payload.text "secret").keyBytes = .ok (Text.Utf8.encode "secret") := rfl
  obtain ⟨first, hfirst, hfirstTime, -⟩ := exists_signed "" "/a" "timestamp" "sign" hkey
    (show (Clock.always (.seconds 1)).read.1.milliseconds = .ok 1000 from rfl) (by decide)
    (show Payload.absent.bodyText = .ok (.string "") from rfl)
  obtain ⟨second, hsecond, hsecondTime, -⟩ := exists_signed "" "/b" "timestamp" "sign" hkey
    (show (Clock.always (.seconds (-1))).read.1.milliseconds = .ok (-1000) from rfl) (by decide)
    (show (Payload.text "x").bodyText = .ok (.string "x") from rfl)
  obtain ⟨done, after, hdone, hends, -⟩ :=
    applyAll_recovers hnames (.text "secret") (.text "") .exact [("Sign", "old, ")] applications
  have hboth : done = [(⟨.always (.seconds 1), .string "/a", .absent⟩, first),
      (⟨.always (.seconds (-1)), .string "/b", .text "x"⟩, second)] := by
    have hrun := congrArg Prod.fst hdone
    rw [applyAll, apply_of_ok .exact _ hfirst] at hrun
    dsimp only at hrun
    rw [applyAll, apply_of_ok .exact _ hsecond] at hrun
    dsimp only [applyAll] at hrun
    rw [hfirst, hsecond] at hrun
    exact hrun.symm
  obtain ⟨hsign, htimestamp⟩ := hends (hboth ▸ List.cons_ne_nil _ _)
  rw [hboth] at hdone hsign htimestamp
  refine ⟨first, second, after, hdone, hsign, ?_⟩
  rw [List.map_cons, List.map_cons, List.map_nil, hfirstTime, hsecondTime] at htimestamp
  exact htimestamp

end Signer

end SignedHttp
