import SignedHttp.Proofs.Sessions.Accounts
import SignedHttp.Proofs.Signing.Logged
import SignedHttp.Proofs.Text.Utf8

/-!
# What stands in the way of a signing

Six things can stand in the way of a signing whose signer has all its parts: a body without a
text, a clock that gives no time, a time that is too long to be written, a missing address from
which a base is to be taken off, a surrogate in what is to be signed, and a secret without bytes
(`Obstacle`). More than one can at once, and then the first of them decides how the signing is
refused (`PlainSigning.ends_run`): it fails with the fault of this one, it has counted nothing, and
it has logged nothing either, unless it is one of the last two, which are met behind the warning.
Where nothing stands in the way the signing succeeds.

The clock is read once if no time is given and the body has a text, whatever fails after that, and
else it is not read.

Key definitions: `PlainSigning`, `Obstacle`, `PlainSigning.Meets`, `PlainSigning.MeetsFirst`.
Key theorems: `PlainSigning.MeetsFirst.unique`, `PlainSigning.ofPoints_cases`,
`PlainSigning.ends_run`.
-/

namespace SignedHttp

/-- A signing by a signer that has all its parts and does what it was made for, with a string or
nothing for base and address and an integer or nothing for the time. -/
structure PlainSigning where
  secret : Payload
  base : Option (List Nat)
  timestampHeader : Payload
  signHeader : Payload
  clock : Clock
  url : Option (List Nat)
  body : Payload
  time : Option Int

/-- What can stand in the way of a signing, in the order in which it is met. -/
inductive Obstacle where
  | body
  | clock
  | numeral
  | address
  | surrogate
  | secret
deriving DecidableEq, Repr

def Obstacle.rank : Obstacle → Nat
  | .body => 0
  | .clock => 1
  | .numeral => 2
  | .address => 3
  | .surrogate => 4
  | .secret => 5

/-- Whether an obstacle is met behind the warning. -/
def Obstacle.isLate (obstacle : Obstacle) : Bool :=
  obstacle = .surrogate || obstacle = .secret

theorem Obstacle.rank_inj {obstacle other : Obstacle} (h : obstacle.rank = other.rank) :
    obstacle = other := by
  revert h
  cases obstacle <;> cases other <;> decide

theorem Payload.codes?_eq_none {payload : Payload} (htext : ∀ s, payload ≠ .text s)
    (hpoints : ∀ s, payload ≠ .json (.points s)) : payload.codes? = none := by
  cases payload with
  | json value =>
    cases value with
    | string s => exact absurd rfl (htext s)
    | points s => exact absurd rfl (hpoints s)
    | _ => rfl
  | _ => rfl

namespace PlainSigning

variable (plain : PlainSigning)

def signer : Signer :=
  ⟨plain.secret, .json (.ofCodes plain.base), plain.timestampHeader, plain.signHeader, [], []⟩

def signing : Signing :=
  ⟨plain.signer, plain.clock, .ofCodes plain.url, plain.body, plain.time.elim .null .number⟩

/-- The time that is signed in milliseconds: the one given, or else the clock's. -/
def milliseconds : Except Fault Int :=
  plain.time.elim plain.clock.read.1.milliseconds .ok

def path : List Nat :=
  match plain.url, plain.base with
  | none, _ => Text.points "None".toList
  | some url, none => url
  | some url, some base => Text.eraseFirst base url

/-- What is to be signed: the numeral of the time, the path and the text of the body. -/
def Writes (s : List Nat) : Prop :=
  ∃ n text codes, plain.milliseconds = .ok n ∧ plain.body.bodyText = .ok text ∧
    text.codes? = some codes ∧
    s = Text.points (Text.Decimal.numeral n).toList ++ plain.path ++ codes

/-- How an obstacle refuses a signing if it stands in the way. -/
inductive Meets : Obstacle → Fault → Prop
  /-- The body is none of the kinds that have a text. -/
  | kind (habsent : plain.body ≠ .absent) (htext : plain.body.codes? = none)
    (hbytes : ∀ b, plain.body ≠ .bytes b) (hbuffer : ∀ b, plain.body ≠ .buffer b) :
    Meets .body (.unsignableBody plain.body.kind)
  /-- The body consists of bytes that are those of no text. -/
  | malformed {b : List UInt8} {defect : Text.Utf8.Malformed}
    (hbody : plain.body = .bytes b ∨ plain.body = .buffer b)
    (hnone : ∀ s, b ≠ Text.Utf8.encode s) (hdefect : Text.Utf8.decode b = .error defect) :
    Meets .body (.malformedText defect)
  | broken {fault : Fault} (htime : plain.time = none)
    (hread : plain.clock.read.1 = .failed fault) : Meets .clock fault
  | undefined (htime : plain.time = none) (hread : plain.clock.read.1 = .double .nan) :
    Meets .clock .undefinedTime
  /-- The clock reads a number that is infinite in milliseconds. -/
  | infinite {x : Number.Binary64} {negative : Bool} (htime : plain.time = none)
    (hread : plain.clock.read.1 = .double x) (hproduct : x.times 1000 = .infinite negative) :
    Meets .clock .infiniteTime
  | long {n : Int} (htime : plain.milliseconds = .ok n)
    (hlong : Text.Decimal.maxDigits < (Text.Decimal.digits n.natAbs).length) :
    Meets .numeral .longNumeral
  | missing {base : List Nat} (hurl : plain.url = none) (hbase : plain.base = some base)
    (hnonempty : base ≠ []) : Meets .address (.unstrippable "NoneType")
  | surrogate {s : Text.Irregular} (h : plain.Writes s.codes) :
    Meets .surrogate (.surrogates s.refusal)
  | irregularSecret {s : Text.Irregular} (h : plain.secret = .json (.points s)) :
    Meets .secret (.surrogates s.refusal)
  /-- The secret is a value of a foreign kind that fails to say what its bytes are. -/
  | brokenSecret {value : ForeignValue} {message : List Nat} (h : plain.secret = .foreign value)
    (hbytes : value.bytes = .error message) : Meets .secret (.brokenSecret message)
  /-- The secret is neither a string nor bytes and does not say what its bytes are. -/
  | noKey (htext : plain.secret.codes? = none) (hbytes : ∀ b, plain.secret ≠ .bytes b)
    (hforeign : ∀ value, plain.secret ≠ .foreign value) :
    Meets .secret (.unusableSecret plain.secret.fullKind)

structure MeetsFirst (obstacle : Obstacle) (fault : Fault) : Prop where
  meets : plain.Meets obstacle fault
  first : ∀ earlier : Obstacle, earlier.rank < obstacle.rank → ∀ fault, ¬ plain.Meets earlier fault

variable {plain : PlainSigning}

/-! ### One obstacle -/


theorem ne_encode_of_decode {b : List UInt8} {defect : Text.Utf8.Malformed}
    (h : Text.Utf8.decode b = .error defect) (s : String) : b ≠ Text.Utf8.encode s := fun hb => by
  rw [(Text.Utf8.decode_eq_ok_iff b s).mpr hb] at h
  cases h

theorem meets_body_iff {fault : Fault} :
    plain.Meets .body fault ↔ plain.body.bodyText = .error fault := by
  constructor
  · intro h
    cases h with
    | kind habsent htext hbytes hbuffer =>
      rw [Payload.bodyText.eq_def]
      split
      · exact absurd ‹_› habsent
      · rw [‹plain.body = _›] at htext
        cases htext
      · rw [‹plain.body = _›] at htext
        cases htext
      · exact absurd ‹_› (hbytes _)
      · exact absurd ‹_› (hbuffer _)
      · rfl
    | malformed hbody _ hdefect =>
      rcases hbody with hbody | hbody
      · rw [hbody, Payload.bodyText, hdefect]
        rfl
      · rw [hbody, Payload.bodyText, hdefect]
        rfl
  · intro h
    have hmalformed : ∀ b, plain.body = .bytes b ∨ plain.body = .buffer b →
        Json.string <$> (Text.Utf8.decode b).mapError Fault.malformedText = .error fault →
          plain.Meets .body fault := by
      intro b hbody h
      cases hdefect : Text.Utf8.decode b with
      | ok s =>
        rw [hdefect] at h
        cases h
      | error defect =>
        rw [hdefect] at h
        rw [← Except.error.inj h]
        exact .malformed hbody (ne_encode_of_decode hdefect) hdefect
    rw [Payload.bodyText.eq_def] at h
    split at h
    · cases h
    · cases h
    · cases h
    · exact hmalformed _ (.inl ‹_›) h
    · exact hmalformed _ (.inr ‹_›) h
    · rename_i habsent htext hpoints hbytes hbuffer
      rw [← Except.error.inj h]
      exact .kind habsent (Payload.codes?_eq_none htext hpoints) hbytes hbuffer

theorem times_eq_nan_iff {x : Number.Binary64} {factor : Nat} :
    x.times factor = .nan ↔ x = .nan := by
  cases x with
  | nan => exact iff_of_true rfl rfl
  | infinite negative => exact iff_of_false (fun h => by cases h) fun h => by cases h
  | finite value =>
    refine iff_of_false (fun h => ?_) fun h => by cases h
    rw [Number.Binary64.times, Number.nearest] at h
    split at h
    · cases h
    · dsimp only at h
      split at h
      · cases h
      · cases h

theorem milliseconds_of_none (h : plain.time = none) :
    plain.milliseconds = plain.clock.read.1.milliseconds := by
  rw [milliseconds, h]
  rfl

theorem meets_clock_iff {fault : Fault} :
    plain.Meets .clock fault ↔ plain.milliseconds = .error fault := by
  constructor
  · intro h
    cases h with
    | broken htime hread =>
      rw [milliseconds_of_none htime, hread]
      rfl
    | undefined htime hread =>
      rw [milliseconds_of_none htime, hread]
      rfl
    | infinite htime hread hproduct =>
      rw [milliseconds_of_none htime, hread, Reading.milliseconds, hproduct]
  · intro h
    cases htime : plain.time with
    | some n =>
      rw [milliseconds, htime] at h
      cases h
    | none =>
      rw [milliseconds_of_none htime] at h
      cases hread : plain.clock.read.1 with
      | seconds n =>
        rw [hread] at h
        cases h
      | failed fault' =>
        rw [hread] at h
        rw [← Except.error.inj h]
        exact .broken htime hread
      | double x =>
        rw [hread, Reading.milliseconds] at h
        split at h
        · rename_i hproduct
          rw [← Except.error.inj h]
          exact .undefined htime (by rw [hread, times_eq_nan_iff.mp hproduct])
        · rename_i hproduct
          rw [← Except.error.inj h]
          exact .infinite htime hread hproduct
        · cases h

theorem meets_numeral_iff {fault : Fault} :
    plain.Meets .numeral fault ↔
      ∃ n, plain.milliseconds = .ok n ∧ Log.numeral n = .error fault := by
  constructor
  · intro h
    cases h with
    | @long n htime hlong =>
      have hlong : Text.Decimal.isLong n = true := decide_eq_true hlong
      exact ⟨n, htime, by rw [Log.numeral, Text.Decimal.numeral?, hlong]; rfl⟩
  · rintro ⟨n, htime, hnumeral⟩
    rw [Log.numeral, Text.Decimal.numeral?] at hnumeral
    by_cases hlong : Text.Decimal.isLong n = true
    · rw [if_pos hlong] at hnumeral
      rw [← Except.error.inj hnumeral]
      exact .long htime (of_decide_eq_true hlong)
    · rw [if_neg hlong] at hnumeral
      cases hnumeral

theorem meets_address_iff {fault : Fault} :
    plain.Meets .address fault ↔
      stripBase? (.ofCodes plain.url) (.json (.ofCodes plain.base)) = .error fault := by
  constructor
  · intro h
    cases h with
    | @missing base hurl hbase hnonempty =>
      have hempty : (Payload.json (.ofPoints base)).isEmpty = false := by
        rw [Payload.isEmpty_of_codes? (Payload.codes?_ofPoints base)]
        exact List.isEmpty_eq_false_iff.mpr hnonempty
      rw [hurl, hbase, Json.ofCodes, Json.ofCodes, stripBase?, if_neg (Bool.eq_false_iff.mp hempty)]
      rfl
  · intro h
    cases hbase : plain.base with
    | none =>
      rw [hbase] at h
      cases h
    | some base =>
      have hcodes := Payload.codes?_ofPoints base
      rw [hbase] at h
      cases hurl : plain.url with
      | some url =>
        rw [hurl, Json.ofCodes, Json.ofCodes,
          stripBase?_of_codes? (Json.codes?_ofPoints url) hcodes] at h
        cases h
      | none =>
        rw [hurl, Json.ofCodes, Json.ofCodes, stripBase?, Payload.isEmpty_of_codes? hcodes] at h
        split at h
        · cases h
        · rename_i hempty
          rw [List.isEmpty_iff] at hempty
          rw [← Except.error.inj h]
          exact .missing hurl hbase hempty

theorem Writes.unique {s t : List Nat} (h : plain.Writes s) (h' : plain.Writes t) : s = t := by
  obtain ⟨n, text, codes, htime, htext, hcodes, rfl⟩ := h
  obtain ⟨m, other, _, htime', htext', hcodes', rfl⟩ := h'
  obtain rfl : n = m := Except.ok.inj (htime.symm.trans htime')
  obtain rfl : text = other := Except.ok.inj (htext.symm.trans htext')
  rw [Option.some.inj (hcodes.symm.trans hcodes')]

/-- A surrogate is found when what is to be signed is written. -/
theorem Writes.meets_iff {s : List Nat} (h : plain.Writes s) {fault : Fault} :
    plain.Meets .surrogate fault ↔
      (Text.Utf8.encodePoints s).mapError .surrogates = .error fault := by
  constructor
  · intro hmeets
    cases hmeets with
    | surrogate hwrites =>
      rw [h.unique hwrites, Text.Utf8.encodePoints_codes]
      rfl
  · intro hrefused
    cases hall : s.all Text.isCharacter with
    | true =>
      rw [Text.Utf8.encodePoints_of_all hall] at hrefused
      cases hrefused
    | false =>
      have hcodes := Text.Utf8.encodePoints_codes ⟨s, hall⟩
      rw [show Text.Irregular.codes ⟨s, hall⟩ = s from rfl] at hcodes
      rw [hcodes] at hrefused
      rw [← Except.error.inj hrefused]
      exact .surrogate h

theorem meets_secret_iff {fault : Fault} :
    plain.Meets .secret fault ↔ plain.secret.keyBytes = .error fault := by
  constructor
  · intro h
    cases h with
    | irregularSecret h =>
      rw [h]
      rfl
    | brokenSecret h hbytes =>
      rw [h, Payload.keyBytes, hbytes]
      rfl
    | noKey htext hbytes hforeign =>
      rw [Payload.keyBytes.eq_def]
      split
      · rw [‹plain.secret = _›] at htext
        cases htext
      · rw [‹plain.secret = _›] at htext
        cases htext
      · exact absurd ‹_› (hbytes _)
      · exact absurd ‹_› (hforeign _)
      · rfl
  · intro h
    rw [Payload.keyBytes.eq_def] at h
    split at h
    · cases h
    · rename_i hsecret
      rw [← Except.error.inj h]
      exact .irregularSecret hsecret
    · cases h
    · rename_i value hsecret
      cases hbytes : value.bytes with
      | ok bytes =>
        rw [hbytes] at h
        cases h
      | error message =>
        rw [hbytes] at h
        rw [← Except.error.inj h]
        exact .brokenSecret hsecret hbytes
    · rename_i htext hpoints hbytes hforeign
      rw [← Except.error.inj h]
      exact .noKey (Payload.codes?_eq_none htext hpoints) hbytes hforeign

theorem fault_unique {α : Type} {obstacle : Obstacle} {x : Except Fault α} {fault other : Fault}
    (hiff : ∀ {fault}, plain.Meets obstacle fault ↔ x = .error fault)
    (h : plain.Meets obstacle fault) (h' : plain.Meets obstacle other) : fault = other :=
  Except.error.inj ((hiff.mp h).symm.trans (hiff.mp h'))

theorem Meets.unique {obstacle : Obstacle} {fault other : Fault} (h : plain.Meets obstacle fault)
    (h' : plain.Meets obstacle other) : fault = other := by
  cases obstacle with
  | body => exact fault_unique meets_body_iff h h'
  | clock => exact fault_unique meets_clock_iff h h'
  | numeral =>
    cases h
    cases h'
    rfl
  | address => exact fault_unique meets_address_iff h h'
  | surrogate =>
    cases h with
    | surrogate hwrites => exact fault_unique hwrites.meets_iff (.surrogate hwrites) h'
  | secret => exact fault_unique meets_secret_iff h h'

theorem MeetsFirst.unique {obstacle obstacle' : Obstacle} {fault fault' : Fault}
    (h : plain.MeetsFirst obstacle fault) (h' : plain.MeetsFirst obstacle' fault') :
    obstacle = obstacle' ∧ fault = fault' := by
  have hrank : obstacle = obstacle' := by
    rcases Nat.lt_trichotomy obstacle.rank obstacle'.rank with hlt | heq | hgt
    · exact absurd h.meets (h'.first obstacle hlt fault)
    · exact Obstacle.rank_inj heq
    · exact absurd h'.meets (h.first obstacle' hgt fault')
  subst hrank
  exact ⟨rfl, h.meets.unique h'.meets⟩

/-- Whether nothing that is met before an obstacle stands in the way. -/
def FreeBefore (plain : PlainSigning) (obstacle : Obstacle) : Prop :=
  ∀ earlier : Obstacle, earlier.rank < obstacle.rank → ∀ fault, ¬ plain.Meets earlier fault

namespace FreeBefore

variable {obstacle : Obstacle}

theorem start : plain.FreeBefore .body :=
  fun _ h => absurd h (Nat.not_lt_zero _)

/-- Past an obstacle that does not stand in the way the next one is met. -/
theorem next (h : plain.FreeBefore obstacle) (hfree : ∀ fault, ¬ plain.Meets obstacle fault)
    {later : Obstacle} (hrank : later.rank = obstacle.rank + 1) : plain.FreeBefore later := by
  intro earlier hearlier
  rw [hrank] at hearlier
  rcases Nat.lt_or_eq_of_le (Nat.le_of_lt_succ hearlier) with hlt | heq
  · exact h earlier hlt
  · rw [Obstacle.rank_inj heq]
    exact hfree

theorem not_meets (h : plain.FreeBefore .secret) (hfree : ∀ fault, ¬ plain.Meets .secret fault) :
    ∀ obstacle fault, ¬ plain.Meets obstacle fault := by
  intro obstacle
  cases obstacle with
  | secret => exact hfree
  | _ => exact h _ (by decide)

end FreeBefore

/-! ### The whole signing -/

/-- The clock after the signing: it was read if no time is given and the body has a text. -/
def clockAfter (plain : PlainSigning) : Clock :=
  match plain.body.bodyText, plain.time with
  | .ok _, none => plain.clock.read.2
  | _, _ => plain.clock

theorem not_meets {α : Type} {obstacle : Obstacle} {x : Except Fault α} {a : α}
    (hiff : ∀ {fault}, plain.Meets obstacle fault ↔ x = .error fault) (hx : x = .ok a)
    (fault : Fault) : ¬ plain.Meets obstacle fault := fun h => by
  rw [hiff.mp h] at hx
  cases hx

theorem time_eq (plain : PlainSigning) {text : Json} (hbody : plain.body.bodyText = .ok text) :
    plain.signer.time plain.clock plain.signing.time =
      (.number <$> plain.milliseconds, plain.clockAfter) := by
  rw [signing, milliseconds, clockAfter, hbody]
  cases plain.time with
  | none => rfl
  | some n => rfl

theorem shown_number (time : Except Fault Int) :
    (Json.number <$> time) >>= Json.shown =
      (fun s : String => Text.points s.toList) <$> (time >>= Log.numeral) := by
  cases time with
  | error fault => rfl
  | ok n => exact Json.shown_number n

/-- What is left of an address is what is signed of it, and the base can be looked for in the
address. -/
theorem of_path {path : Json} (h : plain.signer.path plain.signing.url = .ok path) :
    path.shown = .ok plain.path ∧
      ∃ isThere, plain.signer.matchesBase plain.signing.url = .ok isThere := by
  change stripBase? (.ofCodes plain.url) (.json (.ofCodes plain.base)) = .ok path at h
  change _ ∧ ∃ isThere, (if (Payload.json (.ofCodes plain.base)).isEmpty then Except.ok true
    else findBase (.ofCodes plain.url) (.json (.ofCodes plain.base))) = .ok isThere
  rw [PlainSigning.path]
  cases hbase : plain.base with
  | none =>
    rw [hbase] at h
    rw [← Except.ok.inj h]
    refine ⟨?_, true, rfl⟩
    cases plain.url with
    | none => rfl
    | some url => exact Json.shown_of_codes? (Json.codes?_ofPoints url)
  | some base =>
    have hcodes := Payload.codes?_ofPoints base
    rw [hbase] at h
    cases hurl : plain.url with
    | none =>
      rw [hurl, Json.ofCodes, Json.ofCodes, stripBase?] at h
      split at h
      · rename_i hempty
        rw [← Except.ok.inj h]
        exact ⟨rfl, true, if_pos hempty⟩
      · cases h
    | some url =>
      have haddress := Json.codes?_ofPoints url
      rw [hurl, Json.ofCodes, Json.ofCodes, stripBase?_of_codes? haddress hcodes] at h
      rw [← Except.ok.inj h]
      refine ⟨Json.shown_of_codes? (Json.codes?_ofPoints _), ?_⟩
      split
      · exact ⟨true, rfl⟩
      · exact ⟨_, findBase_of_codes? haddress hcodes⟩

/-- The signature needs what is signed in UTF-8, and then the bytes of the secret. -/
theorem signature_eq {path text : Json} {shown codes : List Nat} (hpath : path.shown = .ok shown)
    (hcodes : text.codes? = some codes) (timestamp : List Nat) :
    plain.signer.signature timestamp path text =
      Signature.ofPoints plain.secret timestamp shown codes := by
  change (do Signature.ofPoints plain.secret timestamp (← path.shown) (← text.shown)) = _
  rw [hpath, Json.shown_of_codes? hcodes]
  rfl

/-- What is written is signed, unless one of the late obstacles is met first. -/
theorem ofPoints_cases (hfree : plain.FreeBefore .surrogate) {timestamp codes : List Nat}
    (hwrites : plain.Writes (timestamp ++ plain.path ++ codes)) :
    (∃ sign, Signature.ofPoints plain.secret timestamp plain.path codes = .ok sign ∧
      ∀ obstacle fault, ¬ plain.Meets obstacle fault) ∨
    ∃ obstacle fault, Signature.ofPoints plain.secret timestamp plain.path codes = .error fault ∧
      obstacle.isLate = true ∧ plain.MeetsFirst obstacle fault := by
  cases hencode : Text.Utf8.encodePoints (timestamp ++ plain.path ++ codes) with
  | error refusal =>
    have hrefused : plain.Meets .surrogate (.surrogates refusal) :=
      hwrites.meets_iff.mpr (by rw [hencode]; rfl)
    exact .inr ⟨_, _, Signature.ofPoints_of_error hencode _, rfl, hrefused, hfree⟩
  | ok message =>
    have hfree : plain.FreeBefore .secret :=
      hfree.next (not_meets hwrites.meets_iff (by rw [hencode]; rfl)) rfl
    rw [Signature.ofPoints_of_ok hencode]
    cases hkey : plain.secret.keyBytes with
    | error fault => exact .inr ⟨_, fault, rfl, rfl, meets_secret_iff.mpr hkey, hfree⟩
    | ok key => exact .inl ⟨_, rfl, hfree.not_meets (not_meets meets_secret_iff hkey)⟩

/-- How a signing ends: refused by the first obstacle, having logged nothing unless that is late, or
having met none. -/
inductive Ends (plain : PlainSigning) : Run SignedHeaders → Prop
  | refused {obstacle : Obstacle} {fault : Fault} (h : plain.MeetsFirst obstacle fault) :
    Ends plain ⟨.error fault,
      if obstacle.isLate then plain.signer.warning plain.signing.url else [], plain.clockAfter⟩
  | succeeds {signed : SignedHeaders} {events : List Event}
    (h : ∀ obstacle fault, ¬ plain.Meets obstacle fault) :
    Ends plain ⟨.ok signed, events, plain.clockAfter⟩

/-- A signing is refused by the first obstacle, or succeeds. -/
theorem ends_run (plain : PlainSigning) : plain.Ends plain.signing.run := by
  have hcheck : (plain.signer.check .sign >>= fun () => plain.body.bodyText) =
    plain.body.bodyText := rfl
  change plain.Ends
    (plain.signer.sign plain.clock plain.signing.url plain.body plain.signing.time)
  rw [Signer.sign, hcheck]
  -- stage by stage: each fails with its own obstacle, or is known not to meet it
  have hfree : plain.FreeBefore .body := .start
  cases hbody : plain.body.bodyText with
  | error fault =>
    have hclock : plain.clock = plain.clockAfter := by
      rw [clockAfter, hbody]
    dsimp only
    rw [hclock]
    exact .refused ⟨meets_body_iff.mpr hbody, hfree⟩
  | ok text =>
    have hfree : plain.FreeBefore .clock := hfree.next (not_meets meets_body_iff hbody) rfl
    rw [time_eq plain hbody]
    dsimp only
    rw [shown_number]
    cases htime : plain.milliseconds with
    | error fault => exact .refused ⟨meets_clock_iff.mpr htime, hfree⟩
    | ok n =>
      have hfree : plain.FreeBefore .numeral := hfree.next (not_meets meets_clock_iff htime) rfl
      have hbind : (Except.ok n >>= Log.numeral) = Log.numeral n := rfl
      rw [hbind]
      cases hnumeral : Log.numeral n with
      | error fault => exact .refused ⟨meets_numeral_iff.mpr ⟨n, htime, hnumeral⟩, hfree⟩
      | ok timestamp =>
        have hfree : plain.FreeBefore .address := hfree.next (fun fault h => by
          obtain ⟨m, hm, hlong⟩ := meets_numeral_iff.mp h
          rw [← Except.ok.inj (htime.symm.trans hm), hnumeral] at hlong
          cases hlong) rfl
        have hshow : (fun s : String => Text.points s.toList) <$>
          (.ok timestamp : Except Fault String) = .ok (Text.points timestamp.toList) := rfl
        rw [hshow]
        dsimp only
        have haddress : plain.signer.path plain.signing.url =
          stripBase? (.ofCodes plain.url) (.json (.ofCodes plain.base)) := rfl
        cases hpath : plain.signer.path plain.signing.url with
        | error fault =>
          exact .refused ⟨meets_address_iff.mpr (haddress.symm.trans hpath), hfree⟩
        | ok path =>
          have hfree : plain.FreeBefore .surrogate :=
            hfree.next (not_meets meets_address_iff (haddress.symm.trans hpath)) rfl
          obtain ⟨hshown, isThere, hsearch⟩ := of_path hpath
          obtain ⟨codes, hcodes⟩ := Payload.codes?_of_bodyText hbody
          have hwrites : plain.Writes (Text.points timestamp.toList ++ plain.path ++ codes) :=
            ⟨n, text, codes, htime, hbody, hcodes, by rw [numeral_of_log hnumeral]⟩
          rw [hsearch]
          dsimp only
          rw [signature_eq hshown hcodes]
          rcases ofPoints_cases hfree hwrites with
            ⟨sign, hsign, hnone⟩ | ⟨obstacle, fault, hsign, hlate, hfirst⟩
          · rw [hsign]
            exact .succeeds hnone
          · rw [hsign]
            have hrefused := Ends.refused hfirst
            rwa [if_pos hlate] at hrefused

namespace Ends

variable {run : Run SignedHeaders}

theorem error_iff (h : plain.Ends run) (fault : Fault) :
    run.result = .error fault ↔ ∃ obstacle, plain.MeetsFirst obstacle fault := by
  cases h with
  | refused h =>
    constructor
    · intro hresult
      exact ⟨_, Except.error.inj hresult ▸ h⟩
    · rintro ⟨_, h'⟩
      rw [(h.unique h').2]
  | succeeds h =>
    refine iff_of_false (fun hresult => by cases hresult) ?_
    rintro ⟨obstacle, h'⟩
    exact h obstacle fault h'.meets

theorem events_eq (h : plain.Ends run) {obstacle : Obstacle} {fault : Fault}
    (hfirst : plain.MeetsFirst obstacle fault) :
    run.events =
      if obstacle.isLate then plain.signer.warning plain.signing.url else [] := by
  cases h with
  | refused h => rw [(h.unique hfirst).1]
  | succeeds h => exact absurd hfirst.meets (h obstacle fault)

theorem clock_eq (h : plain.Ends run) : run.clock = plain.clockAfter := by
  cases h with
  | refused => rfl
  | succeeds => rfl

end Ends

theorem clockAfter_of_body (htime : plain.time = none)
    (hbody : ∀ fault, ¬ plain.Meets .body fault) : plain.clockAfter = plain.clock.read.2 := by
  rw [clockAfter, htime]
  cases htext : plain.body.bodyText with
  | error fault => exact absurd (meets_body_iff.mpr htext) (hbody fault)
  | ok text => rfl

theorem clockAfter_of_time (h : plain.time ≠ none ∨ ∃ fault, plain.Meets .body fault) :
    plain.clockAfter = plain.clock := by
  rw [clockAfter.eq_def]
  split
  · rename_i htext htime
    rcases h with h | ⟨fault, h⟩
    · exact absurd htime h
    · rw [meets_body_iff.mp h] at htext
      cases htext
  · rfl

end PlainSigning

end SignedHttp
