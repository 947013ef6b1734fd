import SignedHttp.Proofs.Signing.Obstacles
import SignedHttp.Proofs.Text.Occurrence

/-!
# What is signed of an address

The base is taken off an address where it occurs first, and the path that is signed is what stands
around it. An address that does not hold the base is signed as it is, and so is any address if there
is no base or an empty one (`Strips`). This says for every address and base what is left and how a
signing ends (`exists_strips`, `Strips.unique`).

Stripping and looking for the base are two searches, and signing does both. They agree, since both
find what `Strips` says (`Strips.stripBase?_eq`, `Strips.matchesBase_eq`); so a signing reports the
path that was signed along with the outcome that belongs to it. An outcome can also be told from the
path: a base that was taken off makes the address shorter (`Strips.outcome_eq_prefixMismatch_iff`).

Key definitions: `Strips`, `PlainSigning.Gives`, `PlainSigning.Reports`.
Key theorems: `Strips.unique`, `PlainSigning.result_eq_ok_iff`, `PlainSigning.reports_stripped`.
-/

namespace SignedHttp

/-- What is left of an address without a base, and how a signing of it ends. -/
inductive Strips (url : String) : Option String → String → Outcome → Prop
  | missing : Strips url none url .signed
  | empty : Strips url (some "") url .signed
  /-- The first occurrence of the base is taken out of what stands around it. -/
  | first {base : String} {before after : List Char} (hbase : base ≠ "")
    (hfirst : Text.FirstAt base.toList url.toList before after) :
    Strips url (some base) (.ofList (before ++ after)) .signed
  | absent {base : String} (hbase : base ≠ "")
    (habsent : ∀ before after, url.toList ≠ before ++ base.toList ++ after) :
    Strips url (some base) url .prefixMismatch

theorem exists_strips (url : String) (base : Option String) :
    ∃ path outcome, Strips url base path outcome := by
  cases base with
  | none => exact ⟨url, .signed, .missing⟩
  | some base =>
    by_cases hbase : base = ""
    · subst hbase
      exact ⟨url, .signed, .empty⟩
    · by_cases hoccurs : base.toList <:+: url.toList
      · obtain ⟨before, after, hfirst, -⟩ := Text.exists_firstAt hoccurs
        exact ⟨_, .signed, .first hbase hfirst⟩
      · refine ⟨url, .prefixMismatch, .absent hbase fun before after hsplit => hoccurs ?_⟩
        exact ⟨before, after, hsplit.symm⟩

namespace Strips

variable {url path : String} {base : Option String} {outcome : Outcome}

theorem unique (h : Strips url base path outcome) {other : String} {end' : Outcome}
    (h' : Strips url base other end') : other = path ∧ end' = outcome := by
  cases h with
  | missing =>
    cases h'
    exact ⟨rfl, rfl⟩
  | empty =>
    cases h' with
    | empty => exact ⟨rfl, rfl⟩
    | first hbase _ => exact absurd rfl hbase
    | absent hbase _ => exact absurd rfl hbase
  | first hbase hfirst =>
    cases h' with
    | empty => exact absurd rfl hbase
    | first _ hfirst' =>
      obtain ⟨rfl, rfl⟩ := hfirst.unique hfirst'
      exact ⟨rfl, rfl⟩
    | absent _ habsent => exact absurd hfirst.split (habsent _ _)
  | absent hbase habsent =>
    cases h' with
    | empty => exact absurd rfl hbase
    | first _ hfirst => exact absurd hfirst.split (habsent _ _)
    | absent => exact ⟨rfl, rfl⟩

theorem occursIn_eq_false {base : String}
    (h : ∀ before after, url.toList ≠ before ++ base.toList ++ after) :
    Text.occursIn base.toList url.toList = false := by
  rw [← Bool.not_eq_true, Text.occursIn_iff]
  rintro ⟨before, after, hsplit⟩
  exact h before after hsplit.symm

theorem stripBase?_eq (h : Strips url base path outcome) :
    stripBase? (.string url) (.json (.ofOption base)) = .ok (.string path) := by
  cases h with
  | missing => rfl
  | empty => rfl
  | first _ hfirst =>
    change stripBase? (.string url) (.text _) = _
    rw [stripBase?_text, stripBase, hfirst.eraseFirst_eq]
  | absent _ habsent =>
    change stripBase? (.string url) (.text _) = _
    rw [stripBase?_text, stripBase, Text.eraseFirst_of_not_occursIn _ (occursIn_eq_false habsent),
      String.ofList_toList]

theorem findBase_text {base : String} {isThere : Bool}
    (h : Text.occursIn base.toList url.toList = isThere) :
    findBase (.string url) (.text base) = .ok isThere := by
  rw [findBase_of_codes? rfl rfl, Text.occursIn_points, h]

theorem matchesBase_eq (h : Strips url base path outcome) {signer : Signer}
    (hbase : signer.base = .json (.ofOption base)) (hcheck : signer.check .matchBase = .ok ())
    (hrequire : signer.require .base = .ok ()) :
    signer.matchesBase (.string url) = .ok (outcome = .signed) := by
  have hempty : ∀ {text : String}, text ≠ "" → ¬ (Payload.text text).isEmpty = true := by
    intro text hne htext
    exact hne (String.toList_eq_nil_iff.mp (List.isEmpty_iff.mp htext))
  rw [Signer.matchesBase, hcheck, hrequire, hbase]
  cases h with
  | missing => rfl
  | empty => rfl
  | first hne hfirst =>
    have hoccurs := (Text.occursIn_iff _ _).mpr hfirst.isInfix
    change (if (Payload.text _).isEmpty then Except.ok true else findBase _ (.text _)) = _
    rw [if_neg (hempty hne), findBase_text hoccurs]
    rfl
  | absent hne habsent =>
    change (if (Payload.text _).isEmpty then Except.ok true else findBase _ (.text _)) = _
    rw [if_neg (hempty hne), findBase_text (occursIn_eq_false habsent)]
    rfl

/-- What a signing counts is what looking for the base tells. -/
theorem outcome_eq (h : Strips url base path outcome) {signer : Signer}
    (hmatched : signer.matchesBase (.string url) = .ok (outcome = .signed)) :
    signer.outcome (.string url) = outcome := by
  have hreaches : signer.reaches (.string url) = decide (outcome = .signed) := by
    obtain ⟨_, -, hmatched⟩ := exists_of_bind_eq_ok hmatched
    obtain ⟨_, -, hmatched⟩ := exists_of_bind_eq_ok hmatched
    rw [Signer.reaches]
    split at hmatched
    · rename_i hempty
      rw [hempty, Bool.true_or]
      exact Except.ok.inj hmatched
    · rename_i hempty
      rw [Bool.eq_false_iff.mpr hempty, hmatched, Bool.false_or]
  rw [Signer.outcome, hreaches]
  cases h <;> rfl

/-- A base that is not empty was not found exactly if the address is as long as before. -/
theorem outcome_eq_prefixMismatch_iff (h : Strips url base path outcome) :
    outcome = .prefixMismatch ↔
      (∃ text, base = some text ∧ text ≠ "") ∧ path.length = url.length := by
  cases h with
  | missing => simp
  | empty => simp
  | @first text before after hne hfirst =>
    have hpositive : text.toList.length ≠ 0 := fun hzero =>
      hne (String.toList_eq_nil_iff.mp (List.eq_nil_of_length_eq_zero hzero))
    have hlength := congrArg List.length hfirst.split
    simp only [List.length_append, String.length_toList] at hlength hpositive
    refine iff_of_false (by decide) fun hsame => ?_
    rw [String.length_ofList, List.length_append] at hsame
    omega
  | absent hne _ => simp [hne]

end Strips

namespace PlainSigning

variable {plain : PlainSigning}

def withTexts (plain : PlainSigning) (base : Option String) (url : String) : PlainSigning :=
  { plain with
    base := base.map fun base => Text.points base.toList
    url := some (Text.points url.toList) }

theorem base_withTexts (plain : PlainSigning) (base : Option String) (url : String) :
    (plain.withTexts base url).signer.base = .json (.ofOption base) := by
  cases base with
  | none => rfl
  | some base => exact congrArg Payload.json (Json.ofPoints_points base)

theorem url_withTexts (plain : PlainSigning) (base : Option String) (url : String) :
    (plain.withTexts base url).signing.url = .string url :=
  Json.ofPoints_points url

/-- What a signing of a path gives if nothing stands in its way: the time in milliseconds, the
signature of time, path and body under the key, and the path. -/
def Gives (plain : PlainSigning) (path : String) (signed : SignedHeaders) : Prop :=
  ∃ key text n, plain.secret.keyBytes = .ok key ∧ plain.body.bodyText = .ok (.string text) ∧
    plain.milliseconds = .ok n ∧ Text.Decimal.isLong n = false ∧
    signed = ⟨Text.Decimal.numeral n,
      Signature.ofKey key (Signature.message (Text.Decimal.numeral n) path text),
      .string path, plain.timestampHeader, plain.signHeader⟩

theorem numeral_eq_ok_iff {n : Int} {s : String} :
    Log.numeral n = .ok s ↔ Text.Decimal.isLong n = false ∧ s = Text.Decimal.numeral n := by
  rw [Log.numeral, Text.Decimal.numeral?]
  cases Text.Decimal.isLong n with
  | true => simp
  | false => simp [eq_comm]

theorem shown_time {text : Json} (hbody : plain.body.bodyText = .ok text) :
    (plain.signer.time plain.clock plain.signing.time).1 >>= Json.shown =
      (fun s : String => Text.points s.toList) <$> (plain.milliseconds >>= Log.numeral) := by
  rw [time_eq plain hbody, shown_number]

theorem gives_of_stages {path : String}
    (hsigned : plain.signer.path plain.signing.url = .ok (.string path))
    (stages : Signer.Stages plain.signer plain.clock plain.signing.url plain.body
      plain.signing.time) : plain.Gives path stages.signed := by
  obtain ⟨key, shown, codes, message, hkey, hshown, hcodes, hmessage, hsign⟩ :=
    stages.exists_ofKey
  have hstages : stages.path = .string path :=
    Except.ok.inj (stages.path_eq.symm.trans hsigned)
  rw [hstages] at hshown
  obtain rfl : Text.points path.toList = shown := Except.ok.inj hshown
  obtain ⟨s, hs, htimestamp⟩ :=
    exists_of_map_eq_ok ((shown_time stages.text_eq).symm.trans stages.codes_eq)
  obtain ⟨n, hn, hnumeral⟩ := exists_of_bind_eq_ok hs
  obtain ⟨hshort, rfl⟩ := numeral_eq_ok_iff.mp hnumeral
  -- what is signed could be encoded, and so the text of the body has no surrogates
  have hall := (Text.Utf8.encodePoints_eq_ok_iff _).mp ⟨message, hmessage⟩
  rw [List.all_append, Bool.and_eq_true] at hall
  obtain ⟨text, htext⟩ : ∃ text, stages.text = .string text := by
    obtain ⟨s, hs⟩ := Payload.codes?_of_bodyText stages.text_eq
    obtain rfl : s = codes := Except.ok.inj ((Json.shown_of_codes? hs).symm.trans hcodes)
    exact ⟨_, by rw [← Json.ofPoints_of_codes? hs, Json.ofPoints_of_all hall.2]⟩
  rw [htext] at hcodes
  obtain rfl : Text.points text.toList = codes := Except.ok.inj hcodes
  rw [← htimestamp, Signature.encodePoints_texts] at hmessage
  have hstamp : stages.timestamp = Text.Decimal.numeral n := by
    rw [Signer.Stages.timestamp, ← htimestamp, Text.ofPoints_points]
  refine ⟨key, text, n, hkey, htext ▸ stages.text_eq, hn, hshort, ?_⟩
  rw [Signer.Stages.signed, hstamp, hsign, hstages, Except.ok.inj hmessage]
  rfl

theorem Gives.result_eq {path : String} {signed : SignedHeaders} (h : plain.Gives path signed)
    (hsigned : plain.signer.path plain.signing.url = .ok (.string path)) :
    plain.signing.run.result = .ok signed := by
  obtain ⟨key, text, n, hkey, hbody, hn, hshort, rfl⟩ := h
  have hnumeral : plain.milliseconds >>= Log.numeral = .ok (Text.Decimal.numeral n) := by
    rw [hn]
    exact numeral_eq_ok_iff.mpr ⟨hshort, rfl⟩
  have hsign : plain.signer.signature (Text.points (Text.Decimal.numeral n).toList)
      (.string path) (.string text) = .ok
        (Signature.ofKey key (Signature.message (Text.Decimal.numeral n) path text)) := by
    rw [signature_eq rfl rfl, Signature.ofPoints_of_ok (Signature.encodePoints_texts _ path text),
      hkey]
    rfl
  let stages : Signer.Stages plain.signer plain.clock plain.signing.url plain.body
      plain.signing.time :=
    ⟨.string text, Text.points (Text.Decimal.numeral n).toList, _, _, hbody,
      (shown_time hbody).trans (by rw [hnumeral]; rfl), hsigned, (of_path hsigned).2, hsign⟩
  have hresult := Signer.sign_of_stages rfl rfl stages
  rw [Signer.Stages.signed, Signer.Stages.timestamp, Text.ofPoints_points] at hresult
  exact hresult

/-- A signing of texts for base and address gives signed headers exactly if secret, body and time
can be used, whatever the texts are. -/
theorem result_eq_ok_iff {url path : String} (hurl : plain.signing.url = .string url)
    (hpath : stripBase? (.string url) plain.signer.base = .ok (.string path))
    (signed : SignedHeaders) :
    plain.signing.run.result = .ok signed ↔ plain.Gives path signed := by
  have hsigned : plain.signer.path plain.signing.url = .ok (.string path) := by
    rw [hurl]
    exact hpath
  constructor
  · intro h
    obtain ⟨⟨stages, rfl⟩, -, -⟩ := Signer.sign_ok rfl h
    exact gives_of_stages hsigned stages
  · intro h
    exact h.result_eq hsigned

/-- What stripping, looking for the base and signing say of an address, if this path is left of it
and a signing of it ends like this. -/
structure Reports (plain : PlainSigning) (base : Option String) (url path : String)
    (outcome : Outcome) : Prop where
  strips : Strips url base path outcome
  /-- Nothing else can be left of the address. -/
  unique : ∀ other end', Strips url base other end' → other = path ∧ end' = outcome
  stripped : stripBase? (.string url) (.json (.ofOption base)) = .ok (.string path)
  matched : plain.signer.matchesBase (.string url) = .ok (outcome = .signed)
  /-- The path tells an address that does not hold the base. -/
  mismatched : outcome = .prefixMismatch ↔
    (∃ text, base = some text ∧ text ≠ "") ∧ path.length = url.length
  /-- A signing gives the path exactly if secret, body and time can be used. -/
  gives : ∀ signed, plain.signing.run.result = .ok signed ↔ plain.Gives path signed
  counts : ∀ signed, plain.Gives path signed → outcomesOf plain.signing.run.events = [outcome]

/-- Of every address the first occurrence of the base is left out, and what is signed, reported and
counted agrees with that. An address that begins with the base loses that beginning. -/
theorem reports_stripped :
    (∀ (plain : PlainSigning) (base : Option String) (url : String), ∃ path outcome,
      (plain.withTexts base url).Reports base url path outcome) ∧
    ∀ base rest : String,
      stripBase? (.string (base ++ rest)) (.text base) = .ok (.string rest) := by
  refine ⟨fun plain base url => ?_, fun base rest => ?_⟩
  · obtain ⟨path, outcome, h⟩ := exists_strips url base
    have hbase := plain.base_withTexts base url
    have hmatched : (plain.withTexts base url).signer.matchesBase (.string url) =
        .ok (outcome = .signed) := h.matchesBase_eq hbase rfl rfl
    have hgives := result_eq_ok_iff (plain.url_withTexts base url) (hbase ▸ h.stripBase?_eq)
    refine ⟨path, outcome, h, fun other end' => h.unique, h.stripBase?_eq, hmatched,
      h.outcome_eq_prefixMismatch_iff, hgives, fun headers hheaders => ?_⟩
    obtain ⟨-, hcounted, -⟩ := Signer.sign_ok rfl ((hgives headers).mpr hheaders)
    have houtcome : (plain.withTexts base url).signer.outcome
        (plain.withTexts base url).signing.url = outcome := by
      rw [plain.url_withTexts base url]
      exact h.outcome_eq hmatched
    exact hcounted.trans (congrArg (fun end' => [end']) houtcome)
  · rw [stripBase?_text, stripBase, String.toList_append, Text.eraseFirst_append,
      String.ofList_toList]

/-- Of two places the first one counts, and a base that comes about by the stripping stays. -/
example : stripBase "/a/apipi/api" "/api" = "/api/api" := by decide +kernel

end PlainSigning

end SignedHttp
