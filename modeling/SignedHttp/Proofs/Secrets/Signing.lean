import SignedHttp.Hook
import SignedHttp.Proofs.Secrets.Fields
import SignedHttp.Proofs.Signing

/-!
# What a secret has to do with a signing

Two signers that differ in their secrets only do the same, as far as can be seen without the
signatures: they log and count the same, read the same from the clock, fail with the same fault, and
the signed headers that they give differ in the signature (`Signer.sign_withSecret`). The same
holds of what they add to headers that are alike (`Signer.apply_withSecret`), and of both hooks
(`Hook.attachMapped_withSecret`, `Hook.passListed_withSecret`). A secret is looked at in one place
only, where the signature is made, and there all that have bytes do as well as one another.

Signatures go into the field that has the name for them, or into that of the timestamp if both
names are the same (`Signer.signatureName`).

Key definitions: `Payload.SecretAlike`, `Run.Alike`, `Signer.withSecret`, `Signer.signatureName`,
`Signer.SignedAlike`.
Key theorems: `Signer.sign_withSecret`, `Signer.apply_withSecret`, `Hook.attachMapped_withSecret`,
`Hook.passListed_withSecret`.
-/

namespace SignedHttp

/-! ### Secrets -/

/-- Two values one of which may stand for the other where a secret is given: they are equal, or
none is empty and both have bytes, or lack them for the same reason. -/
def Payload.SecretAlike (a b : Payload) : Prop :=
  a = b ∨ (a.isEmpty = false ∧ b.isEmpty = false) ∧
    ResultAlike (fun _ _ => True) a.keyBytes b.keyBytes

theorem Payload.SecretAlike.isEmpty {a b : Payload} (h : a.SecretAlike b) :
    a.isEmpty = b.isEmpty := by
  rcases h with rfl | ⟨⟨ha, hb⟩, -⟩
  · rfl
  · rw [ha, hb]

/-- Signatures of the same under two secrets are signatures of one message, or there is none. -/
theorem Signature.ofPoints_alike {secret other : Payload} (h : secret.SecretAlike other)
    (timestamp path body : List Nat) :
    ResultAlike Alike (ofPoints secret timestamp path body)
      (ofPoints other timestamp path body) := by
  rcases h with rfl | ⟨-, hkey⟩
  · exact .refl .refl _
  · rw [ofPoints, ofPoints]
    refine (ResultAlike.refl (fun _ => rfl) _).bind fun message _ hmessage => ?_
    subst hmessage
    exact hkey.bind fun key otherKey _ => .ok (.ofKey key otherKey message)

/-! ### Signing -/

/-- Two runs that log and count the same and leave the clock at the same reading, with results that
are alike. -/
structure Run.Alike {α : Type} (R : α → α → Prop) (a b : Run α) : Prop where
  result : ResultAlike R a.result b.result
  events : a.events = b.events
  clock : a.clock = b.clock

structure SignedHeaders.Alike (a b : SignedHeaders) : Prop where
  sign : Signature.Alike a.sign b.sign
  rest : b = { a with sign := b.sign }

theorem SignedHeaders.Alike.fields {a b : SignedHeaders} (h : a.Alike b) :
    ResultAlike (fun _ _ => True) a.fields b.fields := by
  rw [h.rest, SignedHeaders.fields, SignedHeaders.fields]
  dsimp only
  split
  · exact .error _
  · split
    · exact .error _
    · exact .ok trivial

namespace Signer

variable (signer : Signer) (other : Payload)

def withSecret : Signer :=
  { signer with secret := other }

/-- Two signers that differ in the secret only. -/
structure Alike (a b : Signer) : Prop where
  secret : a.secret.SecretAlike b.secret
  rest : b = a.withSecret b.secret

/-- The name of the field that a signature goes into. -/
def signatureName : Payload :=
  if signer.timestampHeader.isSame signer.signHeader then signer.timestampHeader
  else signer.signHeader

/-- Signatures go into the field that is named for them, if both names are texts. -/
theorem signatureName_of_text {signer : Signer} {timestampName signName : String}
    (ht : signer.timestampHeader = .text timestampName) (hs : signer.signHeader = .text signName) :
    signer.signatureName = .text signName := by
  rw [signatureName, ht, hs, Payload.isSame, Json.isSame_string]
  split
  · rename_i h
    rw [of_decide_eq_true h]
  · rfl

structure SignedAlike (a b : SignedHeaders) : Prop extends SignedHeaders.Alike a b where
  timestampHeader : a.timestampHeader = signer.timestampHeader
  signHeader : a.signHeader = signer.signHeader

@[simp]
theorem check_withSecret (operation : Operation) :
    (signer.withSecret other).check operation = signer.check operation :=
  rfl

@[simp]
theorem time_withSecret (clock : Clock) (time : Json) :
    (signer.withSecret other).time clock time = signer.time clock time :=
  rfl

@[simp]
theorem path_withSecret (url : Json) : (signer.withSecret other).path url = signer.path url :=
  rfl

@[simp]
theorem matchesBase_withSecret (url : Json) :
    (signer.withSecret other).matchesBase url = signer.matchesBase url :=
  rfl

@[simp]
theorem outcome_withSecret (url : Json) :
    (signer.withSecret other).outcome url = signer.outcome url :=
  rfl

@[simp]
theorem warning_withSecret (url : Json) :
    (signer.withSecret other).warning url = signer.warning url :=
  rfl

@[simp]
theorem requireNames_withSecret :
    (signer.withSecret other).requireNames = signer.requireNames :=
  rfl

variable {signer other}

theorem signature_withSecret (h : signer.secret.SecretAlike other) (timestamp : List Nat)
    (path body : Json) :
    ResultAlike Signature.Alike (signer.signature timestamp path body)
      ((signer.withSecret other).signature timestamp path body) := by
  have hrequire : (signer.withSecret other).require .secret = signer.require .secret := rfl
  rw [signature, signature, hrequire]
  refine (ResultAlike.refl (fun _ => rfl) _).bind fun _ _ _ => ?_
  refine (ResultAlike.refl (fun _ => rfl) _).bind fun path _ hpath => ?_
  refine (ResultAlike.refl (fun _ => rfl) _).bind fun body _ hbody => ?_
  subst hpath hbody
  exact Signature.ofPoints_alike h timestamp path body

/-- Another secret changes the signature and nothing else. -/
theorem sign_withSecret (h : signer.secret.SecretAlike other) (clock : Clock) (url : Json)
    (body : Payload) (time : Json) :
    Run.Alike signer.SignedAlike (signer.sign clock url body time)
      ((signer.withSecret other).sign clock url body time) := by
  rw [sign, sign]
  simp only [check_withSecret, time_withSecret, path_withSecret, matchesBase_withSecret,
    outcome_withSecret, warning_withSecret, requireNames_withSecret]
  cases signer.check .sign >>= fun () => body.bodyText with
  | error fault => exact ⟨.error fault, rfl, rfl⟩
  | ok text =>
    dsimp only
    cases (signer.time clock time).1 >>= Json.shown with
    | error fault => exact ⟨.error fault, rfl, rfl⟩
    | ok timestamp =>
      dsimp only
      cases signer.path url with
      | error fault => exact ⟨.error fault, rfl, rfl⟩
      | ok path =>
        cases signer.matchesBase url with
        | error fault => exact ⟨.error fault, rfl, rfl⟩
        | ok isThere =>
          dsimp only
          have hsignature := signature_withSecret h timestamp path text
          revert hsignature
          generalize signer.signature timestamp path text = x
          generalize (signer.withSecret other).signature timestamp path text = y
          rintro (fault | hsign)
          · exact ⟨.error fault, rfl, rfl⟩
          · refine ⟨?_, rfl, rfl⟩
            exact (ResultAlike.refl (fun _ => rfl) _).map fun _ _ _ => ⟨⟨hsign, rfl⟩, rfl, rfl⟩

theorem SignedAlike.entries {names : Payload → Prop} (hname : names signer.signatureName)
    {a b : SignedHeaders} (h : signer.SignedAlike a b) :
    ResultAlike (List.Forall₂ (EntryAlike names Signature.PointsAlike)) a.entries b.entries := by
  obtain ⟨timestamp, sign, path, timestampHeader, signHeader⟩ := a
  obtain ⟨⟨hsign, hrest⟩, ht, hs⟩ := h
  rw [hrest] at hsign ⊢
  generalize b.sign = otherSign at hsign
  dsimp only at ht hs hsign
  subst ht hs
  have hvalue : ∀ name, names name → EntryAlike names Signature.PointsAlike (name, .string sign)
      (name, .string otherSign) := fun name hname =>
    ⟨rfl, .inr ⟨hname, _, _, (Json.ofPoints_points _).symm, (Json.ofPoints_points _).symm,
      .mk hsign⟩⟩
  rw [SignedHeaders.entries, SignedHeaders.entries, SignedHeaders.fields, SignedHeaders.fields]
  dsimp only
  split
  · exact .error _
  · split
    · exact .error _
    · refine .ok ?_
      rw [signatureName] at hname
      rw [SignedHeaders.pairs, SignedHeaders.pairs]
      dsimp only
      split
      · rename_i hsame
        rw [if_pos hsame] at hname
        exact .cons (hvalue _ hname) .nil
      · rename_i hsame
        rw [if_neg hsame] at hname
        exact .cons ⟨rfl, .inl rfl⟩ (.cons (hvalue _ hname) .nil)

/-- Another secret changes what is added to headers in the signature only. A signer that has
something else in the place of its operation adds nothing. -/
theorem apply_withSecret {names : Payload → Prop} (hclosed : CaseClosed names)
    (h : signer.secret.SecretAlike other)
    (hname : signer.check .apply = .ok () → names signer.signatureName) (clock : Clock)
    {x y : Option Headers} (hheaders : Option.Rel (Headers.Alike names) x y) (url : Json)
    (body : Payload) :
    Run.Alike signer.SignedAlike (signer.apply clock x url body).1
        ((signer.withSecret other).apply clock y url body).1 ∧
      Option.Rel (Headers.Alike names) (signer.apply clock x url body).2
        ((signer.withSecret other).apply clock y url body).2 := by
  rw [apply, apply, check_withSecret]
  cases hcheck : signer.check .apply with
  | error fault => exact ⟨⟨.error fault, rfl, rfl⟩, hheaders⟩
  | ok _ =>
    dsimp only
    have hrun := sign_withSecret h clock url body .null
    revert hrun
    generalize signer.sign clock url body .null = run
    generalize (signer.withSecret other).sign clock url body .null = otherRun
    rintro ⟨hresult, hevents, hclock⟩
    have hentries := hresult.bind fun _ _ hsigned => hsigned.entries (hname hcheck)
    revert hentries
    generalize (run.result >>= SignedHeaders.entries) = entries
    generalize (otherRun.result >>= SignedHeaders.entries) = otherEntries
    rintro (fault | hentries)
    · exact ⟨⟨.error fault, hevents, hclock⟩, hheaders⟩
    · have hadded := Headers.Alike.addAll hclosed hheaders
        (hentries.imp fun _ _ hentry => ⟨hentry.1, hentry.2.mono fun _ _ => .single⟩)
      revert hadded
      dsimp only
      generalize Headers.addAll x _ = after
      generalize Headers.addAll y _ = otherAfter
      obtain ⟨after, fault⟩ := after
      obtain ⟨otherAfter, otherFault⟩ := otherAfter
      rintro ⟨hafter, hfault⟩
      dsimp only at hfault
      subst hfault
      cases fault with
      | none => exact ⟨⟨hresult, hevents, hclock⟩, hafter⟩
      | some fault => exact ⟨⟨.error fault, hevents, hclock⟩, hafter⟩

end Signer

/-! ### Hooks -/

structure MappedRequest.Alike (names : Payload → Prop) (a b : MappedRequest) : Prop where
  headers : Option.Rel (Headers.Alike names) a.headers b.headers
  rest : b = { a with headers := b.headers }

/-- Two fields of one name that are sent, whose values are equal, or signatures of one message if
the name was made of one that carries signatures. -/
def SentAlike (names : Payload → Prop) (a b : Field) : Prop :=
  a.1 = b.1 ∧ (a.2 = b.2 ∨
    (∃ name, sendableName name = .ok a.1 ∧ names name) ∧ Signature.Alike a.2 b.2)

structure ListedRequest.Alike (names : Payload → Prop) (a b : ListedRequest) : Prop where
  fields : List.Forall₂ (SentAlike names) a.fields b.fields
  rest : b = { a with fields := b.fields }

/-- A signature is fit to be sent, whatever the key. -/
theorem sendableValue_ofKey (key message : List UInt8) :
    sendableValue (.string (Signature.ofKey key message)) = .ok (Signature.ofKey key message) := by
  have hcheck : Text.Ascii.check (Text.points (Signature.ofKey key message).toList) = .ok () :=
    (Text.Ascii.check_eq_ok_iff _).mpr (Text.Base64.isAscii_encode _)
  rw [sendableValue, Json.codes?]
  dsimp only
  rw [sendablePoints, hcheck]
  exact congrArg Except.ok (Text.ofPoints_points _)

theorem sendableValue_alike {carries : Prop} {a b : Json}
    (h : ValueAlike carries Signature.PointsAlike a b) :
    ResultAlike (fun s t => s = t ∨ carries ∧ Signature.Alike s t) (sendableValue a)
      (sendableValue b) := by
  rcases h with rfl | ⟨hcarries, _, _, rfl, rfl, ⟨h⟩⟩
  · exact .refl (fun _ => .inl rfl) _
  · rw [Json.ofPoints_points, Json.ofPoints_points]
    cases h with
    | refl => exact .refl (fun _ => .inl rfl) _
    | ofKey key other message =>
      rw [sendableValue_ofKey, sendableValue_ofKey]
      exact .ok (.inr ⟨hcarries, .ofKey key other message⟩)

theorem sendable_alike {names : Payload → Prop} {entries others : List Entry}
    (h : List.Forall₂ (EntryAlike names Signature.PointsAlike) entries others) :
    ResultAlike (List.Forall₂ (SentAlike names)) (sendable entries) (sendable others) := by
  induction h with
  | nil => exact .ok .nil
  | @cons entry entry' entries others hentry _ ih =>
    obtain ⟨name, value⟩ := entry
    obtain ⟨_, other⟩ := entry'
    obtain ⟨rfl, hvalue⟩ := hentry
    rw [sendable, sendable]
    dsimp only at hvalue ⊢
    cases hsent : sendableName name with
    | error fault => exact .error fault
    | ok sent =>
      refine (sendableValue_alike hvalue).bind fun s t hst => ih.bind fun _ _ hrest => ?_
      refine .ok (.cons ⟨rfl, hst.imp_right fun hst => ?_⟩ hrest)
      exact ⟨⟨name, hsent, hst.1⟩, hst.2⟩

namespace Hook

def withSecret (hook : Hook) (other : Payload) : Hook :=
  { hook with signer := hook.signer.withSecret other }

variable {hook : Hook} {other : Payload} {names : Payload → Prop}

/-- The event of a success shows no signature. -/
theorem successEvent_alike {signer : Signer} {a b : SignedHeaders} (h : signer.SignedAlike a b)
    (logger : String) (method : Json) :
    successEvent logger method a = successEvent logger method b := by
  rw [h.rest, successEvent, successEvent]

/-- Another secret changes what a hook does to mapped headers in the signature only. -/
theorem attachMapped_withSecret (hclosed : CaseClosed names)
    (h : hook.signer.secret.SecretAlike other)
    (hname : hook.signer.check .apply = .ok () → names hook.signer.signatureName) (clock : Clock)
    (request : MappedRequest) :
    Run.Alike (MappedRequest.Alike names) (hook.attachMapped clock request).1
        ((hook.withSecret other).attachMapped clock request).1 ∧
      MappedRequest.Alike names (hook.attachMapped clock request).2
        ((hook.withSecret other).attachMapped clock request).2 := by
  have hrefl : Option.Rel (Headers.Alike names) request.headers request.headers := by
    cases request.headers with
    | none => exact .none
    | some headers => exact .some (.refl names headers)
  have happly := Signer.apply_withSecret hclosed h hname clock hrefl request.url request.body
  have hkey : (hook.withSecret other).keyFields = hook.keyFields := rfl
  have hsigner : (hook.withSecret other).signer = hook.signer.withSecret other := rfl
  rw [attachMapped, attachMapped, hkey, hsigner]
  revert happly
  generalize hook.signer.apply clock request.headers request.url request.body = applied
  generalize (hook.signer.withSecret other).apply clock request.headers request.url
    request.body = otherApplied
  obtain ⟨⟨result, events, clock⟩, headers⟩ := applied
  obtain ⟨⟨otherResult, _, _⟩, otherHeaders⟩ := otherApplied
  rintro ⟨⟨hresult, rfl, rfl⟩, hheaders⟩
  cases hresult with
  | error fault => exact ⟨⟨.error fault, rfl, rfl⟩, hheaders, rfl⟩
  | ok hsigned =>
    have hadded := Headers.Alike.addAll hclosed hheaders
      (List.forall₂_same.mpr fun entry (_ : entry ∈ hook.keyFields) => ⟨rfl, .inl rfl⟩)
    revert hadded
    dsimp only
    generalize Headers.addAll headers hook.keyFields = after
    generalize Headers.addAll otherHeaders hook.keyFields = otherAfter
    obtain ⟨after, fault⟩ := after
    obtain ⟨otherAfter, _⟩ := otherAfter
    rintro ⟨hafter, rfl⟩
    cases fault with
    | some fault => exact ⟨⟨.error fault, rfl, rfl⟩, hafter, rfl⟩
    | none =>
      refine ⟨⟨.ok ⟨hafter, rfl⟩, ?_, rfl⟩, hafter, rfl⟩
      dsimp only
      rw [successEvent_alike hsigned]

theorem signListed_withSecret (h : hook.signer.secret.SecretAlike other) (clock : Clock)
    (request : ListedRequest) (isRead : Bool) :
    Run.Alike hook.signer.SignedAlike (hook.signListed clock request isRead)
      ((hook.withSecret other).signListed clock request isRead) := by
  rw [signListed, signListed]
  cases contentBody request.content isRead with
  | error fault => exact ⟨.error fault, rfl, rfl⟩
  | ok body => exact Signer.sign_withSecret h clock _ body .null

theorem sentFields_withSecret (other : Payload) (hname : names hook.signer.signatureName)
    (fields : List Field) {a b : SignedHeaders} (h : hook.signer.SignedAlike a b) :
    ResultAlike (List.Forall₂ (SentAlike names)) (hook.sentFields fields a)
      ((hook.withSecret other).sentFields fields b) := by
  have hkey : (hook.withSecret other).keyFields = hook.keyFields := rfl
  have hrefl : ∀ entries : List Entry,
      List.Forall₂ (EntryAlike names Signature.PointsAlike) entries entries := fun entries =>
    List.forall₂_same.mpr fun _ _ => ⟨rfl, .inl rfl⟩
  have hnew : ResultAlike (List.Forall₂ (EntryAlike names Signature.PointsAlike)) (hook.newFields a)
      ((hook.withSecret other).newFields b) := by
    rw [newFields, newFields, hkey]
    exact (h.entries hname).map fun _ _ hentries =>
      List.rel_append hentries (hrefl hook.keyFields)
  rw [sentFields, sentFields]
  exact hnew.bind fun _ _ hadded => sendable_alike (List.rel_append (hrefl _) hadded)

/-- Another secret changes what a hook makes of a listed request in the signature only, and so it
does not show whether the request can be sent. -/
theorem attachListed_withSecret (h : hook.signer.secret.SecretAlike other) (clock : Clock)
    (request : ListedRequest) (isRead : Bool)
    (hname : ∀ body, contentBody request.content isRead = .ok body →
      names hook.signer.signatureName) :
    Run.Alike (ListedRequest.Alike names) (hook.attachListed clock request isRead).1
      ((hook.withSecret other).attachListed clock request isRead).1 := by
  have hsign := signListed_withSecret h clock request isRead
  rw [attachListed, attachListed]
  dsimp only
  cases hbody : contentBody request.content isRead with
  | error fault =>
    have hnothing : ∀ hook : Hook,
        hook.signListed clock request isRead = ⟨.error fault, [], clock⟩ := fun hook => by
      rw [signListed, hbody]
    rw [hnothing, hnothing]
    exact ⟨.error fault, rfl, rfl⟩
  | ok body =>
    revert hsign
    generalize hook.signListed clock request isRead = run
    generalize (hook.withSecret other).signListed clock request isRead = otherRun
    obtain ⟨result, events, clock⟩ := run
    obtain ⟨otherResult, _, _⟩ := otherRun
    rintro ⟨hresult, rfl, rfl⟩
    cases hresult with
    | error fault => exact ⟨.error fault, rfl, rfl⟩
    | ok hsigned =>
      have hsent := sentFields_withSecret other (hname body hbody) request.fields hsigned
      revert hsent
      dsimp only
      generalize hook.sentFields request.fields _ = sent
      generalize (hook.withSecret other).sentFields request.fields _ = otherSent
      rintro (fault | hfields)
      · exact ⟨.error fault, rfl, rfl⟩
      · refine ⟨.ok ⟨hfields, rfl⟩, ?_, rfl⟩
        dsimp only
        rw [successEvent_alike hsigned]

theorem passListed_withSecret (h : hook.signer.secret.SecretAlike other) (clock : Clock)
    (request : ListedRequest) (isRead : Bool)
    (hname : ∀ bytes, (if isRead then request.content.bytes else .ok []) = .ok bytes →
      ∀ body, contentBody request.content isRead = .ok body → names hook.signer.signatureName) :
    Run.Alike (ListedRequest.Alike names) (hook.passListed clock request isRead).1
      ((hook.withSecret other).passListed clock request isRead).1 := by
  rw [passListed, passListed]
  cases hread : if isRead then request.content.bytes else .ok [] with
  | error fault => exact ⟨.error fault, rfl, rfl⟩
  | ok bytes => exact attachListed_withSecret h clock request isRead (hname bytes hread)

end Hook

end SignedHttp
