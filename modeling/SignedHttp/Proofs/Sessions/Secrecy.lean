import SignedHttp.Proofs.Sessions.Alike
import SignedHttp.Proofs.Sessions.Effects

/-!
# What sessions tell of secrets

Steps that are the same but for the secrets they hand over (`Session.Step.Alike`) keep sessions
alike that are (`State.Alike.step`): the answers show the same but for signatures and the secrets
themselves, and the lines that are logged are equal. Over a run this gives the same lines, the same
counts, the same faults at the same steps, and headers with the same names, whose values are equal
unless the name is that of a field that a signer of the run puts its signature into
(`Session.run_alike`). So nothing that is logged, counted or refused tells anything of a secret that
has bytes. A secret with a surrogate has none, and the refusal of it quotes the surrogate; there two
secrets must be refused for the same reason.

Key definitions: `Session.Step.Alike`, `Session.carriesSignature`.
Key theorems: `Session.State.Alike.step`, `Session.run_alike`.
-/

namespace SignedHttp

namespace Session

/-- Whether the signing that a call comes to, if any, puts its signature under one of the names. -/
def Call.Carries (names : Payload → Prop) (call : Call) : Prop :=
  ∀ signing, call.signing? = some signing → names signing.signer.signatureName

namespace State.Alike

variable {names : Payload → Prop} {a b : State}

/-! ### Steps that call something -/

theorem signStep (h : a.Alike names b) (url : Json) (body : Payload) (time : Json) :
    OutcomeAlike names (a.signStep url body time) (b.signStep url body time) := by
  rw [State.signStep, State.signStep, withCurrent, withCurrent]
  rcases h.current? with ⟨ha, hb⟩ | ⟨place, enrolled, other, ha, hb, hother⟩
  · rw [ha, hb]
    exact h.quiet _
  · rw [ha, hb]
    dsimp only
    rw [h.clockOf]
    have hrun := Signer.sign_withSecret hother (a.clockOf enrolled) url body time
    obtain ⟨hstate, hlines⟩ := h.settle place hrun.events hrun.clock
    have hshown : ResultAlike SignedHeaders.Alike _ _ := hrun.result.bind fun x y hsigned =>
      hsigned.fields.map fun _ _ _ => hsigned.toAlike
    revert hstate hlines hshown
    generalize a.settle place _ = settled
    generalize b.settle place _ = otherSettled
    generalize (Run.result _ >>= _) = shown
    generalize (Run.result _ >>= _) = otherShown
    intro hstate hlines hshown
    cases hshown with
    | error fault => exact ⟨hstate, .same _, hlines⟩
    | ok hsigned => exact ⟨hstate, .signed hsigned, hlines⟩

theorem applyStep (hclosed : CaseClosed names) (h : a.Alike names b) (url : Json) (body : Payload)
    (hcarries : ∀ call, a.call? (.apply url body) = some call → call.Carries names) :
    OutcomeAlike names (a.applyStep url body) (b.applyStep url body) := by
  rw [State.applyStep, State.applyStep]
  rcases h.current? with ⟨ha, hb⟩ | ⟨place, enrolled, other, ha, hb, hother⟩
  · rw [ha, hb]
    exact ⟨h, .failedWith _ (.some h.headers), rfl⟩
  · rw [ha, hb]
    dsimp only
    rw [h.clockOf]
    have hname : enrolled.signer.check .apply = .ok () →
        names enrolled.signer.signatureName := fun hcheck => by
      refine hcarries (.apply enrolled.signer (a.clockOf enrolled) a.headers url body) ?_
        ⟨enrolled.signer, a.clockOf enrolled, url, body, .null⟩ ?_
      · rw [State.call?, ha]
        rfl
      · rw [Call.signing?, Signing.ofApply?, hcheck]
    obtain ⟨hrun, hheaders⟩ := Signer.apply_withSecret hclosed hother hname (a.clockOf enrolled)
      (.some h.headers) url body
    obtain ⟨hstate, hlines⟩ := h.settle place hrun.events hrun.clock
    have hresult := hrun.result
    revert hheaders hstate hlines hresult
    generalize a.settle place _ = settled
    generalize b.settle place _ = otherSettled
    generalize enrolled.signer.apply _ _ _ _ = applied
    generalize (enrolled.signer.withSecret other).apply _ _ _ _ = otherApplied
    obtain ⟨⟨result, events, clock⟩, headers⟩ := applied
    obtain ⟨⟨otherResult, otherEvents, otherClock⟩, otherHeaders⟩ := otherApplied
    intro hheaders hstate hlines hresult
    have hafter : Headers.Alike names (headers.getD a.headers) (otherHeaders.getD b.headers) := by
      cases hheaders with
      | none => exact h.headers
      | some hheaders => exact hheaders
    cases hresult with
    | error fault =>
      exact ⟨hstate.withHeaders hafter, .failedWith fault (.some hafter), hlines⟩
    | ok hsigned => exact ⟨hstate.withHeaders hafter, .applied hsigned.toAlike hafter, hlines⟩

theorem callMappedStep (hclosed : CaseClosed names) (h : a.Alike names b) (call : MappedCall)
    (hcarries : ∀ called, a.call? (.callMapped call) = some called → called.Carries names) :
    OutcomeAlike names (a.callMappedStep call) (b.callMappedStep call) := by
  have hplaced : b.mappedHook = a.mappedHook := by rw [h.rest]; rfl
  rw [State.callMappedStep, State.callMappedStep, hplaced]
  rcases h.hookAt? a.mappedHook with ⟨ha, hb⟩ | ⟨place, enrolled, other, hook, ha, hb, hother⟩
  · rw [ha, hb]
    exact h.quiet _
  · rw [ha, hb]
    dsimp only
    cases hmade : call.fields.mapM (Headers.ofAssignments .caseless) with
    | error fault => exact h.quiet _
    | ok headers =>
      dsimp only
      rw [h.clockOf]
      have hname : hook.signer.check .apply = .ok () →
          names hook.signer.signatureName := fun hcheck => by
        refine hcarries (.mapped hook (a.clockOf enrolled) ⟨call.method, call.url, headers,
          call.body⟩) ?_ ⟨hook.signer, a.clockOf enrolled, call.url, call.body, .null⟩ ?_
        · rw [State.call?, ha, Option.bind_some]
          dsimp only
          rw [hmade]
        · rw [Call.signing?, Signing.ofApply?, hcheck]
      obtain ⟨hrun, hrequest⟩ := Hook.attachMapped_withSecret hclosed hother hname
        (a.clockOf enrolled) ⟨call.method, call.url, headers, call.body⟩
      obtain ⟨hstate, hlines⟩ := h.settle place hrun.events hrun.clock
      have hresult := hrun.result
      revert hrequest hstate hlines hresult
      generalize a.settle place _ = settled
      generalize b.settle place _ = otherSettled
      generalize hook.attachMapped _ _ = attached
      generalize (hook.withSecret other).attachMapped _ _ = otherAttached
      obtain ⟨⟨result, events, clock⟩, request⟩ := attached
      obtain ⟨⟨otherResult, otherEvents, otherClock⟩, otherRequest⟩ := otherAttached
      intro hrequest hstate hlines hresult
      cases hresult with
      | error fault => exact ⟨hstate, .failedWith fault hrequest.headers, hlines⟩
      | ok hsent => exact ⟨hstate, .mapped hsent.headers, hlines⟩

theorem callListedStep (h : a.Alike names b) (call : ListedCall)
    (hcarries : ∀ called, a.call? (.callListed call) = some called → called.Carries names) :
    OutcomeAlike names (a.callListedStep call) (b.callListedStep call) := by
  have hplaced : b.listedHook = a.listedHook := by rw [h.rest]; rfl
  rw [State.callListedStep, State.callListedStep, hplaced]
  rcases h.hookAt? a.listedHook with ⟨ha, hb⟩ | ⟨place, enrolled, other, hook, ha, hb, hother⟩
  · rw [ha, hb]
    exact h.quiet _
  · rw [ha, hb]
    dsimp only
    cases hmade : ListedRequest.make call.method call.address call.fields call.content with
    | error fault => exact h.quiet _
    | ok request =>
      dsimp only
      rw [h.clockOf]
      have hname : ∀ bytes, (if call.isRead then request.content.bytes else .ok []) = .ok bytes →
          ∀ body, Hook.contentBody request.content call.isRead = .ok body →
            names hook.signer.signatureName := fun bytes hread body hbody => by
        refine hcarries (.listed hook (a.clockOf enrolled) request call.isRead) ?_
          ⟨hook.signer, a.clockOf enrolled, .string request.url.text, body, .null⟩ ?_
        · rw [State.call?, ha, Option.bind_some]
          dsimp only
          rw [hmade]
          dsimp only
          rw [Call.ofListed?, hread]
        · rw [Call.signing?, hbody]
      have hrun := Hook.passListed_withSecret hother (a.clockOf enrolled) request call.isRead hname
      obtain ⟨hstate, hlines⟩ := h.settle place hrun.events hrun.clock
      have hresult := hrun.result
      revert hstate hlines hresult
      generalize a.settle place _ = settled
      generalize b.settle place _ = otherSettled
      generalize hook.passListed _ _ _ = passed
      generalize (hook.withSecret other).passListed _ _ _ = otherPassed
      obtain ⟨⟨result, events, clock⟩, after⟩ := passed
      obtain ⟨⟨otherResult, otherEvents, otherClock⟩, otherAfter⟩ := otherPassed
      intro hstate hlines hresult
      cases hresult with
      | error fault => exact ⟨hstate, .same _, hlines⟩
      | @ok sent otherSent hsent =>
        have hurl : otherSent.url = sent.url := by rw [hsent.rest]
        refine ⟨hstate, ?_, hlines⟩
        dsimp only
        rw [hurl]
        exact .listed _ hsent.fields

/-! ### Steps that call nothing -/

theorem setHeadersStep (h : a.Alike names b) (rule : NameRule) (items : List Entry) :
    OutcomeAlike names (a.setHeadersStep rule items) (b.setHeadersStep rule items) := by
  rw [State.setHeadersStep, State.setHeadersStep]
  cases Headers.ofAssignments rule items with
  | error fault => exact h.quiet _
  | ok headers => exact ⟨h.withHeaders (.refl names headers), .same _, rfl⟩

theorem appendStep (hclosed : CaseClosed names) (h : a.Alike names b) (name : Payload)
    (value : Json) : OutcomeAlike names (a.appendStep name value) (b.appendStep name value) := by
  have happend : ResultAlike (Headers.Alike names) (a.headers.append name value)
      (b.headers.append name value) := h.headers.append hclosed (.inl rfl)
  rw [State.appendStep, State.appendStep]
  revert happend
  generalize a.headers.append name value = x
  generalize b.headers.append name value = y
  rintro (fault | hheaders)
  · exact h.quiet _
  · exact ⟨h.withHeaders hheaders, .headers hheaders, rfl⟩

theorem readTimeStep (h : a.Alike names b) : OutcomeAlike names a.readTimeStep b.readTimeStep := by
  rw [State.readTimeStep, State.readTimeStep, withCurrent, withCurrent]
  rcases h.current? with ⟨ha, hb⟩ | ⟨place, enrolled, other, ha, hb, hother⟩
  · rw [ha, hb]
    exact h.quiet _
  · have hread : (enrolled.signer.withSecret other).readTime (a.clockOf enrolled) =
        enrolled.signer.readTime (a.clockOf enrolled) := rfl
    rw [ha, hb]
    dsimp only
    rw [h.clockOf, hread]
    have hmoved := h.moveClock place (enrolled.signer.readTime (a.clockOf enrolled)).2
    cases (enrolled.signer.readTime (a.clockOf enrolled)).1 >>= Log.numeral with
    | error fault => exact hmoved.quiet _
    | ok text => exact hmoved.quiet _

theorem installResult (h : a.Alike names b) (clock : Clock) {made other : Except Fault Signer} :
    ResultAlike Signer.Alike made other → OutcomeAlike names
      (match made with
        | .error fault => a.quiet (.failed fault)
        | .ok signer => (a.install signer clock).quiet (.signer signer))
      (match other with
        | .error fault => b.quiet (.failed fault)
        | .ok signer => (b.install signer clock).quiet (.signer signer)) := by
  rintro (fault | hsigner)
  · exact h.quiet _
  · exact ⟨h.install hsigner clock, .signer hsigner, rfl⟩

theorem installFromSettings (h : a.Alike names b) {arguments others : Option (List (Json × Json))}
    (harguments : Option.Rel (List.Forall₂ AssignmentAlike) arguments others) (clock : Clock) :
    OutcomeAlike names (a.installFromSettings arguments clock)
      (b.installFromSettings others clock) := by
  have hsigner : ∀ {x y : Except Fault Settings}, ResultAlike Settings.Alike x y →
      ResultAlike Signer.Alike (x >>= Signer.ofSettings) (y >>= Signer.ofSettings) :=
    fun hsettings => hsettings.bind fun _ _ h => h.ofSettings
  cases harguments with
  | none => exact h.installResult clock (hsigner (.ok h.settings))
  | some harguments =>
    have hsettings := (Sources.argumentsOf_alike harguments).bind fun _ _ =>
      Sources.resolveAlone_alike
    exact h.installResult clock (hsigner hsettings)

theorem changeStep (h : a.Alike names b) (name : Json) {value other : Payload}
    (hvalue : value = other ∨
      name = .string Signer.Part.secret.name ∧ value.SecretAlike other) :
    OutcomeAlike names (a.changeStep name value) (b.changeStep name other) := by
  cases name with
  | string name =>
    rw [State.changeStep, State.changeStep]
    rcases h.current? with ⟨ha, hb⟩ | ⟨place, enrolled, secret, ha, hb, hsecret⟩
    · have hrefusal : refusalOfNothing name value = refusalOfNothing name other := by
        rcases hvalue with rfl | ⟨hname, -⟩
        · rfl
        · rw [Json.string.inj hname]
          rfl
      rw [ha, hb, hrefusal]
      exact h.quiet _
    · rw [ha, hb]
      dsimp only
      have hchanged := (Enrolled.Alike.of_withSecret hsecret enrolled.time).changed name
        (hvalue.imp_right fun h => ⟨Json.string.inj h.1, h.2⟩)
      revert hchanged
      generalize changed enrolled name value = x
      generalize changed _ name other = y
      rintro (fault | hchanged)
      · exact h.quiet _
      · exact (h.withSigner place hchanged).quiet _
  | _ => exact h.quiet _

theorem showSettings (h : a.Alike names b) :
    OutcomeAlike names a.showSettings b.showSettings := by
  rw [State.showSettings, State.showSettings, h.settings.hasSecret]
  cases b.settings.hasSecret with
  | error fault => exact h.quiet _
  | ok hasSecret => exact ⟨h, .settings h.settings hasSecret, rfl⟩

theorem setSettingStep (h : a.Alike names b) (name : Json) {value other : Json}
    (hvalue : value = other ∨
      name = .string Setting.secret.name ∧ (Payload.json value).SecretAlike (.json other)) :
    OutcomeAlike names (a.setSettingStep name value) (b.setSettingStep name other) := by
  cases name with
  | string name =>
    rw [State.setSettingStep, State.setSettingStep]
    cases hsetting : Setting.ofName? name with
    | some setting =>
      have hset : (a.withSetting setting value).Alike names (b.withSetting setting other) := by
        refine h.withSettings (h.settings.set setting (hvalue.imp_right fun h => ⟨?_, h.2⟩))
        rw [Json.string.inj h.1] at hsetting
        exact (Option.some.inj hsetting).symm
      have hlost : b.lostRecord = a.lostRecord := by rw [h.rest]; rfl
      rw [hlost]
      cases a.lostRecord with
      | none => exact hset.showSettings
      | some kind => exact hset.quiet _
    | none =>
      have hother : value = other := hvalue.resolve_right fun h => by
        rw [Json.string.inj h.1] at hsetting
        cases hsetting
      subst hother
      dsimp only
      cases refusalOfPart name value with
      | error fault => exact h.quiet _
      | ok =>
        refine State.Alike.showSettings ?_
        rw [withPart, withPart]
        split
        · exact h.update (fun state => { state with lostRecord := some value.kind })
            fun _ _ _ _ => rfl
        · exact h
  | _ => exact h.quiet _

theorem configured (h : a.Alike names b) (levels : Log.Levels) :
    (a.configured levels).Alike names (b.configured levels) :=
  h.update (·.configured levels) fun _ _ _ _ => rfl

theorem placeHook (h : a.Alike names b) (request : HookRequest) {keep : State → PlacedHook → State}
    (hkeep : ∀ {a b : State}, a.Alike names b → ∀ hook : PlacedHook,
      (keep a hook).Alike names (keep b hook)) :
    OutcomeAlike names (a.placeHook request keep) (b.placeHook request keep) := by
  have hlevel : b.settings.logLevel = a.settings.logLevel := by rw [h.settings.rest]
  rw [State.placeHook, State.placeHook, hlevel]
  cases Log.Levels.configure (.json a.settings.logLevel) with
  | error fault => exact h.quiet _
  | ok levels =>
    have hconfigured := h.configured levels
    revert hconfigured
    dsimp only
    generalize a.configured levels = a
    generalize b.configured levels = b
    intro h
    have hcurrent : b.current = a.current := by rw [h.rest]; rfl
    have hkey : b.settings.apiKey = a.settings.apiKey := by rw [h.settings.rest]
    rw [hcurrent, hkey]
    cases if request.useCurrent then a.current else none with
    | some place => exact ⟨hkeep h _, .same _, rfl⟩
    | none =>
      have hsigner := h.settings.ofSettings
      revert hsigner
      generalize Signer.ofSettings a.settings = x
      generalize Signer.ofSettings b.settings = y
      rintro (fault | @⟨signer, other, hsigner⟩)
      · exact h.quiet _
      · obtain ⟨henrolled, hplace⟩ := h.enroll hsigner .shared
        change OutcomeAlike names
          ((keep (a.enroll ⟨signer, .shared⟩).1 ⟨(a.enroll ⟨signer, .shared⟩).2, _⟩).quiet _)
          ((keep (b.enroll ⟨other, .shared⟩).1 ⟨(b.enroll ⟨other, .shared⟩).2, _⟩).quiet _)
        rw [hplace]
        exact (hkeep henrolled _).quiet _

/-- What is logged by a draft depends on the loggers and on the telemetry only. -/
theorem snd_logBy (h : a.Alike names b) (logger : Option String) (level : Int)
    (draft : Log.Draft) : (a.logBy logger level draft).2 = (b.logBy logger level draft).2 := by
  have hloggers : b.loggers = a.loggers := by rw [h.rest]; rfl
  rw [State.logBy, State.logBy, hloggers, h.telemetry]
  repeat' split
  all_goals rfl

theorem logStep (h : a.Alike names b) (draft : Log.Draft) :
    OutcomeAlike names (a.logStep draft) (b.logStep draft) := by
  rw [State.logStep, State.logStep]
  cases loggerOf draft with
  | error fault => exact h.quiet _
  | ok logger =>
    have hlogger : State.Alike names { a with loggers := logger.toList ++ a.loggers }
        { b with loggers := logger.toList ++ b.loggers } :=
      h.update (fun state => { state with loggers := logger.toList ++ state.loggers })
        fun _ _ _ _ => rfl
    dsimp only
    cases draft.level.toInt? with
    | none => exact hlogger.quiet _
    | some level =>
      have hsnd := hlogger.snd_logBy logger level draft
      refine ⟨?_, ?_, congrArg Prod.snd hsnd⟩
      · rw [fst_logBy, fst_logBy]
        exact hlogger
      · rw [hsnd]
        exact .same _

end State.Alike

/-! ### Steps -/

/-- Two steps that differ in the secrets that they hand over only: to a new signer, by itself or
from settings made of arguments, in the place of the current signer's, or to the settings. -/
inductive Step.Alike : Step → Step → Prop
  | refl (step : Step) : Alike step step
  | makeSigner {secret other : Payload} (h : secret.SecretAlike other)
    (base timestampHeader signHeader : Payload) (clock : Clock) :
    Alike (.makeSigner secret base timestampHeader signHeader clock)
      (.makeSigner other base timestampHeader signHeader clock)
  | signerFromSettings {arguments others : List (Json × Json)}
    (h : List.Forall₂ AssignmentAlike arguments others) (clock : Clock) :
    Alike (.signerFromSettings (some arguments) clock) (.signerFromSettings (some others) clock)
  | changeSecret {secret other : Payload} (h : secret.SecretAlike other) :
    Alike (.change (.string Signer.Part.secret.name) secret)
      (.change (.string Signer.Part.secret.name) other)
  | setSecret {secret other : Json} (h : (Payload.json secret).SecretAlike (.json other)) :
    Alike (.setSetting (.string Setting.secret.name) secret)
      (.setSetting (.string Setting.secret.name) other)

namespace State.Alike

variable {names : Payload → Prop} {a b : State}

theorem makeSignerStep (h : a.Alike names b) {secret other : Payload}
    (hsecret : secret.SecretAlike other) (base timestampHeader signHeader : Payload)
    (clock : Clock) :
    OutcomeAlike names (a.step (.makeSigner secret base timestampHeader signHeader clock))
      (b.step (.makeSigner other base timestampHeader signHeader clock)) := by
  rw [State.step, State.step, Signer.make, Signer.make, hsecret.isEmpty]
  cases other.isEmpty with
  | true => exact h.quiet _
  | false => exact (h.install ⟨hsecret, rfl⟩ clock).quiet _

theorem setClockStep (h : a.Alike names b) (clock : Clock) :
    OutcomeAlike names (a.step (.setClock clock)) (b.step (.setClock clock)) := by
  rw [State.step, State.step, withCurrent, withCurrent]
  rcases h.current? with ⟨ha, hb⟩ | ⟨place, enrolled, other, ha, hb, hother⟩
  · rw [ha, hb]
    exact h.quiet _
  · rw [ha, hb]
    have hset := (Enrolled.Alike.of_withSecret hother enrolled.time).setClock clock
    exact (h.withSigner place hset).quiet _

theorem matchBaseStep (h : a.Alike names b) (url : Json) :
    OutcomeAlike names (a.step (.matchBase url)) (b.step (.matchBase url)) := by
  rw [State.step, State.step, withCurrent, withCurrent]
  rcases h.current? with ⟨ha, hb⟩ | ⟨place, enrolled, other, ha, hb, -⟩
  · rw [ha, hb]
    exact h.quiet _
  · rw [ha, hb]
    dsimp only
    rw [Signer.matchesBase_withSecret]
    cases enrolled.signer.matchesBase url with
    | error fault => exact h.quiet _
    | ok doesMatch => exact h.quiet _

theorem configureStep (h : a.Alike names b) (level : Payload) :
    OutcomeAlike names (a.step (.configure level)) (b.step (.configure level)) := by
  rw [State.step, State.step]
  cases Log.Levels.configure level with
  | error fault => exact h.quiet _
  | ok levels => exact (h.configured levels).quiet _

/-- Steps that differ in secrets only keep states alike that do: they answer the same but for
signatures and secrets, and log the same. The signing that a step comes to must put its signature
under one of the names. -/
theorem step (hclosed : CaseClosed names) (h : a.Alike names b) {step other : Step}
    (hstep : step.Alike other)
    (hcarries : ∀ call, a.call? step = some call → call.Carries names) :
    OutcomeAlike names (a.step step) (b.step other) := by
  cases hstep with
  | makeSigner hsecret base timestampHeader signHeader clock =>
    exact h.makeSignerStep hsecret base timestampHeader signHeader clock
  | signerFromSettings harguments clock => exact h.installFromSettings (.some harguments) clock
  | changeSecret hsecret => exact h.changeStep _ (.inr ⟨rfl, hsecret⟩)
  | setSecret hsecret => exact h.setSettingStep _ (.inr ⟨rfl, hsecret⟩)
  | refl =>
    cases step with
    | makeSigner secret base timestampHeader signHeader clock =>
      exact h.makeSignerStep (.inl rfl) base timestampHeader signHeader clock
    | signerFromSettings arguments clock =>
      refine h.installFromSettings ?_ clock
      cases arguments with
      | none => exact .none
      | some arguments => exact .some (List.forall₂_same.mpr fun _ _ => ⟨rfl, .inl rfl⟩)
    | change name value => exact h.changeStep name (.inl rfl)
    | setClock clock => exact h.setClockStep clock
    | setSetting name value => exact h.setSettingStep name (.inl rfl)
    | setInstant instant =>
      have hset := h.update (fun state =>
        { state with telemetry := { state.telemetry with instant := instant } }) fun _ _ _ _ => rfl
      exact hset.quiet _
    | sign url body time => exact h.signStep url body time
    | setHeaders rule items => exact h.setHeadersStep rule items
    | append name value => exact h.appendStep hclosed name value
    | apply url body => exact h.applyStep hclosed url body hcarries
    | readTime => exact h.readTimeStep
    | matchBase url => exact h.matchBaseStep url
    | configure level => exact h.configureStep level
    | showLevels =>
      rw [State.step, State.step, h.telemetry]
      exact h.quiet _
    | log draft => exact h.logStep draft
    | showMetrics =>
      rw [State.step, State.step, h.telemetry]
      exact h.quiet _
    | makeMappedHook request =>
      rw [State.step, State.step]
      exact h.placeHook request fun h hook =>
        h.update (fun state => { state with mappedHook := some hook }) fun _ _ _ _ => rfl
    | callMapped call => exact h.callMappedStep hclosed call hcarries
    | makeListedHook request =>
      rw [State.step, State.step]
      exact h.placeHook request fun h hook =>
        h.update (fun state => { state with listedHook := some hook }) fun _ _ _ _ => rfl
    | callListed call => exact h.callListedStep call hcarries

end State.Alike

/-! ### Runs -/

/-- Two runs that log the same and answer the same but for signatures and secrets, and end in states
that are alike. -/
structure RunAlike (names : Payload → Prop) (x y : State × List (Reply × List Line)) : Prop where
  state : x.1.Alike names y.1
  replies : List.Forall₂ (Reply.Alike names) (x.2.map Prod.fst) (y.2.map Prod.fst)
  lines : x.2.map Prod.snd = y.2.map Prod.snd

/-- What holds of each step holds of a run, if all its signings put their signatures under the
names. -/
theorem State.Alike.run {names : Payload → Prop} (hclosed : CaseClosed names)
    {steps others : List Step} (hsteps : List.Forall₂ Step.Alike steps others) :
    ∀ {a b : State}, a.Alike names b → (∀ call ∈ a.calls steps, call.Carries names) →
      RunAlike names (run a steps) (run b others) := by
  -- The states between the steps are alike, so what the next step comes to is the same signing
  -- under another secret; the names stay those of the whole run.
  induction hsteps with
  | nil => exact fun h _ => ⟨h, .nil, rfl⟩
  | @cons step other steps others hstep _ ih =>
    intro a b h hcarries
    rw [State.calls] at hcarries
    have hfirst := h.step hclosed hstep fun call hcall =>
      hcarries call (List.mem_append_left _ (Option.mem_toList.mpr hcall))
    have hrest := ih hfirst.state fun call hcall => hcarries call (List.mem_append_right _ hcall)
    exact ⟨hrest.state, .cons hfirst.reply hrest.replies,
      congrArg₂ List.cons hfirst.lines hrest.lines⟩

/-- Whether a name is, up to letter case, that of a field that one of the calls signs into. -/
def carriesSignature (calls : List Call) (name : Payload) : Prop :=
  ∃ signing ∈ calls.filterMap Call.signing?, name = signing.signer.signatureName ∨
    Headers.sameLowered name signing.signer.signatureName = .ok true

theorem caseClosed_carriesSignature (calls : List Call) :
    CaseClosed (carriesSignature calls) := by
  rintro key name hsame ⟨signing, hsigning, rfl | hname⟩
  · exact ⟨signing, hsigning, .inr hsame⟩
  · exact ⟨signing, hsigning, .inr (Headers.sameLowered_trans hsame hname)⟩

/-- If all names are texts, it is the name for the signature of one of the signers, up to letter
case. -/
theorem carriesSignature_text_iff {calls : List Call} (name : String)
    (htext : ∀ signing ∈ calls.filterMap Call.signing?, ∃ timestampName signName,
      signing.signer.timestampHeader = .text timestampName ∧
        signing.signer.signHeader = .text signName) :
    carriesSignature calls (.text name) ↔ ∃ signing ∈ calls.filterMap Call.signing?,
      ∃ signName, signing.signer.signHeader = .text signName ∧
        Text.sameName name signName = true := by
  constructor
  · rintro ⟨signing, hsigning, hname⟩
    obtain ⟨timestampName, signName, ht, hs⟩ := htext signing hsigning
    refine ⟨signing, hsigning, signName, hs, ?_⟩
    rw [Signer.signatureName_of_text ht hs, Headers.sameLowered_text] at hname
    rcases hname with hname | hname
    · rw [Json.string.inj (Payload.json.inj hname)]
      exact Text.sameName_refl signName
    · exact Except.ok.inj hname
  · rintro ⟨signing, hsigning, signName, hs, hname⟩
    obtain ⟨timestampName, _, ht, -⟩ := htext signing hsigning
    refine ⟨signing, hsigning, .inr ?_⟩
    rw [Signer.signatureName_of_text ht hs, Headers.sameLowered_text, hname]

/-- Two sessions with the same steps that differ in their secrets only, those of the settings and
those handed over, log the same, count the same and answer the same but for signatures and the
secrets themselves; their headers differ in values that hold signatures only, under names for
these. -/
theorem run_alike {settings otherSettings : Settings} (hsettings : settings.Alike otherSettings)
    {steps otherSteps : List Step} (hsteps : List.Forall₂ Step.Alike steps otherSteps)
    (clock : Clock) (telemetry : Telemetry) :
    RunAlike (carriesSignature ((State.initial settings clock telemetry).calls steps))
      (run (.initial settings clock telemetry) steps)
      (run (.initial otherSettings clock telemetry) otherSteps) := by
  refine State.Alike.run (caseClosed_carriesSignature _) hsteps
    (.initial _ hsettings clock telemetry) fun call hcall signing hsigning => ?_
  exact ⟨signing, List.mem_filterMap.mpr ⟨call, hcall, hsigning⟩, .inl rfl⟩

/-- A signer with a text as its secret and one with bytes, which warn of the same url. -/
theorem run_alike_text_bytes :
    let state : State := .initial (.ofFunction Setting.default) (.always (.seconds 1)) .initial
    let steps (secret : Payload) : List Step :=
      [.makeSigner secret (.text "http://a") (.text "X-Time") (.text "X-Sign")
          (.always (.seconds 1)),
        .apply (.string "http://b/") .absent,
        .append (.text "x-sign") (.string "more")]
    let one := run state (steps (.text "secret"))
    let two := run state (steps (.bytes [1]))
    one.2.map Prod.snd = two.2.map Prod.snd ∧ one.1.telemetry.tally = two.1.telemetry.tally ∧
      one.1.headers.entries.map Prod.fst = two.1.headers.entries.map Prod.fst ∧
      one.1.headers.entries.map (·.2.string?) ≠ two.1.headers.entries.map (·.2.string?) := by
  intro state steps one two
  have hsecret : (Payload.text "secret").SecretAlike (.bytes [1]) :=
    .inr ⟨⟨by decide, by decide⟩, .ok trivial⟩
  have hsteps : List.Forall₂ Step.Alike (steps (.text "secret")) (steps (.bytes [1])) :=
    .cons (.makeSigner hsecret _ _ _ _) (.cons (.refl _) (.cons (.refl _) .nil))
  have halike := run_alike (.refl (.ofFunction Setting.default)) hsteps (.always (.seconds 1))
    .initial
  refine ⟨halike.lines, ?_, ?_, ?_⟩
  · rw [halike.state.telemetry]
  · exact halike.state.headers.map_fst
  · dsimp only [one, two, state, steps]
    decide +kernel

/-- The fault of a secret that cannot be encoded quotes the surrogate in it, and a hook logs
that. -/
theorem run_not_alike_surrogate :
    let state : State := .initial (.ofFunction Setting.default) (.always (.seconds 1)) .initial
    let steps (secret : Payload) : List Step :=
      [.makeSigner secret (.text "") (.text "timestamp") (.text "sign") (.always (.seconds 1)),
        .makeMappedHook ⟨true, .null⟩,
        .callMapped ⟨.string "GET", .string "http://host/", some [], .absent⟩]
    let secret : Text.Irregular := ⟨0xDCE9 :: Text.points "k".toList, by decide⟩
    let other : Text.Irregular := ⟨0xDCEA :: Text.points "k".toList, by decide⟩
    let lines (secret : Text.Irregular) : List String :=
      (run state (steps (.json (.points secret)))).2.flatMap (·.2.map (·.text))
    (Payload.json (.points secret)).isEmpty = false ∧
      (Payload.json (.points other)).isEmpty = false ∧
      (lines secret).length = 1 ∧ (lines other).length = 1 ∧ lines secret ≠ lines other := by
  intro state steps secret other lines
  refine ⟨by decide, by decide, ?_⟩
  dsimp only [lines, state, steps, secret, other]
  decide +kernel

end Session

end SignedHttp
