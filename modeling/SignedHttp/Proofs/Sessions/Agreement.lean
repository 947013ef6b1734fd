import Mathlib.Data.List.Basic
import SignedHttp.Proofs.Sessions.Accounts
import SignedHttp.Proofs.Sessions.Levels
import SignedHttp.Proofs.Signing.Logged

/-!
# Lines and counts agree

What is logged and what is counted are two accounts of the same calls, made by separate events.
They agree if each warning stands for a signing that is counted as one that misses the base, each
line of a signing for one that is counted under the outcome it shows, each line of a failure for
one counted error, and each line of a hook that it passed a request on for an answer that says so
(`Session.Agreed`).

One thing comes between them. The warning is written before the signature is made and the count
after it, and a signature cannot be made where there are surrogates; such a signing is cut short
(`Signing.isCut`). The accounts of a run whose signers have keys, while all levels are written,
differ by the warnings of the signings that are cut short (`Session.run_agreedBut`), so that they
agree if and only if there are none (`Session.run_agreed_iff`).

The events of one call are in step in themselves (`InStep`), since they are made of those of its
signing and of what its hook adds to them. All of their records can be written, so the lines of a
step show just these, and what one step adds to lines and counts is added up along a run
(`AgreedBut.trans`).

Key definitions: `Signing.isCut`, `InStep`, `Session.Call.Ready`, `Session.State.Attentive`,
`Session.AgreedBut`, `Session.Agreed`.
Key theorems: `Session.Call.Ready.inStep`, `Session.State.Attentive.agreed_step`,
`Session.run_agreedBut`, `Session.run_agreed_iff`.
-/

namespace SignedHttp

namespace Log.Record

variable (record : Record)

def result? : Option String :=
  (field? "result" record.fields).bind Json.string?

def warns : Bool :=
  record.logger = Signer.logger && record.level = 30

/-- Whether a record says that a request was signed with this outcome. -/
def tells (outcome : Outcome) : Bool :=
  record.level = 10 && record.message = Text.points "Request signed".toList &&
    record.result? = some outcome.label

def fails : Bool :=
  record.level = errorLevel

/-- Whether a record says that a hook has signed a request that it passes on. -/
def passes : Bool :=
  record.level = 20 && record.message = Text.points "Signed request".toList

theorem countP_warns_of_ne {record : Record} (h : record.level ≠ 30) :
    [record].countP warns = 0 := by
  have hwarns : record.warns = false := by
    rw [warns, decide_eq_false h, Bool.and_false]
  rw [List.countP_singleton, hwarns]
  rfl

end Log.Record

theorem Outcome.forall_ne_error {p : Outcome → Prop} (hsigned : p .signed)
    (hmismatch : p .prefixMismatch) : ∀ outcome, outcome ≠ .error → p outcome
  | .signed, _ => hsigned
  | .prefixMismatch, _ => hmismatch
  | .error, h => absurd rfl h

/-- Whether a signing logs something and then counts nothing. -/
def Signing.isCut (signing : Signing) : Bool :=
  !(recordsOf signing.run.events).isEmpty && (outcomesOf signing.run.events).isEmpty

/-- Events whose records are in step with what they count: warnings with outcomes that miss the
base, but for those that are cut short, records of signings with their outcomes, failures with
errors. This many of them say that a request is passed on. Those of a signing show one result. -/
structure InStep (result : String) (cut passed : Nat) (events : List Event) : Prop where
  warned : (recordsOf events).countP Log.Record.warns =
    (outcomesOf events).count .prefixMismatch + cut
  told : ∀ outcome, outcome ≠ .error →
    (recordsOf events).countP (Log.Record.tells · outcome) = (outcomesOf events).count outcome
  failed : (recordsOf events).countP Log.Record.fails = (outcomesOf events).count .error
  explained : ∀ record ∈ recordsOf events, record.fails = true →
    record.result? = some Outcome.error.label
  passed : (recordsOf events).countP Log.Record.passes = passed
  alike : ∀ record ∈ recordsOf events, record.level = 30 ∨ record.level = 10 →
    record.result? = some result
  fits : ∀ record ∈ recordsOf events, record.Fits ∧ 10 ≤ record.level

namespace InStep

variable {result : String}

theorem nil : InStep result 0 0 [] where
  warned := rfl
  told _ _ := rfl
  failed := rfl
  explained _ h := by cases h
  passed := rfl
  alike _ h := by cases h
  fits _ h := by cases h

theorem append {cut passed more : Nat} {first second : List Event}
    (h : InStep result cut passed first) (h' : InStep result 0 more second) :
    InStep result cut (passed + more) (first ++ second) where
  warned := by
    rw [outcomesOf_append, recordsOf_append, List.countP_append, List.count_append, h.warned,
      h'.warned]
    omega
  told outcome houtcome := by
    rw [outcomesOf_append, recordsOf_append, List.countP_append, List.count_append,
      h.told outcome houtcome, h'.told outcome houtcome]
  failed := by
    rw [outcomesOf_append, recordsOf_append, List.countP_append, List.count_append, h.failed,
      h'.failed]
  explained := by
    rw [recordsOf_append]
    exact List.forall_mem_append.mpr ⟨h.explained, h'.explained⟩
  passed := by rw [recordsOf_append, List.countP_append, h.passed, h'.passed]
  alike := by
    rw [recordsOf_append]
    exact List.forall_mem_append.mpr ⟨h.alike, h'.alike⟩
  fits := by
    rw [recordsOf_append]
    exact List.forall_mem_append.mpr ⟨h.fits, h'.fits⟩

end InStep

theorem Signer.Stages.inStep {signer : Signer} {clock : Clock} {url : Json} {body : Payload}
    {time : Json} (stages : Signer.Stages signer clock url body time) :
    InStep (signer.outcome url).label 0 0 stages.events := by
  rw [events, warning]
  cases houtcome : signer.outcome url with
  | error => exact absurd houtcome (outcome_ne_error signer url)
  | signed =>
    exact {
      warned := rfl
      told := Outcome.forall_ne_error rfl rfl
      failed := rfl
      explained := List.forall_mem_singleton.mpr fun h => by cases h
      passed := rfl
      alike := List.forall_mem_singleton.mpr fun _ => rfl
      fits := List.forall_mem_singleton.mpr ⟨stages.fits_signedRecord .signed, Int.le_refl 10⟩ }
  | prefixMismatch =>
    let told := signedRecord url stages.path stages.timestamp .prefixMismatch
    have hrecords : ∀ {p : Log.Record → Prop}, p (signer.mismatchRecord url) → p told →
        ∀ record ∈ [signer.mismatchRecord url, told], p record := fun h h' =>
      List.forall_mem_cons.mpr ⟨h, List.forall_mem_singleton.mpr h'⟩
    exact {
      warned := rfl
      told := Outcome.forall_ne_error rfl rfl
      failed := rfl
      explained := hrecords (fun h => by cases h) fun h => by cases h
      passed := rfl
      alike := hrecords (fun _ => rfl) fun _ => rfl
      fits := hrecords ⟨signer.fits_mismatchRecord stages.holdsLongNumeral_url,
          show (10 : Int) ≤ 30 by decide⟩
        ⟨stages.fits_signedRecord .prefixMismatch, Int.le_refl 10⟩ }

/-- A warning that nothing is counted behind is out of step. -/
theorem Signer.inStep_warning {signer : Signer} {url : Json}
    (hurl : url.holdsLongNumeral = false) :
    InStep (signer.outcome url).label (recordsOf (signer.warning url)).length 0
      (signer.warning url) := by
  rw [warning]
  cases houtcome : signer.outcome url with
  | error => exact .nil
  | signed => exact .nil
  | prefixMismatch =>
    exact {
      warned := rfl
      told := Outcome.forall_ne_error rfl rfl
      failed := rfl
      explained := List.forall_mem_singleton.mpr fun h => by cases h
      passed := rfl
      alike := List.forall_mem_singleton.mpr fun _ => rfl
      fits := List.forall_mem_singleton.mpr
        ⟨signer.fits_mismatchRecord hurl, show (10 : Int) ≤ 30 by decide⟩ }

theorem Signer.Stages.outcomesOf_events {signer : Signer} {clock : Clock} {url : Json}
    {body : Payload} {time : Json} (stages : Signer.Stages signer clock url body time) :
    outcomesOf stages.events = [signer.outcome url] := by
  rw [events, outcomesOf_append, outcomesOf_warning]
  rfl

/-- What a signer with a key logs and counts is in step, unless the signing is cut short. -/
theorem Signing.inStep {signing : Signing} (hkey : signing.signer.HasKey) :
    InStep (signing.signer.outcome signing.url).label signing.isCut.toNat 0
      signing.run.events := by
  rw [isCut]
  rcases Signer.sign_logged hkey signing.clock signing.url signing.body signing.time with
    ⟨-, hevents⟩ | ⟨-, hevents, hurl, -⟩ | ⟨stages, -, hevents⟩
  · rw [run, hevents]
    exact .nil
  · have hcut : (!(recordsOf (signing.signer.warning signing.url)).isEmpty &&
        (outcomesOf (signing.signer.warning signing.url)).isEmpty).toNat =
        (recordsOf (signing.signer.warning signing.url)).length := by
      rw [Signer.warning]
      split
      · rfl
      · rfl
    rw [run, hevents, hcut]
    exact Signer.inStep_warning hurl
  · rw [run, hevents, stages.outcomesOf_events, List.isEmpty_cons, Bool.and_false]
    exact stages.inStep

theorem Signing.holdsSurrogates_of_isCut {signing : Signing} (hkey : signing.signer.HasKey)
    (h : signing.isCut = true) :
    signing.signer.HoldsSurrogates signing.url signing.body signing.time := by
  rw [isCut] at h
  rcases Signer.sign_logged hkey signing.clock signing.url signing.body signing.time with
    ⟨-, hevents⟩ | ⟨-, -, -, hholds⟩ | ⟨stages, -, hevents⟩
  · rw [run, hevents] at h
    cases h
  · exact hholds
  · rw [run, hevents, stages.outcomesOf_events, List.isEmpty_cons, Bool.and_false] at h
    cases h

namespace Hook

theorem fits_failureRecord (logger : String) {method url : Json} (fault : Fault)
    (hmethod : method.holdsLongNumeral = false) (hurl : url.holdsLongNumeral = false) :
    (failureRecord logger method url fault).Fits where
  level := ⟨"ERROR", rfl⟩
  fields := holdsLongNumeral_of_mem_failureRecord logger hmethod hurl fault

theorem inStep_failureEvents (result logger : String) {method url : Json} (fault : Fault)
    (hmethod : method.holdsLongNumeral = false) (hurl : url.holdsLongNumeral = false) :
    InStep result 0 0 (failureEvents logger method url fault) where
  warned := Log.Record.countP_warns_of_ne (show (40 : Int) ≠ 30 by decide)
  told := Outcome.forall_ne_error rfl rfl
  failed := rfl
  explained := List.forall_mem_singleton.mpr fun _ => rfl
  passed := rfl
  alike := List.forall_mem_singleton.mpr fun h =>
    absurd h (show ¬ ((40 : Int) = 30 ∨ (40 : Int) = 10) by decide)
  fits := List.forall_mem_singleton.mpr
    ⟨fits_failureRecord logger fault hmethod hurl, show (10 : Int) ≤ 40 by decide⟩

theorem inStep_successEvent (result logger : String) {method : Json} {signed : SignedHeaders}
    (hmethod : method.holdsLongNumeral = false) (hpath : signed.path.holdsLongNumeral = false) :
    InStep result 0 1 [successEvent logger method signed] where
  warned := Log.Record.countP_warns_of_ne (show (20 : Int) ≠ 30 by decide)
  told := Outcome.forall_ne_error rfl rfl
  failed := rfl
  explained := List.forall_mem_singleton.mpr fun h => by cases h
  passed := rfl
  alike := List.forall_mem_singleton.mpr fun h =>
    absurd h (show ¬ ((20 : Int) = 30 ∨ (20 : Int) = 10) by decide)
  fits := by
    have hfields : ∀ field ∈ [("method", method), ("path", signed.path),
        ("timestamp", .string signed.timestamp)], field.2.holdsLongNumeral = false := by
      simp only [List.forall_mem_cons, List.not_mem_nil, false_implies, implies_true, and_true]
      exact ⟨hmethod, hpath, Json.holdsLongNumeral_string _⟩
    exact List.forall_mem_singleton.mpr ⟨⟨⟨"INFO", rfl⟩, hfields⟩, show (10 : Int) ≤ 20 by decide⟩

/-- The path that a hook for listed headers signs can be written if its signer has a key. -/
theorem holdsLongNumeral_path {hook : Hook} {clock : Clock} {request : ListedRequest}
    {isRead : Bool} (hkey : hook.signer.HasKey) {signed : SignedHeaders}
    (h : (hook.signListed clock request isRead).result = .ok signed) :
    signed.path.holdsLongNumeral = false := by
  rw [signListed] at h
  split at h
  · cases h
  · exact Signer.holdsLongNumeral_path hkey h

end Hook

namespace Session

namespace Call

/-- Whether no number in what a hook says of a request that it cannot sign is too long. -/
def isWritable : Call → Bool
  | .mapped _ _ request => !request.method.holdsLongNumeral && !request.url.holdsLongNumeral
  | _ => true

/-- Whether a call can be told of in full: its signer has a key, and what its hook says can be
written. -/
structure Ready (call : Call) : Prop where
  hasKey : call.signer.HasKey
  writable : call.isWritable = true

instance (call : Call) : Decidable call.Ready :=
  decidable_of_iff (call.signer.HasKey ∧ call.isWritable = true)
    ⟨fun h => ⟨h.1, h.2⟩, fun h => ⟨h.hasKey, h.writable⟩⟩

def result (call : Call) : String :=
  call.signing?.elim "" fun signing => (signing.signer.outcome signing.url).label

def isCut (call : Call) : Bool :=
  call.signing?.any Signing.isCut

/-- Whether surrogates stand in what a call is to sign, or in the secret of its signer. -/
def HoldsSurrogates (call : Call) : Prop :=
  ∃ signing, call.signing? = some signing ∧
    signing.signer.HoldsSurrogates signing.url signing.body signing.time

theorem holdsSurrogates_of_isCut {call : Call} (hkey : call.signer.HasKey)
    (h : call.isCut = true) : call.HoldsSurrogates := by
  rw [isCut] at h
  cases hsigning : call.signing? with
  | none =>
    rw [hsigning] at h
    cases h
  | some signing =>
    rw [hsigning] at h
    exact ⟨signing, hsigning,
      Signing.holdsSurrogates_of_isCut (signer_of_signing? hsigning ▸ hkey) h⟩

theorem inStep_signing? {call : Call} (hkey : call.signer.HasKey) :
    InStep call.result call.isCut.toNat 0 (call.signing?.elim [] (·.run.events)) := by
  rw [result, isCut]
  cases h : call.signing? with
  | none => exact .nil
  | some signing => exact Signing.inStep (signer_of_signing? h ▸ hkey)

theorem Ready.inStep {call : Call} (h : call.Ready) :
    InStep call.result call.isCut.toNat call.passes.toNat call.events := by
  have hsigning := inStep_signing? h.hasKey
  cases call with
  | sign signing => exact hsigning
  | apply signer clock headers url body =>
    rw [events, Signer.events_apply]
    exact hsigning
  | mapped hook clock request =>
    have hwritable := h.writable
    rw [isWritable, Bool.and_eq_true, Bool.not_eq_true', Bool.not_eq_true'] at hwritable
    obtain ⟨hmethod, hurl⟩ := hwritable
    have hpath : ∀ signed,
        (hook.signer.apply clock request.headers request.url request.body).1.result = .ok signed →
          signed.path.holdsLongNumeral = false := fun _ happly =>
      Signer.holdsLongNumeral_path h.hasKey (Signer.sign_of_apply happly)
    rw [signing?, ← Signer.events_apply hook.signer clock request.headers] at hsigning
    rw [events, passes, Hook.attachMapped]
    generalize hook.signer.apply clock request.headers request.url request.body = applied at *
    obtain ⟨⟨result, events, clock⟩, headers⟩ := applied
    cases result with
    | error fault =>
      exact hsigning.append (Hook.inStep_failureEvents _ Hook.mappedLogger fault hmethod hurl)
    | ok signed =>
      have hpath := hpath signed rfl
      dsimp only
      generalize Headers.addAll headers hook.keyFields = added
      obtain ⟨headers, refusal⟩ := added
      cases refusal with
      | some fault => exact hsigning
      | none =>
        exact hsigning.append (Hook.inStep_successEvent _ Hook.mappedLogger hmethod hpath)
  | listed hook clock request isRead =>
    have hmethod := Json.holdsLongNumeral_string request.method
    have hurl := Json.holdsLongNumeral_string request.url.text
    rw [← events_signListed] at hsigning
    rw [events, passes, Hook.attachListed]
    cases hresult : (hook.signListed clock request isRead).result with
    | error fault =>
      exact hsigning.append (Hook.inStep_failureEvents _ Hook.listedLogger fault hmethod hurl)
    | ok signed =>
      have hpath := Hook.holdsLongNumeral_path h.hasKey hresult
      dsimp only
      cases hook.sentFields request.fields signed with
      | error fault => exact hsigning
      | ok fields =>
        exact hsigning.append (Hook.inStep_successEvent _ Hook.listedLogger hmethod hpath)

end Call

/-! ### Lines and counts -/

def linesOf (answers : List (Reply × List Line)) : List Line :=
  answers.flatMap Prod.snd

/-- Answers with lines that agree with what is counted from one tally to another, but for this many
warnings that nothing is counted behind. -/
structure AgreedBut (cut : Nat) (before after : Tally) (answers : List (Reply × List Line)) :
    Prop where
  /-- Each other warning stands for one signing that misses the base. -/
  warned : before.count .prefixMismatch + (linesOf answers).countP (·.record.warns) =
    after.count .prefixMismatch + cut
  /-- Each line of a signing stands for one with the outcome that it shows. -/
  told : ∀ outcome, outcome ≠ .error →
    before.count outcome + (linesOf answers).countP (·.record.tells outcome) = after.count outcome
  /-- Each line of a failure stands for one error, and shows that. -/
  failed : before.count .error + (linesOf answers).countP (·.record.fails) = after.count .error
  explained : ∀ line ∈ linesOf answers, line.record.fails = true →
    line.record.result? = some Outcome.error.label
  /-- Each line of a hook that passes a request on stands for one answer that says so. -/
  passed : (linesOf answers).countP (·.record.passes) = answers.countP (·.1.isPassed)
  /-- The warning and the line of one signing go together. -/
  paired : cut = 0 → ∀ answer ∈ answers,
    answer.2.countP (·.record.warns) = answer.2.countP (·.record.tells .prefixMismatch)
  /-- They show one result. -/
  alike : ∀ answer ∈ answers, ∀ line ∈ answer.2, ∀ other ∈ answer.2, line.record.level = 30 →
    other.record.level = 10 → line.record.result? = other.record.result?
  /-- Each line is the text of what it is said to show. -/
  shown : ∀ line ∈ linesOf answers, ∃ instant, line.record.line instant = .ok line.text

abbrev Agreed : Tally → Tally → List (Reply × List Line) → Prop :=
  AgreedBut 0

namespace AgreedBut

theorem nil (tally : Tally) : AgreedBut 0 tally tally [] where
  warned := rfl
  told _ _ := rfl
  failed := rfl
  explained _ h := by cases h
  passed := rfl
  paired _ _ h := by cases h
  alike _ h := by cases h
  shown _ h := by cases h

/-- What two parts of a run write and count adds up. -/
theorem trans {cut more : Nat} {before between after : Tally}
    {first second : List (Reply × List Line)} (h : AgreedBut cut before between first)
    (h' : AgreedBut more between after second) :
    AgreedBut (cut + more) before after (first ++ second) := by
  have hlines : linesOf (first ++ second) = linesOf first ++ linesOf second :=
    List.flatMap_append
  have hcount : ∀ p : Line → Bool, (linesOf (first ++ second)).countP p =
      (linesOf first).countP p + (linesOf second).countP p := fun p => by
    rw [hlines, List.countP_append]
  exact {
    warned := by
      have hfirst := h.warned
      have hsecond := h'.warned
      rw [hcount]
      omega
    told := fun outcome houtcome => by
      rw [hcount, ← Nat.add_assoc, h.told outcome houtcome, h'.told outcome houtcome]
    failed := by rw [hcount, ← Nat.add_assoc, h.failed, h'.failed]
    explained := by
      rw [hlines]
      exact List.forall_mem_append.mpr ⟨h.explained, h'.explained⟩
    passed := by rw [hcount, List.countP_append, h.passed, h'.passed]
    paired := fun hnone => List.forall_mem_append.mpr
      ⟨h.paired (Nat.eq_zero_of_add_eq_zero_right hnone),
        h'.paired (Nat.eq_zero_of_add_eq_zero_left hnone)⟩
    alike := List.forall_mem_append.mpr ⟨h.alike, h'.alike⟩
    shown := by
      rw [hlines]
      exact List.forall_mem_append.mpr ⟨h.shown, h'.shown⟩ }

theorem of_inStep {result : String} {cut : Nat} {events : List Event} {reply : Reply}
    {lines : List Line} (h : InStep result cut reply.isPassed.toNat events)
    (hlines : lines.map (·.record) = recordsOf events)
    (hshown : ∀ line ∈ lines, ∃ instant, line.record.line instant = .ok line.text) (tally : Tally) :
    AgreedBut cut tally ((outcomesOf events).foldl Tally.increment tally) [(reply, lines)] := by
  have hall : linesOf [(reply, lines)] = lines := List.append_nil lines
  have hcount : ∀ p : Log.Record → Bool, lines.countP (fun line => p line.record) =
      (recordsOf events).countP p := fun p => by
    rw [← hlines, List.countP_map]
    rfl
  have hmem : ∀ line ∈ lines, line.record ∈ recordsOf events := fun line hline =>
    hlines ▸ List.mem_map_of_mem hline
  exact {
    warned := by
      rw [hall, hcount Log.Record.warns, h.warned, Telemetry.count_foldl_increment, Nat.add_assoc]
    told := fun outcome houtcome => by
      rw [hall, hcount (Log.Record.tells · outcome), h.told outcome houtcome,
        Telemetry.count_foldl_increment]
    failed := by
      rw [hall, hcount Log.Record.fails, h.failed, Telemetry.count_foldl_increment]
    explained := by
      rw [hall]
      exact fun line hline => h.explained line.record (hmem line hline)
    passed := by
      rw [hall, hcount Log.Record.passes, h.passed]
      rw [List.countP_singleton]
      cases reply.isPassed with
      | false => rfl
      | true => rfl
    paired := fun hnone => List.forall_mem_singleton.mpr (by
      rw [hcount Log.Record.warns, hcount (Log.Record.tells · .prefixMismatch), h.warned,
        h.told _ (by decide), hnone, Nat.add_zero])
    alike := List.forall_mem_singleton.mpr fun line hline other hother hwarning htold => by
      rw [h.alike _ (hmem line hline) (.inl hwarning), h.alike _ (hmem other hother) (.inr htold)]
    shown := by rwa [hall] }

end AgreedBut

/-! ### Steps -/

/-- Whether a step leaves the log's clock at a date. -/
def Step.KeepsDate : Step → Prop
  | .setInstant instant => Moment.firstInstant ≤ instant ∧ instant ≤ Moment.lastInstant
  | _ => True

/-- Whether a session writes all that its signers and hooks log: its level is that of the details of
signing, and its log's clock stands at a date. -/
structure State.Attentive (state : State) : Prop where
  levels : state.telemetry.levels = Log.Levels.both 10
  first : Moment.firstInstant ≤ state.telemetry.instant
  last : state.telemetry.instant ≤ Moment.lastInstant

namespace State

variable (state : State)

theorem Effect.instant {state after : State} {step : Step} (h : state.Effect step after)
    (hclock : ∀ instant, step ≠ .setInstant instant) :
    after.telemetry.instant = state.telemetry.instant := by
  cases h with
  | setInstant instant => exact absurd rfl (hclock instant)
  | readTime => exact congrArg Telemetry.instant (telemetry_moveClock ..)
  | signs _ place clock =>
    change ((state.moveClock place clock).absorb _).1.telemetry.instant = _
    rw [telemetry_absorb_moveClock]
  | hookOfGiven =>
    rw [telemetry_withHook]
    rfl
  | hookOfDefault =>
    rw [telemetry_withHook]
    rfl
  | _ => rfl

theorem instant_step {step : Step} (hclock : ∀ instant, step ≠ .setInstant instant) :
    (state.step step).1.telemetry.instant = state.telemetry.instant :=
  (effect_step state step).instant hclock

namespace Attentive

variable {state : State}

theorem step (h : state.Attentive) {step : Step} (hstep : step.IgnoresLevels)
    (hdate : step.KeepsDate) : (state.step step).1.Attentive := by
  have hlevels : (state.step step).1.telemetry.levels = Log.Levels.both 10 := by
    rw [← h.levels]
    exact congrArg (·.1.telemetry.levels) (step_configured state state.telemetry.levels hstep)
  by_cases hclock : ∃ instant, step = .setInstant instant
  · obtain ⟨instant, rfl⟩ := hclock
    exact ⟨hlevels, hdate.1, hdate.2⟩
  · have hinstant := instant_step state fun instant h => hclock ⟨instant, h⟩
    exact ⟨hlevels, hinstant ▸ h.first, hinstant ▸ h.last⟩

theorem records_absorb (h : state.Attentive) {events : List Event}
    (hfits : ∀ record ∈ recordsOf events, record.Fits ∧ 10 ≤ record.level) :
    (state.absorb events).2.map (·.record) = recordsOf events := by
  change (state.telemetry.absorb events).2.map _ = _
  rw [Telemetry.lines_absorb, List.map_flatMap]
  have hwrite : ∀ record ∈ recordsOf events,
      (state.telemetry.write record).map (·.record) = [record] := fun record hrecord => by
    obtain ⟨hrecordFits, hlevel⟩ := hfits record hrecord
    obtain ⟨text, htext⟩ := hrecordFits.exists_line h.first h.last
    have hadmits : state.telemetry.levels.admits record.level = true := by
      rw [h.levels, Log.Levels.admits_both]
      exact decide_eq_true hlevel
    rw [Telemetry.write, if_pos hadmits, htext]
    rfl
  rw [List.flatMap_congr hwrite, List.flatMap_singleton']

/-- What a step writes agrees with what it counts, if what it calls is ready, but for a signing that
is cut short. -/
theorem agreed_step (h : state.Attentive) {step : Step} (hstep : step.IgnoresLevels)
    (hcall : ∀ call, state.call? step = some call → call.Ready) :
    AgreedBut ((state.call? step).toList.countP Call.isCut) state.telemetry.tally
      (state.step step).1.telemetry.tally [(state.step step).2] := by
  have hinStep : ∃ result, InStep result ((state.call? step).toList.countP Call.isCut)
      (state.step step).2.1.isPassed.toNat (state.events step) := by
    rw [isPassed_step state hstep, events]
    cases hfound : state.call? step with
    | none => exact ⟨"", .nil⟩
    | some call =>
      refine ⟨call.result, ?_⟩
      have hcut : [call].countP Call.isCut = call.isCut.toNat := by
        rw [List.countP_singleton]
        cases call.isCut <;> rfl
      rw [Option.toList_some, hcut]
      exact (hcall call hfound).inStep
  obtain ⟨result, hinStep⟩ := hinStep
  have hlines := lines_step state hstep
  rw [tally_step]
  refine AgreedBut.of_inStep hinStep ?_ (fun line hline => ⟨state.telemetry.instant, ?_⟩) _
  · rw [hlines, h.records_absorb hinStep.fits]
  · rw [hlines] at hline
    exact Telemetry.line_of_mem_absorb hline

end Attentive

end State

/-! ### Runs -/

theorem run_agreedBut : ∀ {steps : List Step} {state : State}, state.Attentive →
    (∀ step ∈ steps, step.IgnoresLevels ∧ step.KeepsDate) →
    (∀ call ∈ state.calls steps, call.Ready) →
      AgreedBut ((state.calls steps).countP Call.isCut) state.telemetry.tally
        (run state steps).1.telemetry.tally (run state steps).2
  | [], state, _, _, _ => .nil state.telemetry.tally
  | step :: steps, state, h, hsteps, hcalls => by
    obtain ⟨⟨hstep, hdate⟩, hrest⟩ := List.forall_mem_cons.mp hsteps
    rw [State.calls] at hcalls ⊢
    have hfirst := h.agreed_step hstep fun call hcall =>
      hcalls call (List.mem_append_left _ (Option.mem_toList.mpr hcall))
    have hlast := run_agreedBut (h.step hstep hdate) hrest fun call hcall =>
      hcalls call (List.mem_append_right _ hcall)
    rw [List.countP_append]
    exact hfirst.trans hlast

/-- Lines and counts of a run agree if and only if no signing is cut short, which takes a surrogate
in what is to be signed or in the secret: then there is one warning for each outcome that misses
the base, one line of a signing for each of the two outcomes of a signing, one line of a failure
for each error, and one line of a hook for each answer that a request was passed on. All signers
that are called must have a secret that is a string or bytes, and no step may configure logging
again or set its clock to no date. -/
theorem run_agreed_iff {steps : List Step} {state : State} (h : state.Attentive)
    (hsteps : ∀ step ∈ steps, step.IgnoresLevels ∧ step.KeepsDate)
    (hcalls : ∀ call ∈ state.calls steps, call.Ready) :
    (Agreed state.telemetry.tally (run state steps).1.telemetry.tally (run state steps).2 ↔
      ∀ call ∈ state.calls steps, call.isCut = false) ∧
    ∀ call ∈ state.calls steps, call.isCut = true → call.HoldsSurrogates := by
  have hagreed := run_agreedBut h hsteps hcalls
  have hnone : (state.calls steps).countP Call.isCut = 0 ↔
      ∀ call ∈ state.calls steps, call.isCut = false := by
    rw [List.countP_eq_zero]
    simp only [Bool.not_eq_true]
  refine ⟨?_, fun call hcall => Call.holdsSurrogates_of_isCut (hcalls call hcall).hasKey⟩
  rw [← hnone]
  constructor
  · intro hall
    have hboth := hall.warned.symm.trans hagreed.warned
    omega
  · intro hzero
    rw [hzero] at hagreed
    exact hagreed

/-- A hook that passes a request on with a warning, then finds no headers for what it has signed,
and then cannot sign a body. -/
theorem run_agreed_iff_missing_headers :
    let state : State :=
      (run (.initial (.ofFunction Setting.default) (.always (.seconds 1)) .initial)
        [.makeSigner (.text "secret") (.text "http://a") (.text "timestamp") (.text "sign")
            (.always (.seconds 1)),
          .makeMappedHook ⟨true, .null⟩,
          .configure (.text "debug")]).1
    let steps : List Step :=
      [.callMapped ⟨.string "GET", .string "http://b/", some [], .absent⟩,
        .callMapped ⟨.string "GET", .string "http://a/", none, .absent⟩,
        .callMapped ⟨.string "GET", .string "http://a/", some [], .stream []⟩,
        .sign (.string "http://a/") (.bytes [0xff]) .null]
    let lines := linesOf (run state steps).2
    lines.countP (·.record.warns) = 1 ∧ lines.countP (·.record.tells .signed) = 1 ∧
      lines.countP (·.record.tells .prefixMismatch) = 1 ∧ lines.countP (·.record.fails) = 2 ∧
      lines.countP (·.record.passes) = 1 := by
  intro state steps lines
  have hattentive : state.Attentive := by
    refine ⟨?_, ?_, ?_⟩
    all_goals
      dsimp only [state]
      decide +kernel
  have hsteps : ∀ step ∈ steps, step.IgnoresLevels ∧ step.KeepsDate := by
    simp [steps, Step.IgnoresLevels, Step.KeepsDate]
  have hcalls : ∀ call ∈ state.calls steps, call.Ready := by
    dsimp only [state, steps]
    decide +kernel
  have hwhole : ∀ call ∈ state.calls steps, call.isCut = false := by
    dsimp only [state, steps]
    decide +kernel
  have hagreed := (run_agreed_iff hattentive hsteps hcalls).1.mpr hwhole
  have hcounts : state.telemetry.tally = .empty ∧ (run state steps).1.telemetry.tally =
      ⟨[(.prefixMismatch, 1), (.signed, 1), (.error, 2)]⟩ := by
    dsimp only [state, steps]
    decide +kernel
  obtain ⟨hbefore, hafter⟩ := hcounts
  rw [hbefore, hafter] at hagreed
  have hpassed : (run state steps).2.countP (·.1.isPassed) = 1 := by
    dsimp only [state, steps]
    decide +kernel
  refine ⟨?_, ?_, ?_, ?_, hagreed.passed.trans hpassed⟩
  · exact (Nat.zero_add _).symm.trans hagreed.warned
  · exact (Nat.zero_add _).symm.trans (hagreed.told .signed (by decide))
  · exact (Nat.zero_add _).symm.trans (hagreed.told .prefixMismatch (by decide))
  · exact (Nat.zero_add _).symm.trans hagreed.failed

/-- A signing of an address with a surrogate, which is cut short. -/
theorem run_not_agreed_surrogate :
    let state : State :=
      (run (.initial (.ofFunction Setting.default) (.always (.seconds 1)) .initial)
        [.makeSigner (.text "k") (.text "http://a") (.text "timestamp") (.text "sign")
            (.always (.seconds 1)),
          .configure (.text "debug")]).1
    let address : Text.Irregular := ⟨Text.points "http://b/".toList ++ [0xDCFF], by decide⟩
    let steps : List Step := [.sign (.points address) .absent .null]
    let after := run state steps
    state.Attentive ∧ (∀ call ∈ state.calls steps, call.Ready) ∧
      (linesOf after.2).countP (·.record.warns) = 1 ∧
      state.telemetry.tally = .empty ∧ after.1.telemetry.tally = .empty ∧
      ¬ Agreed state.telemetry.tally after.1.telemetry.tally after.2 := by
  intro state address steps after
  have hattentive : state.Attentive := by
    refine ⟨?_, ?_, ?_⟩
    all_goals
      dsimp only [state]
      decide +kernel
  have hcalls : ∀ call ∈ state.calls steps, call.Ready := by
    dsimp only [state, steps, address]
    decide +kernel
  have hwarned : (linesOf after.2).countP (·.record.warns) = 1 := by
    dsimp only [after, state, steps, address]
    decide +kernel
  have hbefore : state.telemetry.tally = .empty := by
    dsimp only [state]
    decide +kernel
  have hafter : after.1.telemetry.tally = .empty := by
    dsimp only [after, state, steps, address]
    decide +kernel
  refine ⟨hattentive, hcalls, hwarned, hbefore, hafter, fun h => ?_⟩
  have hcounted := h.warned
  rw [hwarned, hbefore, hafter] at hcounted
  exact absurd hcounted (by decide)

end Session

end SignedHttp
