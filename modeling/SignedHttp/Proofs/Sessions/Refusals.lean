import SignedHttp.Proofs.Sessions.Lines
import SignedHttp.Proofs.Signing.Obstacles

/-!
# What a refused signing leaves

A signing is refused if and only if something stands in its way, with the fault of the first
obstacle, and leaves everything as it was but for the clock (`PlainSigning.refuses`): nothing is
counted, all signers of the session keep their parts, and nothing is logged, except that what is
signed is written, and the secret asked for, behind the warning about an address without the base.
The clock is read once if no time is given and the body has a text, and not at all otherwise, also
where the signing succeeds.

Key definitions: `Session.State.LeftAlone`, `PlainSigning.Refuses`.
Key theorems: `Session.State.leftAlone_signStep`, `PlainSigning.refuses`.
-/

namespace SignedHttp

namespace Session.State

theorem fst_absorb_of_outcomesOf {state : State} {events : List Event}
    (h : outcomesOf events = []) : (state.absorb events).1 = state := by
  change { state with telemetry := (state.telemetry.absorb events).1 } = state
  rw [Telemetry.absorb_fst, h]
  rfl

/-- What a refused signing leaves of a session: the state as it was, where at most the clock of the
signer at a place was read; so all counts and all parts of signers are the same. -/
structure LeftAlone (state : State) (place : Nat) (clock : Clock) (after : State) : Prop where
  moved : after = state.moveClock place clock
  telemetry : after.telemetry = state.telemetry
  signers : after.signers.map (·.signer) = state.signers.map (·.signer)

theorem leftAlone_moveClock (state : State) (place : Nat) (clock : Clock) :
    LeftAlone state place clock (state.moveClock place clock) :=
  ⟨rfl, telemetry_moveClock state place clock, (keeps_moveClock state place clock).signers⟩

/-- A signing that fails and counts nothing leaves the session alone, answers its fault and writes
the lines of its events. -/
theorem leftAlone_signStep {state : State} {place : Nat} {enrolled : Enrolled}
    (hcurrent : state.current? = some (place, enrolled)) {url time : Json} {body : Payload}
    {fault : Fault}
    (hresult : (enrolled.signer.sign (state.clockOf enrolled) url body time).result = .error fault)
    (hcounts :
      outcomesOf (enrolled.signer.sign (state.clockOf enrolled) url body time).events = []) :
    let run := enrolled.signer.sign (state.clockOf enrolled) url body time
    state.LeftAlone place run.clock (state.step (.sign url body time)).1 ∧
      (state.step (.sign url body time)).2 =
        (.failed fault, (state.telemetry.absorb run.events).2) := by
  intro run
  have hstep : state.step (.sign url body time) =
      ((state.settle place run).1, .failed fault, (state.settle place run).2) := by
    rw [step, signStep, withCurrent, hcurrent]
    dsimp only
    rw [hresult]
    rfl
  have hsettle : (state.settle place run).1 = state.moveClock place run.clock :=
    fst_absorb_of_outcomesOf hcounts
  rw [hstep, hsettle]
  exact ⟨leftAlone_moveClock state place run.clock,
    congrArg (Reply.failed fault, ·) (lines_moveClock state place run.clock run.events)⟩

end Session.State

namespace PlainSigning

open Session

variable {plain : PlainSigning}

theorem warning_eq (haddress : ∀ fault, ¬ plain.Meets .address fault) :
    plain.signer.warning plain.signing.url =
      if plain.signing.misses then [.logged (plain.signer.mismatchRecord plain.signing.url)]
      else [] := by
  have hpath : ∃ path, plain.signer.path plain.signing.url = .ok path := by
    cases hstrip : stripBase? (.ofCodes plain.url) (.json (.ofCodes plain.base)) with
    | error fault => exact absurd (meets_address_iff.mpr hstrip) (haddress fault)
    | ok path => exact ⟨path, hstrip⟩
  obtain ⟨path, hpath⟩ := hpath
  have hreaches : plain.signer.reaches plain.signing.url = !plain.signing.misses :=
    @Signing.reaches_eq plain.signing path hpath
  rw [Signer.warning, Signer.outcome, hreaches]
  cases plain.signing.misses with
  | true => rfl
  | false => rfl

/-- How a signing is refused: with the fault of the first obstacle and by no other, with nothing
counted, logged or changed besides the warning, and with the clock read at most once. -/
structure Refuses (plain : PlainSigning) : Prop where
  refused_iff : ∀ fault, plain.signing.run.result = .error fault ↔
    ∃ obstacle, plain.MeetsFirst obstacle fault
  /-- Only the last two obstacles are met behind something that is logged, the warning. -/
  events : ∀ obstacle fault, plain.MeetsFirst obstacle fault →
    plain.signing.run.events =
      if obstacle.isLate ∧ plain.signing.misses = true then
        [.logged (plain.signer.mismatchRecord plain.signing.url)]
      else []
  read : plain.time = none → (∀ fault, ¬ plain.Meets .body fault) →
    plain.signing.run.clock = plain.clock.read.2
  unread : plain.time ≠ none ∨ (∃ fault, plain.Meets .body fault) →
    plain.signing.run.clock = plain.clock
  /-- In every session whose current signer this is, a refused signing leaves all counts and all
  signers alone. -/
  leftAlone : ∀ (state : State) place enrolled, state.current? = some (place, enrolled) →
    enrolled.signer = plain.signer → state.clockOf enrolled = plain.clock →
      ∀ fault, plain.signing.run.result = .error fault →
        let answer := state.step (.sign plain.signing.url plain.body plain.signing.time)
        state.LeftAlone place plain.signing.run.clock answer.1 ∧
          answer.2 = (.failed fault, (state.telemetry.absorb plain.signing.run.events).2)

/-- Signings that could be refused in several ways are refused in a fixed order, and leave
everything alone. -/
theorem refuses (plain : PlainSigning) : plain.Refuses := by
  have hends := plain.ends_run
  have hevents : ∀ obstacle fault, plain.MeetsFirst obstacle fault →
      plain.signing.run.events =
        if obstacle.isLate ∧ plain.signing.misses = true then
          [.logged (plain.signer.mismatchRecord plain.signing.url)]
        else [] := by
    intro obstacle fault hfirst
    rw [hends.events_eq hfirst]
    by_cases hlate : obstacle.isLate = true
    · have haddress : Obstacle.address.rank < obstacle.rank := by
        revert hlate
        cases obstacle <;> decide
      rw [if_pos hlate, warning_eq fun fault => hfirst.first .address haddress fault]
      simp only [hlate, true_and]
    · rw [if_neg hlate, if_neg fun h => hlate h.1]
  refine ⟨hends.error_iff, hevents, fun htime hbody => ?_, fun h => ?_, ?_⟩
  · rw [hends.clock_eq, clockAfter_of_body htime hbody]
  · rw [hends.clock_eq, clockAfter_of_time h]
  · intro state place enrolled hcurrent hsigner hclock fault hresult
    obtain ⟨obstacle, hfirst⟩ := (hends.error_iff fault).mp hresult
    have hcounts : outcomesOf plain.signing.run.events = [] := by
      rw [hevents obstacle fault hfirst]
      split
      · rfl
      · rfl
    have hrun : enrolled.signer.sign (state.clockOf enrolled) plain.signing.url plain.body
        plain.signing.time = plain.signing.run := by
      rw [hsigner, hclock]
      rfl
    rw [← hrun] at hresult hcounts ⊢
    exact State.leftAlone_signStep hcurrent hresult hcounts

/-- A surrogate alone stands in the way of this signing, which is refused behind its warning. -/
theorem refused_for_surrogate :
    let plain : PlainSigning :=
      ⟨.text "k", some (Text.points "http://a".toList), .text "timestamp", .text "sign",
        .always (.seconds 1), some (Text.points "http://b/".toList ++ [0xDCFF]), .absent, none⟩
    (∀ obstacle ≠ Obstacle.surrogate, ∀ fault, ¬ plain.Meets obstacle fault) ∧
      (∃ refusal, plain.signing.run.result = .error (.surrogates refusal)) ∧
      plain.signing.run.events = [.logged (plain.signer.mismatchRecord plain.signing.url)] := by
  intro plain
  have hothers : ∀ obstacle ≠ Obstacle.surrogate, ∀ fault, ¬ plain.Meets obstacle fault := by
    intro obstacle hne fault h
    cases obstacle with
    | body => cases meets_body_iff.mp h
    | clock => cases meets_clock_iff.mp h
    | numeral =>
      obtain ⟨n, hn, hnumeral⟩ := meets_numeral_iff.mp h
      obtain rfl : 1000 = n := Except.ok.inj hn
      cases hnumeral
    | address =>
      have haddress := meets_address_iff.mp h
      rw [Json.ofCodes, Json.ofCodes, stripBase?_of_codes? (Json.codes?_ofPoints _)
        (Payload.codes?_ofPoints _)] at haddress
      cases haddress
    | surrogate => exact hne rfl
    | secret => cases meets_secret_iff.mp h
  let s : Text.Irregular :=
    ⟨Text.points "1000http://b/".toList ++ [0xDCFF], by decide⟩
  have hmeets : plain.Meets .surrogate (.surrogates s.refusal) :=
    .surrogate ⟨1000, .string "", [], rfl, rfl, rfl, by decide⟩
  have hfirst : plain.MeetsFirst .surrogate (.surrogates s.refusal) :=
    ⟨hmeets, fun earlier hrank => hothers earlier fun h => absurd hrank (h ▸ Nat.lt_irrefl _)⟩
  have hmisses : plain.signing.misses = true := by
    decide +kernel
  have hends := plain.ends_run
  refine ⟨hothers, ⟨s.refusal, (hends.error_iff _).mpr ⟨.surrogate, hfirst⟩⟩, ?_⟩
  rw [hends.events_eq hfirst, warning_eq (hothers .address (by decide)), if_pos hmisses]
  rfl

/-- Of a body without a text, a missing address and a secret that is no key the body decides. -/
example (clock : Clock) :
    (PlainSigning.mk (.json (.number 1)) (some [0x2F]) (.text "T") (.text "S") clock none
      (.json (.number 2)) none).signing.run = ⟨.error (.unsignableBody "int"), [], clock⟩ := by
  rw [signing, Signing.run, Signer.sign]
  rfl

end PlainSigning

end SignedHttp
