import Mathlib.Data.List.Infix
import SignedHttp.Proofs.Hooks.Attach
import SignedHttp.Proofs.Sessions.Names
import SignedHttp.Proofs.Tally

/-!
# Metrics are an account of calls

What the metrics show after a run can be told from what was called alone (`Accounted`): signings
that gave signed headers, by themselves or for a hook, are counted under two outcomes, one of them
for those whose address misses the base of the signer; calls of hooks whose signing failed are
counted as errors; and each outcome that was counted has one sample, in the order of the first
counts. This holds of every run of signers that have the names of their fields
(`run_accounted`), whatever else fails in it: a signing is counted before anything is done with it,
and stays counted if that fails.

The outcomes of one call are those of its events (`Call.outcomesOf_events`), and the counts of
several add up (`accounted_foldl`).

Key definitions: `Signing.returns`, `Signing.misses`, `Session.Call.fails`,
`Session.Call.outcomes`, `Session.Accounted`, `Session.Counted`.
Key theorems: `Session.Call.outcomesOf_events`, `Session.accounted_foldl`,
`Session.run_accounted`.
-/

namespace SignedHttp

namespace Signing

variable (signing : Signing)

def returns : Bool :=
  signing.run.result.isOk

/-- Whether the signer has a base that is not empty and does not occur in the address. -/
def misses : Bool :=
  match signing.signer.base.codes?, signing.url.codes? with
  | some base, some url => base ≠ [] && decide (¬ base <:+: url)
  | _, _ => false

def outcome : Outcome :=
  if signing.misses then .prefixMismatch else .signed

variable {signing : Signing}

/-- A signer whose base can be taken off an address reaches it unless it misses the base. -/
theorem reaches_eq {path : Json} (h : signing.signer.path signing.url = .ok path) :
    signing.signer.reaches signing.url = !signing.misses := by
  obtain ⟨signer, clock, url, body, time⟩ := signing
  obtain ⟨_, -, hpath⟩ := exists_of_bind_eq_ok h
  rw [Signer.reaches, misses]
  dsimp only
  rcases cases_of_stripBase? hpath with ⟨hempty, -⟩ | ⟨address, start, haddress, hstart, -⟩
  · rw [hempty, Bool.true_or]
    split
    · rename_i start _ hstart _
      rw [Payload.isEmpty_of_codes? hstart, List.isEmpty_iff] at hempty
      simp [hempty]
    · rfl
  · rw [Payload.isEmpty_of_codes? hstart, findBase_of_codes? haddress hstart, haddress, hstart]
    cases start with
    | nil => rfl
    | cons => simp [← Text.occursIn_iff]

theorem outcome_eq (stages : Signer.Stages signing.signer signing.clock signing.url signing.body
    signing.time) : signing.signer.outcome signing.url = signing.outcome := by
  rw [Signer.outcome, reaches_eq stages.path_eq, outcome]
  cases signing.misses with
  | true => rfl
  | false => rfl

/-- A signing counts its outcome if it gives signed headers, and nothing otherwise. -/
theorem outcomesOf_run (hnames : signing.signer.requireNames = .ok ()) :
    outcomesOf signing.run.events = if signing.returns then [signing.outcome] else [] := by
  rw [returns]
  cases hresult : signing.run.result with
  | error fault => exact (Signer.sign_error hnames hresult).1
  | ok signed =>
    obtain ⟨⟨stages, -⟩, houtcomes, -⟩ := Signer.sign_ok hnames hresult
    rw [← outcome_eq stages]
    exact houtcomes

end Signing

namespace Session

namespace Call

def isHook : Call → Bool
  | .mapped _ _ _ => true
  | .listed _ _ _ _ => true
  | _ => false

/-- Whether the call is one of a hook that cannot sign: it cannot read the body, or what it asks
its signer for fails. -/
def fails : Call → Bool
  | .mapped hook clock request =>
    !(hook.signer.apply clock request.headers request.url request.body).1.result.isOk
  | .listed hook clock request isRead => !(hook.signListed clock request isRead).result.isOk
  | _ => false

/-- What a call counts: the outcome of its signing if that gives signed headers, and an error if it
fails. -/
def outcomes (call : Call) : List Outcome :=
  (call.signing?.toList.filter Signing.returns).map Signing.outcome ++
    if call.fails then [.error] else []

variable {call : Call}

theorem outcomesOf_signing? (hnames : call.signer.requireNames = .ok ()) :
    outcomesOf (call.signing?.elim [] (·.run.events)) =
      (call.signing?.toList.filter Signing.returns).map Signing.outcome := by
  cases h : call.signing? with
  | none => rfl
  | some signing =>
    have hsigning : signing.signer.requireNames = .ok () := signer_of_signing? h ▸ hnames
    change outcomesOf signing.run.events = ([signing].filter Signing.returns).map Signing.outcome
    rw [Signing.outcomesOf_run hsigning]
    cases h : signing.returns with
    | true => simp [h]
    | false => simp [h]

theorem outcomesOf_events (hnames : call.signer.requireNames = .ok ()) :
    outcomesOf call.events = call.outcomes := by
  rw [outcomes, ← outcomesOf_signing? hnames]
  cases call with
  | sign signing => exact (List.append_nil _).symm
  | apply signer clock headers url body =>
    rw [events, Signer.events_apply]
    exact (List.append_nil _).symm
  | mapped hook clock request =>
    rw [signing?, ← Signer.events_apply hook.signer clock request.headers, events,
      Hook.attachMapped, fails]
    generalize hook.signer.apply clock request.headers request.url request.body = applied
    obtain ⟨⟨result, events, clock⟩, headers⟩ := applied
    cases result with
    | error fault => exact outcomesOf_append events _
    | ok signed =>
      dsimp only
      split
      · exact (List.append_nil _).symm
      · exact outcomesOf_append events _
  | listed hook clock request isRead =>
    rw [← events_signListed, events, Hook.attachListed, fails]
    generalize hook.signListed clock request isRead = signed
    obtain ⟨result, events, clock⟩ := signed
    cases result with
    | error fault => exact outcomesOf_append events _
    | ok signed =>
      dsimp only
      split
      · exact (List.append_nil _).symm
      · exact outcomesOf_append events _

end Call

/-! ### Several calls -/

def signings (calls : List Call) : List Signing :=
  calls.filterMap Call.signing?

/-- The outcomes that calls count, in the order of their first counts. -/
def firstCounted (calls : List Call) : List Outcome :=
  (calls.flatMap Call.outcomes).eraseDups

structure Accounted (calls : List Call) (tally : Tally) : Prop where
  /-- Signings that give signed headers are counted, whatever becomes of these. -/
  returned : tally.count .signed + tally.count .prefixMismatch =
    (signings calls).countP Signing.returns
  missed : tally.count .prefixMismatch =
    (signings calls).countP fun signing => signing.returns && signing.misses
  failed : tally.count .error = calls.countP Call.fails
  /-- Samples are those of outcomes that were counted, and show how often they were. -/
  sampled : ∀ outcome n, Tally.sample outcome n ∈ tally.exposition ↔
    1 ≤ n ∧ tally.count outcome = n
  nodup : (firstCounted calls).Nodup
  exposition : tally.exposition = Tally.empty.exposition ++
    (firstCounted calls).map fun outcome => Tally.sample outcome (tally.count outcome)

/-- How often calls count an outcome: once for each signing that has it, and for errors once for
each call that fails. -/
theorem count_outcomes (outcome : Outcome) : ∀ calls : List Call,
    (calls.flatMap Call.outcomes).count outcome =
      (((signings calls).filter Signing.returns).map Signing.outcome).count outcome +
        if outcome = .error then calls.countP Call.fails else 0
  | [] => by simp [signings]
  | call :: calls => by
    have hsignings : signings (call :: calls) = call.signing?.toList ++ signings calls := by
      rw [signings, List.filterMap_cons]
      cases call.signing? with
      | none => rfl
      | some signing => rfl
    have hfailed : (if call.fails then [Outcome.error] else []).count outcome =
        if outcome = .error then (if call.fails then 1 else 0) else 0 := by
      cases call.fails with
      | false => simp
      | true => cases outcome <;> rfl
    rw [List.flatMap_cons, List.count_append, count_outcomes outcome calls, Call.outcomes,
      List.count_append, hfailed, hsignings, List.filter_append, List.map_append,
      List.count_append, List.countP_cons]
    by_cases h : outcome = .error
    · simp only [h, if_true]
      omega
    · simp only [h, if_false]
      omega

theorem count_signed_add_count_prefixMismatch : ∀ signings : List Signing,
    (signings.map Signing.outcome).count .signed +
      (signings.map Signing.outcome).count .prefixMismatch = signings.length
  | [] => rfl
  | signing :: signings => by
    have ih := count_signed_add_count_prefixMismatch signings
    rw [List.map_cons, List.count_cons, List.count_cons, List.length_cons, Signing.outcome]
    cases signing.misses with
    | true =>
      simp only [if_true, reduceCtorEq, beq_iff_eq, if_false]
      omega
    | false =>
      simp only [Bool.false_eq_true, if_true, reduceCtorEq, beq_iff_eq, if_false]
      omega

theorem count_prefixMismatch (signings : List Signing) :
    (signings.map Signing.outcome).count .prefixMismatch = signings.countP Signing.misses := by
  rw [List.count, List.countP_map]
  refine List.countP_congr fun signing _ => ?_
  rw [Function.comp_apply, Signing.outcome]
  cases signing.misses with
  | true => exact iff_of_true rfl rfl
  | false => exact iff_of_false (by decide) (by decide)

theorem count_error (signings : List Signing) :
    (signings.map Signing.outcome).count .error = 0 := by
  refine List.count_eq_zero.mpr fun h => ?_
  obtain ⟨signing, -, houtcome⟩ := List.mem_map.mp h
  rw [Signing.outcome] at houtcome
  split at houtcome
  · cases houtcome
  · cases houtcome

theorem accounted_foldl (calls : List Call) :
    Accounted calls ((calls.flatMap Call.outcomes).foldl Tally.increment .empty) := by
  have hcount : ∀ outcome, ((calls.flatMap Call.outcomes).foldl Tally.increment .empty).count
      outcome = (calls.flatMap Call.outcomes).count outcome := fun outcome => by
    rw [Telemetry.count_foldl_increment]
    exact Nat.zero_add _
  refine ⟨?_, ?_, ?_, fun outcome n => ?_, nodup_eraseDups _, ?_⟩
  · rw [hcount, hcount, count_outcomes, count_outcomes]
    exact (count_signed_add_count_prefixMismatch _).trans List.countP_eq_length_filter.symm
  · rw [hcount, count_outcomes, count_prefixMismatch, List.countP_filter, if_neg (by decide),
      Nat.add_zero]
    exact List.countP_congr fun signing _ => by rw [Bool.and_comm]
  · rw [hcount, count_outcomes, count_error, if_pos rfl, Nat.zero_add]
  · rw [hcount]
    exact Tally.sample_mem_exposition_iff _ outcome n
  · rw [Tally.exposition_foldl_increment, firstCounted]
    simp only [hcount]

/-! ### Runs -/

/-- What a step does to the counts: it takes nothing away, it leaves them as they are if it calls
nothing, and also if it asks a signer itself for a signing that gives no signed headers. -/
structure Counted (call? : Option Call) (before after : Tally) : Prop where
  grows : ∀ outcome, before.count outcome ≤ after.count outcome
  idle : call? = none → after = before
  direct : ∀ call, call? = some call → call.isHook = false →
    (∀ signing, call.signing? = some signing → signing.returns = false) → after = before

theorem outcomesOf_calls : ∀ {calls : List Call},
    (∀ call ∈ calls, call.signer.requireNames = .ok ()) →
      outcomesOf (calls.flatMap Call.events) = calls.flatMap Call.outcomes
  | [], _ => rfl
  | call :: calls, h => by
    obtain ⟨hcall, hcalls⟩ := List.forall_mem_cons.mp h
    rw [List.flatMap_cons, outcomesOf_append, Call.outcomesOf_events hcall,
      outcomesOf_calls hcalls, List.flatMap_cons]

theorem Call.fails_of_not_isHook {call : Call} (h : call.isHook = false) : call.fails = false := by
  cases call with
  | sign => rfl
  | apply => rfl
  | mapped => cases h
  | listed => cases h

namespace State.HasNames

variable {state : State}

theorem counted (h : state.HasNames) (step : Step) :
    Counted (state.call? step) state.telemetry.tally (state.step step).1.telemetry.tally where
  grows outcome := by
    rw [tally_step, Telemetry.count_foldl_increment]
    exact Nat.le_add_right _ _
  idle hcall := by
    rw [tally_step, hcall]
    rfl
  direct call hcall hhook hreturns := by
    have houtcomes : call.outcomes = [] := by
      rw [Call.outcomes, Call.fails_of_not_isHook hhook]
      cases hsigning : call.signing? with
      | none => rfl
      | some signing => simp [hreturns signing hsigning]
    rw [tally_step, hcall]
    change (outcomesOf call.events).foldl Tally.increment _ = _
    rw [Call.outcomesOf_events (h.call? hcall), houtcomes]
    rfl

end State.HasNames

/-- The metrics of a run that starts with nothing counted are an account of its calls, and each of
its steps only adds to them. All signers must have the names of their fields at the start, and no
step may take them away. -/
theorem run_accounted {state : State} {steps : List Step}
    (hempty : state.telemetry.tally = .empty) (hnames : state.HasNames)
    (hsteps : ∀ step ∈ steps, step.KeepsNames) :
    Accounted (state.calls steps) (run state steps).1.telemetry.tally ∧
      ∀ before step after, steps = before ++ step :: after →
        let between := (run state before).1
        Counted (between.call? step) between.telemetry.tally
          (between.step step).1.telemetry.tally := by
  refine ⟨?_, fun before step after hsplit => ?_⟩
  · rw [State.tally_run, hempty, outcomesOf_calls (hnames.calls hsteps)]
    exact accounted_foldl _
  · have hbefore : ∀ step ∈ before, step.KeepsNames := fun step hstep =>
      hsteps step (hsplit ▸ List.mem_append_left _ hstep)
    exact (hnames.run hbefore).counted step

/-- A hook that finds no headers for what it has signed, and a signing that misses the base. -/
theorem run_accounted_missing_headers :
    let state : State :=
      .initial (.ofFunction Setting.default) (.always (.seconds 1)) .initial
    let steps : List Step :=
      [.makeSigner (.text "secret") (.text "http://a") (.text "timestamp") (.text "sign")
          (.always (.seconds 1)),
        .makeMappedHook ⟨true, .null⟩,
        .callMapped ⟨.string "GET", .string "http://a/x", none, .absent⟩,
        .sign (.string "http://b/") .absent .null]
    let tally := (run state steps).1.telemetry.tally
    tally.count .signed + tally.count .prefixMismatch = 2 ∧ tally.count .prefixMismatch = 1 ∧
      tally.count .error = 1 ∧ Tally.sample .error 1 ∈ tally.exposition := by
  intro state steps tally
  have hnames : state.HasNames := fun _ h => by cases h
  have hsteps : ∀ step ∈ steps, step.KeepsNames := by
    simp [steps, Step.KeepsNames]
  obtain ⟨haccount, -⟩ := run_accounted rfl hnames hsteps
  have hreturned : (signings (state.calls steps)).countP Signing.returns = 2 := by
    dsimp only [state, steps]
    decide +kernel
  have hmissed : ((signings (state.calls steps)).countP fun signing =>
      signing.returns && signing.misses) = 1 := by
    dsimp only [state, steps]
    decide +kernel
  have hfailed : tally.count .error = 1 := by
    rw [haccount.failed]
    dsimp only [state, steps]
    decide +kernel
  exact ⟨haccount.returned.trans hreturned, haccount.missed.trans hmissed, hfailed,
    (haccount.sampled .error 1).mpr ⟨Nat.le_refl 1, hfailed⟩⟩

end Session

end SignedHttp
