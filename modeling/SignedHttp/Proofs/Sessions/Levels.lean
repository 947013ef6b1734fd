import SignedHttp.Proofs.Sessions.Lines

/-!
# Levels filter lines

The package's logger and its handler are configured at one level, and the two thresholds come to
one: a record is written if it reaches this level, or that of the root logger if the level is zero
(`Log.Levels.admits_both`). A higher level thus writes, of the lines that a lower one writes, those
that reach it (`Telemetry.lines_absorb_both`). Nothing else depends on the levels, in no step
(`Session.State.step_configured`) and so in no run: two runs that start at different levels go
through states that differ in the levels only, and answer the same (`Session.run_both`).

Key definitions: `Log.Levels.both`, `Log.Levels.threshold`, `linesFrom`, `Session.Filtered`.
Key theorems: `Log.Levels.admits_both`, `Telemetry.lines_absorb_both`, `Session.run_filtered`.
-/

namespace SignedHttp

namespace Log.Levels

def both (level : Nat) : Levels :=
  ⟨level, level⟩

/-- The least level that is written when logger and handler are at this level. -/
def threshold (level : Nat) : Nat :=
  if level = 0 then rootLevel else level

theorem threshold_of_pos {level : Nat} (h : 0 < level) : threshold level = level :=
  if_neg (Nat.pos_iff_ne_zero.mp h)

theorem le_threshold (level : Nat) : level ≤ threshold level := by
  rw [threshold]
  split
  · omega
  · exact Nat.le_refl level

/-- What the logger and the handler let through is decided by one threshold. -/
theorem admits_both (level : Nat) (n : Int) :
    (both level).admits n = decide (.ofNat (threshold level) ≤ n) := by
  have hhandler : Int.ofNat (threshold level) ≤ n → Int.ofNat level ≤ n := fun h =>
    Int.le_trans (Int.ofNat_le.mpr (le_threshold level)) h
  change (decide (Int.ofNat (threshold level) ≤ n) && decide (Int.ofNat level ≤ n)) = _
  rw [Bool.eq_iff_iff, Bool.and_eq_true, decide_eq_true_iff, decide_eq_true_iff,
    and_iff_left_of_imp hhandler]

end Log.Levels

open Log.Levels (both threshold)

/-- The lines that show records of a level or a higher one. -/
def linesFrom (least : Int) (lines : List Line) : List Line :=
  lines.filter fun line => least ≤ line.record.level

theorem linesFrom_eq_self {least : Int} {lines : List Line}
    (h : ∀ line ∈ lines, least ≤ line.record.level) : linesFrom least lines = lines :=
  List.filter_eq_self.mpr fun line hline => decide_eq_true (h line hline)

namespace Telemetry

variable (telemetry : Telemetry)

def leveled (level : Nat) : Telemetry :=
  { telemetry with levels := both level }

theorem write_leveled (level : Nat) (record : Log.Record) :
    (telemetry.leveled level).write record =
      if .ofNat (threshold level) ≤ record.level then
        match record.line telemetry.instant with
        | .ok text => [⟨record, text⟩]
        | .error _ => []
      else [] := by
  change (if (both level).admits record.level then _ else _) = _
  rw [Log.Levels.admits_both]
  simp only [decide_eq_true_eq]
  rfl

/-- A record has, at the higher of two levels, those of its lines at the lower one that reach it. -/
theorem write_both {lower upper : Nat} (h : threshold lower ≤ threshold upper)
    (record : Log.Record) :
    (telemetry.leveled upper).write record =
      linesFrom (threshold upper) ((telemetry.leveled lower).write record) := by
  by_cases hreaches : Int.ofNat (threshold upper) ≤ record.level
  · have hlower : Int.ofNat (threshold lower) ≤ record.level :=
      Int.le_trans (Int.ofNat_le.mpr h) hreaches
    rw [linesFrom_eq_self fun line hline => record_of_mem_write hline ▸ hreaches, write_leveled,
      write_leveled, if_pos hreaches, if_pos hlower]
  · have hnone : linesFrom (threshold upper) ((telemetry.leveled lower).write record) = [] :=
      List.filter_eq_nil_iff.mpr fun line hline => by
        rw [record_of_mem_write hline, decide_eq_true_iff]
        exact hreaches
    rw [hnone, write_leveled, if_neg hreaches]

theorem lines_absorb_both {lower upper : Nat} (h : threshold lower ≤ threshold upper)
    (events : List Event) :
    ((telemetry.leveled upper).absorb events).2 =
      linesFrom (threshold upper) ((telemetry.leveled lower).absorb events).2 := by
  rw [lines_absorb, lines_absorb, linesFrom, List.filter_flatMap]
  exact congrArg (List.flatMap · (recordsOf events)) (funext (write_both telemetry h))

end Telemetry

namespace Session

/-- What a run that writes only the lines from a level on has in common with one that writes them
all: it leads to the same state, but for the levels, its steps answer the same, and each writes
those of its lines that reach the level, in their order. -/
structure Filtered (least : Int) (all some : State × List (Reply × List Line)) : Prop where
  state : some.1 = all.1.configured some.1.telemetry.levels
  replies : some.2.map Prod.fst = all.2.map Prod.fst
  lines : some.2.map Prod.snd = all.2.map fun answer => linesFrom least answer.2

theorem fst_run_configured (levels : Log.Levels) : ∀ {steps : List Step} (state : State),
    (∀ step ∈ steps, step.IgnoresLevels) →
      (run (state.configured levels) steps).1 = (run state steps).1.configured levels
  | [], _, _ => rfl
  | step :: steps, state, h => by
    obtain ⟨hstep, hsteps⟩ := List.forall_mem_cons.mp h
    rw [run, run, State.step_configured state levels hstep]
    exact fst_run_configured levels (state.step step).1 hsteps

/-- A run at the higher of two thresholds writes the lines of that at the lower one which reach it,
and does nothing else differently. -/
theorem run_both {lower upper : Nat} (h : threshold lower ≤ threshold upper) :
    ∀ {steps : List Step} (state : State), (∀ step ∈ steps, step.IgnoresLevels) →
      Filtered (threshold upper) (run (state.configured (both lower)) steps)
        (run (state.configured (both upper)) steps)
  | [], _, _ => ⟨rfl, rfl, rfl⟩
  | step :: steps, state, hsteps => by
    obtain ⟨hstep, hrest⟩ := List.forall_mem_cons.mp hsteps
    -- after the step both runs go on from one state, at their levels
    have ih := run_both h (state.step step).1 hrest
    have hlines := Telemetry.lines_absorb_both state.telemetry h (state.events step)
    rw [run, run, State.step_configured state _ hstep, State.step_configured state _ hstep]
    exact ⟨ih.state, List.cons_eq_cons.mpr ⟨rfl, ih.replies⟩,
      List.cons_eq_cons.mpr ⟨hlines, ih.lines⟩⟩

/-- The level filters lines and does nothing else: at the higher of two levels a run leaves the same
state, answers and counts as at the lower one, and the lines that reach the higher level. At level
zero it does what it does at the level of the root logger. No step may configure logging again. -/
theorem run_filtered {steps : List Step} (hsteps : ∀ step ∈ steps, step.IgnoresLevels)
    (state : State) :
    (∀ lower upper : Nat, 0 < lower → lower ≤ upper →
      Filtered upper (run (state.configured (both lower)) steps)
        (run (state.configured (both upper)) steps)) ∧
    (run (state.configured (both 0)) steps).2 =
      (run (state.configured (both Log.Levels.rootLevel)) steps).2 ∧
    (run (state.configured (both 0)) steps).1 =
      (run (state.configured (both Log.Levels.rootLevel)) steps).1.configured (both 0) := by
  refine ⟨fun lower upper hpos hle => ?_, ?_, ?_⟩
  · have hlower : threshold lower = lower := Log.Levels.threshold_of_pos hpos
    have hupper : threshold upper = upper := Log.Levels.threshold_of_pos (by omega)
    have hthresholds : threshold lower ≤ threshold upper := by rwa [hlower, hupper]
    have hfiltered := run_both hthresholds state hsteps
    rwa [hupper] at hfiltered
  · -- both are what is left of the same lines, of which each reaches the level
    have hroot := run_both (Nat.le_refl (threshold Log.Levels.rootLevel)) state hsteps
    have hthresholds : threshold Log.Levels.rootLevel ≤ threshold 0 := Nat.le_refl _
    have hzero := run_both hthresholds state hsteps
    rw [List.zip_of_prod hzero.replies (hzero.lines.trans hroot.lines.symm),
      ← List.zip_of_prod rfl rfl]
  · rw [fst_run_configured _ _ hsteps, fst_run_configured _ _ hsteps]
    rfl

/-- A hook that passes a request on whose address misses the base, and then one that it cannot
sign. -/
theorem run_filtered_warning :
    let state : State :=
      (run (.initial (.ofFunction Setting.default) (.always (.seconds 1)) .initial)
        [.makeSigner (.text "secret") (.text "http://a") (.text "timestamp") (.text "sign")
            (.always (.seconds 1)),
          .makeMappedHook ⟨true, .null⟩]).1
    let steps : List Step :=
      [.callMapped ⟨.string "GET", .string "http://b/", some [], .absent⟩,
        .callMapped ⟨.string "GET", .string "http://a/", some [], .stream []⟩,
        .showMetrics]
    let answers (level : Nat) := (run (state.configured (both level)) steps).2
    let levels (level : Nat) := ((answers level).flatMap Prod.snd).map (·.record.level)
    (answers 30).map Prod.fst = (answers 10).map Prod.fst ∧
      answers 0 = answers 30 ∧
      levels 10 = [30, 10, 20, 40] ∧ levels 30 = [30, 40] := by
  intro state steps answers levels
  have hsteps : ∀ step ∈ steps, step.IgnoresLevels := by
    simp [steps, Step.IgnoresLevels]
  obtain ⟨hfiltered, hzero, -⟩ := run_filtered hsteps state
  refine ⟨(hfiltered 10 30 (by decide) (by decide)).replies, hzero, ?_, ?_⟩
  · dsimp only [levels, answers, state, steps]
    decide +kernel
  · dsimp only [levels, answers, state, steps]
    decide +kernel

end Session

end SignedHttp
