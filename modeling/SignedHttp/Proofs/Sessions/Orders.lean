import Mathlib.Algebra.Ring.Nat
import Mathlib.Data.List.Basic
import SignedHttp.Proofs.Sessions.Tasks

/-!
# Signings do not interact

Signers and hooks that are held side by side are given tasks, one after the other. If no task reads
a clock that goes on, because it is given its time or because the clock always shows the same
(`State.Steady`), then each leaves all signers and clocks as they were (`State.standing?_perform`).
So a task is answered as if it were the only one: as in a new session with other settings, in which
nothing has been made but its signer (`State.answers_of_steady`). The answers to tasks in any order
are those answers, and what is counted in any order is what the tasks count alone, together
(`State.performAll_perm`). The induction is on the tasks, for the session in which the first of them
is found.

Key definitions: `Job`, `State.Steady`, `State.performAll`, `State.aside`.
Key theorems: `State.standing?_perform`, `State.answers_of_steady`, `State.performAll_perm`.
-/

namespace SignedHttp

/-! ### Clocks that stand still -/

namespace Signer

variable {signer : Signer} {clock : Clock} {time : Json}

/-- A clock that always shows the same is not changed by a reading, and no clock is read for a time
that is given. -/
theorem time_snd (h : time ≠ .null ∨ ∃ reading, clock = .always reading) :
    (signer.time clock time).2 = clock := by
  rw [Signer.time.eq_def]
  split
  · obtain ⟨reading, rfl⟩ := h.resolve_left fun hne => hne rfl
    dsimp only
    rw [readTime]
    split
    · rfl
    · rfl
  · rfl

theorem clock_sign (h : time ≠ .null ∨ ∃ reading, clock = .always reading) (url : Json)
    (body : Payload) : (signer.sign clock url body time).clock = clock := by
  have htime := @time_snd signer _ _ h
  rw [sign]
  split
  · rfl
  · dsimp only
    rw [htime]
    repeat' split
    all_goals rfl

theorem clock_apply (h : ∃ reading, clock = .always reading) (headers : Option Headers)
    (url : Json) (body : Payload) : (signer.apply clock headers url body).1.clock = clock := by
  have hsign := @clock_sign signer _ .null (.inr h) url body
  rw [apply]
  split
  · rfl
  · dsimp only
    split
    · exact hsign
    · split
      · exact hsign
      · exact hsign

end Signer

namespace Hook

variable {hook : Hook} {clock : Clock}

theorem clock_attachMapped (h : ∃ reading, clock = .always reading) (request : MappedRequest) :
    (hook.attachMapped clock request).1.clock = clock := by
  have happly := @Signer.clock_apply hook.signer _ h request.headers request.url
    request.body
  rw [attachMapped]
  dsimp only
  split
  · exact happly
  · split
    · exact happly
    · exact happly

theorem clock_passListed (h : ∃ reading, clock = .always reading) (request : ListedRequest)
    (isRead : Bool) : (hook.passListed clock request isRead).1.clock = clock := by
  have hsign : (hook.signListed clock request isRead).clock = clock := by
    rw [signListed]
    split
    · rfl
    · exact Signer.clock_sign (.inr h) _ _
  rw [passListed]
  split
  · rfl
  · rw [attachListed]
    dsimp only
    split
    · exact hsign
    · split
      · exact hsign
      · exact hsign

end Hook

namespace Session

/-- A task for the signer at a place. -/
structure Job where
  place : Nat
  task : Task

/-- Whether the time that is signed is given with the task. -/
def Task.GivesTime : Task → Prop
  | .sign _ _ time => time ≠ .null
  | _ => False

namespace State

variable {state : State} {place : Nat}

/-- A task for a signer that is there, and that is given its time or reads a clock which always
shows the same. -/
def Steady (state : State) (job : Job) : Prop :=
  ∃ signer clock, state.standing? job.place = some (signer, clock) ∧
    (job.task.GivesTime ∨ ∃ reading, clock = .always reading)

/-- A clock that is moved to where it stands does not move. -/
theorem moveClock_clockOf {enrolled : Enrolled} (h : state.signers[place]? = some enrolled) :
    state.moveClock place (state.clockOf enrolled) = state := by
  obtain ⟨signer, time⟩ := enrolled
  rw [moveClock, h]
  cases time with
  | shared => rfl
  | own clock =>
    obtain ⟨hplace, hsame⟩ := List.getElem?_eq_some_iff.mp h
    have hset : state.signers.set place ⟨signer, .own clock⟩ = state.signers := by
      rw [← hsame, List.set_getElem_self]
    change { state with signers := state.signers.set place ⟨signer, .own clock⟩ } = state
    rw [hset]

/-- What a run leaves that did not move its clock: the session with other counts. -/
theorem fst_settle_of_clock {α : Type} {enrolled : Enrolled} {run : Run α}
    (h : state.signers[place]? = some enrolled) (hclock : run.clock = state.clockOf enrolled) :
    (state.settle place run).1 = (state.absorb run.events).1 := by
  rw [settle, hclock, moveClock_clockOf h]

/-! ### What a task leaves -/

section Perform

variable {enrolled : Enrolled}

theorem standing?_ready (state : State) (place : Nat) (task : Task) (other : Nat) :
    (task.ready state place).standing? other = state.standing? other := by
  have hclock : (task.ready state place).clockOf = state.clockOf :=
    funext (Task.clockOf_ready state place task)
  rw [standing?, standing?, Task.signers_ready, hclock]

theorem standing?_settle {α : Type} {task : Task} {run : Run α}
    (h : state.signers[place]? = some enrolled) (hclock : run.clock = state.clockOf enrolled)
    (other : Nat) :
    ((task.ready state place).settle place run).1.standing? other = state.standing? other := by
  have hready : (task.ready state place).signers[place]? = some enrolled := by
    rw [Task.signers_ready, h]
  have hsettle := fst_settle_of_clock hready
    (hclock.trans (Task.clockOf_ready state place task enrolled).symm)
  rw [hsettle]
  exact standing?_ready state place task other

theorem standing?_sign (h : state.signers[place]? = some enrolled) {time : Json}
    (hsteady : time ≠ .null ∨ ∃ reading, state.clockOf enrolled = .always reading) (url : Json)
    (body : Payload) (other : Nat) :
    (state.perform place (.sign url body time)).1.standing? other = state.standing? other := by
  have hclock := @Signer.clock_sign enrolled.signer _ _ hsteady url body
  change (signStep _ url body time).1.standing? other = _
  rw [signStep, withCurrent, current?_ready_sign, h]
  dsimp only [Option.map_some]
  rw [Task.clockOf_ready]
  split
  · exact standing?_settle h hclock other
  · exact standing?_settle h hclock other

theorem standing?_apply (h : state.signers[place]? = some enrolled)
    (hsteady : ∃ reading, state.clockOf enrolled = .always reading) (headers : Headers) (url : Json)
    (body : Payload) (other : Nat) :
    (state.perform place (.apply headers url body)).1.standing? other = state.standing? other := by
  have hclock := @Signer.clock_apply enrolled.signer _ hsteady (some headers) url body
  change (applyStep _ url body).1.standing? other = _
  rw [applyStep, current?_ready_apply, h]
  dsimp only [Option.map_some]
  rw [Task.clockOf_ready]
  split
  · exact standing?_settle h hclock other
  · exact standing?_settle h hclock other

theorem standing?_mapped (h : state.signers[place]? = some enrolled)
    (hsteady : ∃ reading, state.clockOf enrolled = .always reading) (apiKey : Json)
    (call : MappedCall) (other : Nat) :
    (state.perform place (.hook .mapped apiKey call)).1.standing? other =
      state.standing? other := by
  have hready : State.hookAt? _ (State.mappedHook _) = _ :=
    hookAt?_ready_of_found h .mapped apiKey call
  change (callMappedStep _ call).1.standing? other = _
  rw [callMappedStep, hready]
  dsimp only
  rw [Task.clockOf_ready]
  split
  · exact standing?_ready state place (.hook .mapped apiKey call) other
  · rename_i headers _
    have hclock := @Hook.clock_attachMapped ⟨enrolled.signer, apiKey⟩ _ hsteady
      ⟨call.method, call.url, headers, call.body⟩
    split
    · exact standing?_settle h hclock other
    · exact standing?_settle h hclock other

theorem standing?_listed (h : state.signers[place]? = some enrolled)
    (hsteady : ∃ reading, state.clockOf enrolled = .always reading) (apiKey : Json)
    (call : ListedCall) (other : Nat) :
    (state.perform place (.hook .listed apiKey call)).1.standing? other =
      state.standing? other := by
  have hready : State.hookAt? _ (State.listedHook _) = _ :=
    hookAt?_ready_of_found h .listed apiKey call
  change (callListedStep _ call).1.standing? other = _
  rw [callListedStep, hready]
  dsimp only
  rw [Task.clockOf_ready]
  split
  · exact standing?_ready state place (.hook .listed apiKey call) other
  · rename_i request _
    have hclock := @Hook.clock_passListed ⟨enrolled.signer, apiKey⟩ _ hsteady request
      call.isRead
    split
    · exact standing?_settle h hclock other
    · exact standing?_settle h hclock other

theorem standing?_perform {job : Job} (h : state.Steady job) (other : Nat) :
    (state.perform job.place job.task).1.standing? other = state.standing? other := by
  obtain ⟨place, task⟩ := job
  obtain ⟨signer, clock, hstands, hsteady⟩ := h
  obtain ⟨enrolled, hfound, hview⟩ := Option.map_eq_some_iff.mp hstands
  obtain ⟨-, rfl⟩ := Prod.mk.inj hview
  cases task with
  | sign url body time => exact standing?_sign hfound hsteady url body other
  | apply headers url body =>
    exact standing?_apply hfound (hsteady.resolve_left id) headers url body other
  | hook kind apiKey request =>
    have hconstant := hsteady.resolve_left id
    cases kind with
    | mapped => exact standing?_mapped hfound hconstant apiKey request other
    | listed => exact standing?_listed hfound hconstant apiKey request other

end Perform

/-! ### Tasks in any order -/

/-- The tasks, one after the other: the session after them, and the answers. -/
def performAll : State → List Job → State × List Reply
  | state, [] => (state, [])
  | state, job :: jobs =>
    let (after, reply, _) := state.perform job.place job.task
    let (final, replies) := performAll after jobs
    (final, reply :: replies)

/-- A new session in which nothing has been made but the signer that stands at a place. -/
def aside (state : State) (settings : Settings) (clock : Clock) (place : Nat) : State :=
  let fresh := State.initial settings clock .initial
  match state.standing? place with
  | some (signer, clock) => fresh.install signer clock
  | none => fresh

theorem standing?_aside (state : State) (settings : Settings) (clock : Clock) (place : Nat) :
    (state.aside settings clock place).standing? 0 = state.standing? place := by
  rw [aside]
  cases state.standing? place with
  | none => rfl
  | some standing => rfl

theorem tally_aside (state : State) (settings : Settings) (clock : Clock) (place : Nat) :
    (state.aside settings clock place).telemetry.tally = .empty := by
  rw [aside]
  cases state.standing? place with
  | none => rfl
  | some standing => rfl

theorem Steady.of_standing {other : State} {job : Job} (h : state.Steady job)
    (hsame : other.standing? job.place = state.standing? job.place) : other.Steady job := by
  obtain ⟨signer, clock, hstands, hsteady⟩ := h
  exact ⟨signer, clock, hsame.trans hstands, hsteady⟩

/-- Each of several steady tasks is answered as the first one would be, and counts the same. -/
theorem answers_of_steady : ∀ {jobs : List Job} {state : State},
    (∀ job ∈ jobs, state.Steady job) →
      (state.performAll jobs).2 = jobs.map (fun job => (state.perform job.place job.task).2.1) ∧
      (state.performAll jobs).1.telemetry.tally =
        (jobs.flatMap fun job => state.outcomes job.place job.task).foldl Tally.increment
          state.telemetry.tally
  | [], _, _ => ⟨rfl, rfl⟩
  | job :: jobs, state, h => by
    obtain ⟨hjob, hjobs⟩ := List.forall_mem_cons.mp h
    -- the others find their signers as they stood before the first task
    have hstanding := standing?_perform hjob
    have hanswer : ∀ other : Job, SameAnswer (state.perform job.place job.task).1 state other.place
        other.place other.task := fun other =>
      sameAnswer_of_standing (hstanding other.place) other.task
    obtain ⟨hreplies, htally⟩ := @answers_of_steady jobs (state.perform job.place job.task).1
      fun other hother => (hjobs other hother).of_standing (hstanding other.place)
    rw [performAll]
    refine ⟨?_, ?_⟩
    · rw [List.map_cons, List.cons_inj_right, hreplies]
      exact List.map_congr_left fun other _ => (hanswer other).reply
    · rw [htally, tally_perform, List.flatMap_cons, List.foldl_append,
        List.flatMap_congr fun other _ => (hanswer other).outcomes]

theorem sameAnswer_aside (state : State) (settings : Settings) (clock : Clock) (job : Job) :
    SameAnswer state (state.aside settings clock job.place) job.place 0 job.task :=
  sameAnswer_of_standing (standing?_aside state settings clock job.place).symm job.task

/-- Several steady tasks count what they count alone, together. -/
theorem count_performAll {state : State} {jobs : List Job} (hjobs : ∀ job ∈ jobs, state.Steady job)
    (settings : Settings) (clock : Clock) (outcome : Outcome) :
    (state.performAll jobs).1.telemetry.tally.count outcome =
      state.telemetry.tally.count outcome +
        (jobs.map fun job =>
          ((state.aside settings clock job.place).perform 0 job.task).1.telemetry.tally.count
            outcome).sum := by
  have halone : ∀ job : Job,
      ((state.aside settings clock job.place).perform 0 job.task).1.telemetry.tally.count outcome =
        (state.outcomes job.place job.task).count outcome := fun job => by
    rw [(sameAnswer_aside state settings clock job).outcomes, tally_perform, tally_aside,
      Telemetry.count_foldl_increment]
    exact Nat.zero_add _
  rw [(answers_of_steady hjobs).2, Telemetry.count_foldl_increment, List.count_flatMap]
  exact congrArg (_ + List.sum ·) (List.map_congr_left fun job _ => (halone job).symm)

/-- Signings do not interact. Tasks for signers and hooks that are held side by side, each given its
time or with a clock that always shows the same, are answered in any order as each is alone, in a
new session with any settings; and each count is, after any order of them, what they count alone, on
top of what was counted before. -/
theorem performAll_perm {state : State} {jobs order : List Job}
    (hjobs : ∀ job ∈ jobs, state.Steady job) (horder : order.Perm jobs) (settings : Settings)
    (clock : Clock) :
    let alone (job : Job) := (state.aside settings clock job.place).perform 0 job.task
    (state.performAll order).2 = order.map (fun job => (alone job).2.1) ∧
    (∀ outcome, (state.performAll order).1.telemetry.tally.count outcome =
      state.telemetry.tally.count outcome +
        (jobs.map fun job => (alone job).1.telemetry.tally.count outcome).sum) ∧
    ∀ outcome, (state.performAll order).1.telemetry.tally.count outcome =
      (state.performAll jobs).1.telemetry.tally.count outcome := by
  intro alone
  have hordered : ∀ job ∈ order, state.Steady job := fun job hjob =>
    hjobs job (horder.mem_iff.mp hjob)
  have hcounts : ∀ outcome, (state.performAll order).1.telemetry.tally.count outcome =
      state.telemetry.tally.count outcome +
        (jobs.map fun job => (alone job).1.telemetry.tally.count outcome).sum := fun outcome => by
    rw [count_performAll hordered settings clock, (horder.map _).sum_nat]
  refine ⟨?_, hcounts, fun outcome => ?_⟩
  · rw [(answers_of_steady hordered).1]
    exact List.map_congr_left fun job _ => (sameAnswer_aside state settings clock job).reply
  · rw [hcounts, count_performAll hjobs settings clock]

/-- Three signers, asked from the last to the first: one cannot sign for its hook, one has a clock
that goes on but is given the time, and one misses its base. -/
theorem performAll_perm_reverse :
    let signer (secret : String) (clock : Clock) : Step :=
      .makeSigner (.text secret) (.text "http://a") (.text "timestamp") (.text "sign") clock
    let state : State :=
      (run (.initial (.ofFunction Setting.default) (.always (.seconds 1)) .initial)
        [signer "one" (.always (.seconds 1)), signer "two" ⟨[.seconds 2], .seconds 3⟩,
          signer "three" (.always (.seconds 4))]).1
    let jobs : List Job :=
      [⟨0, .apply (.empty .exact) (.string "http://b/") .absent⟩,
        ⟨1, .sign (.string "http://a/") .absent (.number 5)⟩,
        ⟨2, .hook .mapped (.string "key") ⟨.string "GET", .string "http://a/", some [],
          .stream []⟩⟩]
    (∀ outcome, (state.performAll jobs.reverse).1.telemetry.tally.count outcome =
      (state.performAll jobs).1.telemetry.tally.count outcome) ∧
      (state.performAll jobs.reverse).1.telemetry.tally =
        ⟨[(.error, 1), (.signed, 1), (.prefixMismatch, 1)]⟩ := by
  intro signer state jobs
  have hsteady : ∀ job ∈ jobs, state.Steady job := by
    refine List.forall_mem_cons.mpr ⟨⟨_, _, rfl, .inr ⟨_, rfl⟩⟩, ?_⟩
    refine List.forall_mem_cons.mpr ⟨⟨_, _, rfl, .inl nofun⟩, ?_⟩
    exact List.forall_mem_singleton.mpr ⟨_, _, rfl, .inr ⟨_, rfl⟩⟩
  have hperm := performAll_perm hsteady (List.reverse_perm jobs) (.ofFunction Setting.default)
    (.always (.seconds 1))
  refine ⟨hperm.2.2, ?_⟩
  dsimp only [state, jobs, signer]
  decide +kernel

end State

end Session

end SignedHttp
