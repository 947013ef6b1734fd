import SignedHttp.Proofs.Sessions.Effects

/-!
# What a signer is asked by those who hold it

A session knows one current signer and one hook of each kind, but whoever made a signer or a hook
may hold on to it and use it later, when the session has others (`State.perform`). What is answered
then, and what is counted, can be told from what stands at the place of the signer: the signer
itself and the clock that it reads (`State.standing?`). Nothing else of the session has a part in it
(`State.sameAnswer_of_standing`), so that all that was done in the meantime is without effect unless
it reassigned the signer or moved its clock.

Key definitions: `Task`, `State.perform`, `State.standing?`, `State.SameAnswer`.
Key theorems: `State.tally_perform`, `State.sameAnswer_of_standing`.
-/

namespace SignedHttp

namespace Session

/-- What a signer is asked for, by itself or through a hook that has an API key: to sign, to add its
fields to headers, or to sign a request of a hook. -/
inductive Task where
  | sign (url : Json) (body : Payload) (time : Json)
  | apply (headers : Headers) (url : Json) (body : Payload)
  | hook (kind : HookKind) (apiKey : Json) (request : kind.Request)

namespace Task

def step : Task → Step
  | sign url body time => .sign url body time
  | apply _ url body => .apply url body
  | hook kind _ request => kind.call request

/-- The session with the signer at a place at hand for the task, as the current one or in a hook. -/
def ready (state : State) (place : Nat) : Task → State
  | sign _ _ _ => { state with current := some place }
  | apply headers _ _ => { state with current := some place, headers := headers }
  | hook kind apiKey _ => state.withHook ⟨place, apiKey⟩ kind

variable (state : State) (place : Nat) (task : Task)

@[simp]
theorem telemetry_ready : (task.ready state place).telemetry = state.telemetry := by
  cases task with
  | sign => rfl
  | apply => rfl
  | hook => exact State.telemetry_withHook ..

@[simp]
theorem signers_ready : (task.ready state place).signers = state.signers := by
  cases task with
  | sign => rfl
  | apply => rfl
  | hook => exact State.signers_withHook ..

@[simp]
theorem clock_ready : (task.ready state place).clock = state.clock := by
  cases task with
  | sign => rfl
  | apply => rfl
  | hook => exact State.clock_withHook ..

@[simp]
theorem clockOf_ready (enrolled : Enrolled) :
    (task.ready state place).clockOf enrolled = state.clockOf enrolled := by
  rw [State.clockOf, State.clockOf, clock_ready]

end Task

namespace State

variable (state : State)

def perform (place : Nat) (task : Task) : State × Reply × List Line :=
  (task.ready state place).step task.step

/-- The signer that stands at a place, and the clock that it reads. -/
def standing? (place : Nat) : Option (Signer × Clock) :=
  state.signers[place]?.map fun enrolled => (enrolled.signer, state.clockOf enrolled)

def outcomes (place : Nat) (task : Task) : List Outcome :=
  outcomesOf (((task.ready state place).call? task.step).elim [] Call.events)

variable {state}

/-- The current signer signs as one that is held does. -/
theorem step_sign_eq_perform {place : Nat} (h : state.current = some place) (url : Json)
    (body : Payload) (time : Json) :
    state.step (.sign url body time) = state.perform place (.sign url body time) := by
  rw [perform, Task.ready, ← h]
  rfl

theorem step_apply_eq_perform {place : Nat} (h : state.current = some place) (url : Json)
    (body : Payload) :
    state.step (.apply url body) = state.perform place (.apply state.headers url body) := by
  rw [perform, Task.ready, ← h]
  rfl

theorem step_call_eq_perform {kind : HookKind} {placed : PlacedHook}
    (h : state.hook? kind = some placed) (request : kind.Request) :
    state.step (kind.call request) =
      state.perform placed.place (.hook kind placed.apiKey request) := by
  have hready : state.withHook placed kind = state := by
    cases kind with
    | mapped =>
      change { state with mappedHook := some placed } = state
      rw [← show state.mappedHook = some placed from h]
    | listed =>
      change { state with listedHook := some placed } = state
      rw [← show state.listedHook = some placed from h]
  change _ = (state.withHook placed kind).step (kind.call request)
  rw [hready]

/-- A task counts its outcomes, and nothing else. -/
theorem tally_perform (state : State) (place : Nat) (task : Task) :
    (state.perform place task).1.telemetry.tally =
      (state.outcomes place task).foldl Tally.increment state.telemetry.tally := by
  rw [perform, tally_step, Task.telemetry_ready, outcomes]

/-! ### What an answer depends on -/

section Standing

variable {a b : State} {place place' : Nat}

/-- Where the same stands at two places, there is no signer at both, or the same one at both, which
reads the same clock. -/
theorem standing?_eq_iff : a.standing? place = b.standing? place' ↔
    (a.signers[place]? = none ∧ b.signers[place']? = none) ∨
      ∃ enrolled enrolled', a.signers[place]? = some enrolled ∧
        b.signers[place']? = some enrolled' ∧ enrolled'.signer = enrolled.signer ∧
        b.clockOf enrolled' = a.clockOf enrolled := by
  rw [standing?, standing?]
  cases a.signers[place]? with
  | none =>
    cases b.signers[place']? with
    | none => simp
    | some enrolled' => simp
  | some enrolled =>
    cases b.signers[place']? with
    | none => simp
    | some enrolled' => simp [eq_comm]

theorem current?_ready_sign (state : State) (place : Nat) (url : Json) (body : Payload)
    (time : Json) : ((Task.sign url body time).ready state place).current? =
      state.signers[place]?.map fun enrolled => (place, enrolled) := by
  rw [current?, Option.map_eq_bind]
  rfl

theorem current?_ready_apply (state : State) (place : Nat) (headers : Headers) (url : Json)
    (body : Payload) : ((Task.apply headers url body).ready state place).current? =
      state.signers[place]?.map fun enrolled => (place, enrolled) := by
  rw [current?, Option.map_eq_bind]
  rfl

theorem hookAt?_ready (state : State) (place : Nat) (kind : HookKind) (apiKey : Json)
    (request : kind.Request) :
    ((Task.hook kind apiKey request).ready state place).hookAt?
        (((Task.hook kind apiKey request).ready state place).hook? kind) =
      state.signers[place]?.map fun enrolled => (place, enrolled, ⟨enrolled.signer, apiKey⟩) := by
  change (state.withHook ⟨place, apiKey⟩ kind).hookAt? ((state.withHook ⟨place, apiKey⟩ kind).hook?
    kind) = _
  rw [hook?_withHook, hookAt?, signers_withHook, Option.map_eq_bind]
  rfl

theorem hookAt?_ready_of_found {state : State} {enrolled : Enrolled}
    (h : state.signers[place]? = some enrolled) (kind : HookKind) (apiKey : Json)
    (request : kind.Request) :
    ((Task.hook kind apiKey request).ready state place).hookAt?
        (((Task.hook kind apiKey request).ready state place).hook? kind) =
      some (place, enrolled, ⟨enrolled.signer, apiKey⟩) := by
  rw [hookAt?_ready, h]
  rfl

/-- Two answers to a task are told from the same: they are the same, and so are the outcomes that
are counted. -/
structure SameAnswer (a b : State) (place place' : Nat) (task : Task) : Prop where
  reply : (a.perform place task).2.1 = (b.perform place' task).2.1
  outcomes : a.outcomes place task = b.outcomes place' task

theorem sameAnswer_sign (h : a.standing? place = b.standing? place') (url : Json) (body : Payload)
    (time : Json) : SameAnswer a b place place' (.sign url body time) := by
  refine ⟨?_, ?_⟩
  · change (signStep _ url body time).2.1 = (signStep _ url body time).2.1
    rw [signStep, signStep, withCurrent, withCurrent, current?_ready_sign, current?_ready_sign]
    rcases standing?_eq_iff.mp h with ⟨ha, hb⟩ | ⟨enrolled, enrolled', ha, hb, hsigner, hclock⟩
    · rw [ha, hb]
      rfl
    · rw [ha, hb]
      dsimp only [Option.map_some]
      rw [Task.clockOf_ready, Task.clockOf_ready, hsigner, hclock]
      split <;> rfl
  · rw [outcomes, outcomes, Task.step, call?, call?, current?_ready_sign, current?_ready_sign]
    rcases standing?_eq_iff.mp h with ⟨ha, hb⟩ | ⟨enrolled, enrolled', ha, hb, hsigner, hclock⟩
    · rw [ha, hb]
      rfl
    · rw [ha, hb]
      dsimp only [Option.map_some]
      rw [Task.clockOf_ready, Task.clockOf_ready, hsigner, hclock]

theorem sameAnswer_apply (h : a.standing? place = b.standing? place') (headers : Headers)
    (url : Json) (body : Payload) : SameAnswer a b place place' (.apply headers url body) := by
  have hheaders : ∀ (state : State) (place : Nat),
      ((Task.apply headers url body).ready state place).headers = headers := fun _ _ => rfl
  refine ⟨?_, ?_⟩
  · change (applyStep _ url body).2.1 = (applyStep _ url body).2.1
    rw [applyStep, applyStep, current?_ready_apply, current?_ready_apply]
    rcases standing?_eq_iff.mp h with ⟨ha, hb⟩ | ⟨enrolled, enrolled', ha, hb, hsigner, hclock⟩
    · rw [ha, hb]
      rfl
    · rw [ha, hb]
      dsimp only [Option.map_some]
      rw [Task.clockOf_ready, Task.clockOf_ready, hsigner, hclock, hheaders, hheaders]
      split <;> rfl
  · rw [outcomes, outcomes, Task.step, call?, call?, current?_ready_apply, current?_ready_apply]
    rcases standing?_eq_iff.mp h with ⟨ha, hb⟩ | ⟨enrolled, enrolled', ha, hb, hsigner, hclock⟩
    · rw [ha, hb]
      rfl
    · rw [ha, hb]
      dsimp only [Option.map_some]
      rw [Task.clockOf_ready, Task.clockOf_ready, hsigner, hclock, hheaders, hheaders]

theorem sameAnswer_mapped (h : a.standing? place = b.standing? place') (apiKey : Json)
    (call : MappedCall) : SameAnswer a b place place' (.hook .mapped apiKey call) := by
  have hhook : ∀ (state : State) (place : Nat),
      ((Task.hook .mapped apiKey call).ready state place).hookAt?
          ((Task.hook .mapped apiKey call).ready state place).mappedHook =
        state.signers[place]?.map fun enrolled => (place, enrolled, ⟨enrolled.signer, apiKey⟩) :=
    fun state place => hookAt?_ready state place .mapped apiKey call
  refine ⟨?_, ?_⟩
  · change (callMappedStep _ call).2.1 = (callMappedStep _ call).2.1
    rw [callMappedStep, callMappedStep, hhook, hhook]
    rcases standing?_eq_iff.mp h with ⟨ha, hb⟩ | ⟨enrolled, enrolled', ha, hb, hsigner, hclock⟩
    · rw [ha, hb]
      rfl
    · rw [ha, hb]
      dsimp only [Option.map_some]
      rw [Task.clockOf_ready, Task.clockOf_ready, hsigner, hclock]
      split
      · rfl
      · split <;> rfl
  · change outcomesOf ((call? _ (.callMapped call)).elim [] _) =
      outcomesOf ((call? _ (.callMapped call)).elim [] _)
    rw [call?, call?, hhook, hhook]
    rcases standing?_eq_iff.mp h with ⟨ha, hb⟩ | ⟨enrolled, enrolled', ha, hb, hsigner, hclock⟩
    · rw [ha, hb]
      rfl
    · rw [ha, hb]
      dsimp only [Option.map_some, Option.bind_some]
      rw [Task.clockOf_ready, Task.clockOf_ready, hsigner, hclock]

theorem sameAnswer_listed (h : a.standing? place = b.standing? place') (apiKey : Json)
    (call : ListedCall) : SameAnswer a b place place' (.hook .listed apiKey call) := by
  have hhook : ∀ (state : State) (place : Nat),
      ((Task.hook .listed apiKey call).ready state place).hookAt?
          ((Task.hook .listed apiKey call).ready state place).listedHook =
        state.signers[place]?.map fun enrolled => (place, enrolled, ⟨enrolled.signer, apiKey⟩) :=
    fun state place => hookAt?_ready state place .listed apiKey call
  refine ⟨?_, ?_⟩
  · change (callListedStep _ call).2.1 = (callListedStep _ call).2.1
    rw [callListedStep, callListedStep, hhook, hhook]
    rcases standing?_eq_iff.mp h with ⟨ha, hb⟩ | ⟨enrolled, enrolled', ha, hb, hsigner, hclock⟩
    · rw [ha, hb]
      rfl
    · rw [ha, hb]
      dsimp only [Option.map_some]
      rw [Task.clockOf_ready, Task.clockOf_ready, hsigner, hclock]
      split
      · rfl
      · split <;> rfl
  · change outcomesOf ((call? _ (.callListed call)).elim [] _) =
      outcomesOf ((call? _ (.callListed call)).elim [] _)
    rw [call?, call?, hhook, hhook]
    rcases standing?_eq_iff.mp h with ⟨ha, hb⟩ | ⟨enrolled, enrolled', ha, hb, hsigner, hclock⟩
    · rw [ha, hb]
      rfl
    · rw [ha, hb]
      dsimp only [Option.map_some, Option.bind_some]
      rw [Task.clockOf_ready, Task.clockOf_ready, hsigner, hclock]

/-- What is answered and counted is told from what stands at the place alone. -/
theorem sameAnswer_of_standing (h : a.standing? place = b.standing? place') (task : Task) :
    SameAnswer a b place place' task := by
  cases task with
  | sign url body time => exact sameAnswer_sign h url body time
  | apply headers url body => exact sameAnswer_apply h headers url body
  | hook kind apiKey request =>
    cases kind with
    | mapped => exact sameAnswer_mapped h apiKey request
    | listed => exact sameAnswer_listed h apiKey request

end Standing

end State

end Session

end SignedHttp
