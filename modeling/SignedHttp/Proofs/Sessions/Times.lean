import Mathlib.Data.List.ReduceOption
import SignedHttp.Proofs.Clock
import SignedHttp.Proofs.Sessions.Orders

/-!
# Timestamps never go backwards

A signing that is given no time reads the clock once, or not at all if it is refused before, and
what it signs bears the time that was read (`Signer.exists_signs`). That holds as well for applying
a signer and for both kinds of hooks, which hand on what was signed. So a task moves the clock of
its signer by one reading at most, and a time is written only if it is the one of this reading
(`Session.State.drawn_perform`).

The tasks of one run therefore write times of readings in their order, each reading at most once. If
the clock rises, then so do the timestamps, whichever of the tasks are refused and wherever they are
(`Session.State.times_rise`).

Key definitions: `Clock.Draws`, `SignedHeaders.Bears`, `Signer.Signs`, `Signer.Applies`,
`Signer.ReadsTime`, `Signer.timeAt`, `Hook.Attaches`, `Hook.Passes`, `Session.Task.Answers`.
Key theorems: `Signer.exists_signs`, `Session.State.drawn_perform`, `Session.State.exists_stamps`,
`Session.State.times_rise`.
-/

namespace SignedHttp

/-! ### The clock of one signing -/

/-- What can become of a clock and of the reading that it gives next: it is not read, or it is read
for nothing, or its time is signed. -/
inductive Clock.Draws (clock : Clock) : Clock → Option Int → Prop
  | unread : Draws clock clock none
  | unused : Draws clock clock.read.2 none
  | used {n : Int} (h : clock.read.1.milliseconds = .ok n) : Draws clock clock.read.2 (some n)

/-- Whether signed headers bear a time, under the name that the signer has for it. -/
structure SignedHeaders.Bears (signer : Signer) (n : Int) (signed : SignedHeaders) : Prop where
  name : signed.timestampHeader = signer.timestampHeader
  timestamp : signed.timestamp = Text.Decimal.numeral n

theorem Clock.Draws.exists_none {clock after : Clock} {stamp : Option Int}
    (h : clock.Draws after stamp) : clock.Draws after none := by
  cases h with
  | unread => exact .unread
  | unused => exact .unused
  | used => exact .unused

namespace Signer

variable (signer : Signer) (clock : Clock)

/-- What a signing gives: a fault, or signed headers that bear the time. -/
inductive Signs : Except Fault SignedHeaders → Option Int → Prop
  | refused (fault : Fault) : Signs (.error fault) none
  | signed {signed : SignedHeaders} {n : Int} (h : signed.Bears signer n) :
    Signs (.ok signed) (some n)

/-- What becomes of headers that a signer is applied to: they stay as they are, or they get the
fields with the time, as far as these can be added. -/
inductive Applies (headers : Option Headers) :
    Except Fault SignedHeaders × Option Headers → Option Int → Prop
  | refused (fault : Fault) : Applies headers (.error fault, headers) none
  | added {signed : SignedHeaders} {n : Int} {entries : List Entry} {after : Option Headers}
      (hbears : signed.Bears signer n) (hentries : signed.entries = .ok entries)
      (hadd : Headers.addAll headers entries = (after, none)) :
    Applies headers (.ok signed, after) (some n)
  | stopped {signed : SignedHeaders} {n : Int} {entries : List Entry} {after : Option Headers}
      {fault : Fault} (hbears : signed.Bears signer n) (hentries : signed.entries = .ok entries)
      (hadd : Headers.addAll headers entries = (after, some fault)) :
    Applies headers (.error fault, after) (some n)

theorem readTime_cases :
    (∃ fault, signer.readTime clock = (.error fault, clock)) ∨
      signer.readTime clock = clock.milliseconds := by
  rw [readTime]
  split
  · exact .inl ⟨_, rfl⟩
  · exact .inr rfl

/-- Whether a signer still reads the time: nothing stands in the place of this operation, and it has
its clock. -/
structure ReadsTime : Prop where
  check : signer.check .readTime = .ok ()
  require : signer.require .clock = .ok ()

/-- The time that a signer reads when its clock gives this. -/
def timeAt (reading : Reading) : Except Fault Int :=
  (signer.readTime (.always reading)).1

theorem readsTime_of_make {secret base timestampHeader signHeader : Payload} {signer : Signer}
    (h : make secret base timestampHeader signHeader = .ok signer) : signer.ReadsTime := by
  rw [make] at h
  split at h
  · cases h
  · rw [← Except.ok.inj h]
    exact ⟨rfl, rfl⟩

variable {signer} in
/-- It is the time of what the clock gives next, whatever comes after that. -/
theorem ReadsTime.readTime_eq (h : signer.ReadsTime) (clock : Clock) :
    signer.readTime clock = clock.milliseconds := by
  have hready : (signer.check .readTime >>= fun () => signer.require .clock) = .ok () := by
    rw [h.check]
    exact h.require
  rw [readTime, hready]

variable {signer} in
theorem ReadsTime.timeAt_eq (h : signer.ReadsTime) (reading : Reading) :
    signer.timeAt reading = reading.milliseconds := by
  rw [timeAt, h.readTime_eq]
  rfl

/-- A signing that is given no time draws on the clock, and signs the time that it draws. -/
theorem exists_signs (url : Json) (body : Payload) :
    ∃ stamp, clock.Draws (signer.sign clock url body .null).clock stamp ∧
      signer.Signs (signer.sign clock url body .null).result stamp := by
  have htime : signer.time clock .null =
      (.number <$> (signer.readTime clock).1, (signer.readTime clock).2) := rfl
  rw [sign, htime]
  split
  · exact ⟨none, .unread, .refused _⟩
  · rcases readTime_cases signer clock with ⟨fault, hread⟩ | hread
    · rw [hread]
      exact ⟨none, .unread, .refused fault⟩
    · rw [hread]
      dsimp only [Clock.milliseconds]
      split
      · exact ⟨none, .unused, .refused _⟩
      · rename_i timestamp htimestamp
        have hstamp : ∃ n, clock.read.1.milliseconds = .ok n ∧
            timestamp = Text.points (Text.Decimal.numeral n).toList := by
          obtain ⟨time, htime, hshown⟩ := exists_of_bind_eq_ok htimestamp
          obtain ⟨n, hn, rfl⟩ := exists_of_map_eq_ok htime
          rw [Json.shown_number] at hshown
          obtain ⟨s, hs, hcodes⟩ := exists_of_map_eq_ok hshown
          exact ⟨n, hn, by rw [← hcodes, numeral_of_log hs]⟩
        obtain ⟨n, hn, rfl⟩ := hstamp
        split
        · exact ⟨none, .unused, .refused _⟩
        · exact ⟨none, .unused, .refused _⟩
        · split
          · exact ⟨none, .unused, .refused _⟩
          · cases signer.requireNames with
            | error fault => exact ⟨none, .unused, .refused fault⟩
            | ok _ => exact ⟨some n, .used hn, .signed ⟨rfl, Text.ofPoints_points _⟩⟩

theorem exists_applies (headers : Option Headers) (url : Json) (body : Payload) :
    let applied := signer.apply clock headers url body
    ∃ stamp, clock.Draws applied.1.clock stamp ∧
      signer.Applies headers (applied.1.result, applied.2) stamp := by
  obtain ⟨stamp, hdraws, hsigns⟩ := exists_signs signer clock url body
  dsimp only
  rw [apply]
  generalize signer.sign clock url body .null = run at *
  obtain ⟨result, events, after⟩ := run
  dsimp only at hdraws hsigns ⊢
  split
  · exact ⟨none, .unread, .refused _⟩
  · cases hsigns with
    | refused fault => exact ⟨none, hdraws, .refused fault⟩
    | @signed signed n hbears =>
      have hbind : (Except.ok signed >>= SignedHeaders.entries) = signed.entries := rfl
      rw [hbind]
      cases hentries : signed.entries with
      | error fault => exact ⟨none, hdraws.exists_none, .refused fault⟩
      | ok entries =>
        dsimp only
        split
        · rename_i hadd
          exact ⟨_, hdraws, .added hbears hentries hadd⟩
        · rename_i hadd
          exact ⟨_, hdraws, .stopped hbears hentries hadd⟩

end Signer

namespace Headers

/-- Of two groups of entries the second is added if all of the first could be. -/
theorem appendAll_append : ∀ (first second : List Entry) (headers : Headers),
    headers.appendAll (first ++ second) =
      match headers.appendAll first with
      | (middle, none) => middle.appendAll second
      | stopped => stopped
  | [], _, _ => rfl
  | (name, value) :: first, second, headers => by
    rw [List.cons_append, appendAll, appendAll]
    cases headers.append name value with
    | ok middle => exact appendAll_append first second middle
    | error fault => rfl

theorem addAll_append (headers : Option Headers) (first second : List Entry) :
    addAll headers (first ++ second) =
      match addAll headers first with
      | (middle, none) => addAll middle second
      | stopped => stopped := by
  cases headers with
  | none =>
    cases first with
    | nil => rfl
    | cons entry first => rfl
  | some headers =>
    rw [addAll, addAll, appendAll_append]
    cases headers.appendAll first with
    | mk middle fault =>
      cases fault with
      | none => rfl
      | some fault => rfl

end Headers

namespace Hook

variable (hook : Hook) (clock : Clock)

/-- What becomes of a request with mapped headers: it stays as it is, or its headers get the new
fields of the hook, as far as these can be added. -/
inductive Attaches (request : MappedRequest) :
    Except Fault MappedRequest × MappedRequest → Option Int → Prop
  | refused (fault : Fault) : Attaches request (.error fault, request) none
  | added {signed : SignedHeaders} {n : Int} {entries : List Entry} {after : Option Headers}
      (hbears : signed.Bears hook.signer n) (hentries : hook.newFields signed = .ok entries)
      (hadd : Headers.addAll request.headers entries = (after, none)) :
    Attaches request (.ok { request with headers := after }, { request with headers := after })
      (some n)
  | stopped {signed : SignedHeaders} {n : Int} {entries : List Entry} {after : Option Headers}
      {fault : Fault} (hbears : signed.Bears hook.signer n)
      (hentries : hook.newFields signed = .ok entries)
      (hadd : Headers.addAll request.headers entries = (after, some fault)) :
    Attaches request (.error fault, { request with headers := after }) (some n)

/-- What is sent for a request with listed headers, if anything: its fields with the new ones. -/
inductive Passes (request : ListedRequest) : Except Fault ListedRequest → Option Int → Prop
  | refused (fault : Fault) : Passes request (.error fault) none
  | sent {signed : SignedHeaders} {n : Int} {fields : List Field}
      (hbears : signed.Bears hook.signer n)
      (hfields : hook.sentFields request.fields signed = .ok fields) :
    Passes request (.ok { request with fields := fields }) (some n)

theorem exists_attaches (request : MappedRequest) :
    let attached := hook.attachMapped clock request
    ∃ stamp, clock.Draws attached.1.clock stamp ∧
      hook.Attaches request (attached.1.result, attached.2) stamp := by
  obtain ⟨stamp, hdraws, happlies⟩ :=
    hook.signer.exists_applies clock request.headers request.url request.body
  have hnew : ∀ {signed : SignedHeaders} {entries : List Entry}, signed.entries = .ok entries →
      hook.newFields signed = .ok (entries ++ hook.keyFields) := fun hentries => by
    rw [newFields, hentries]
    rfl
  dsimp only
  rw [attachMapped]
  generalize hook.signer.apply clock request.headers request.url request.body = applied at *
  obtain ⟨⟨result, events, after⟩, headers⟩ := applied
  dsimp only at hdraws happlies ⊢
  cases happlies with
  | refused fault => exact ⟨none, hdraws, .refused fault⟩
  | stopped hbears hentries hadd =>
    refine ⟨_, hdraws, .stopped hbears (hnew hentries) ?_⟩
    rw [Headers.addAll_append, hadd]
  | @added signed n entries headers hbears hentries hadd =>
    have hall := Headers.addAll_append request.headers entries hook.keyFields
    rw [hadd] at hall
    dsimp only at hall ⊢
    split
    · rename_i hkey
      exact ⟨_, hdraws, .stopped hbears (hnew hentries) (hall.trans hkey)⟩
    · rename_i hkey
      exact ⟨_, hdraws, .added hbears (hnew hentries) (hall.trans hkey)⟩

theorem exists_passes (request : ListedRequest) (isRead : Bool) :
    let passed := (hook.passListed clock request isRead).1
    ∃ stamp, clock.Draws passed.clock stamp ∧ hook.Passes request passed.result stamp := by
  have hsigns : ∃ stamp, clock.Draws (hook.signListed clock request isRead).clock stamp ∧
      hook.signer.Signs (hook.signListed clock request isRead).result stamp := by
    rw [signListed]
    split
    · exact ⟨none, .unread, .refused _⟩
    · exact hook.signer.exists_signs clock _ _
  obtain ⟨stamp, hdraws, hsigns⟩ := hsigns
  dsimp only
  rw [passListed]
  split
  · exact ⟨none, .unread, .refused _⟩
  · rw [attachListed]
    generalize hook.signListed clock request isRead = run at *
    obtain ⟨result, events, after⟩ := run
    dsimp only at hdraws hsigns ⊢
    cases hsigns with
    | refused fault => exact ⟨none, hdraws, .refused fault⟩
    | signed hbears =>
      dsimp only
      split
      · exact ⟨none, hdraws.exists_none, .refused _⟩
      · rename_i hfields
        exact ⟨_, hdraws, .sent hbears hfields⟩

end Hook

namespace Session

/-! ### The clock of one task -/

/-- What is answered to a task of a signer, with the time that it has written into headers, if any.
A task that writes none leaves all headers as they are. -/
inductive Task.Answers (signer : Signer) : Task → Reply → Option Int → Prop
  | unsigned {url : Json} {body : Payload} {time : Json} (fault : Fault) :
    Answers signer (.sign url body time) (.failed fault) none
  | signed {url : Json} {body : Payload} {time : Json} {signed : SignedHeaders} {n : Int}
      (hbears : signed.Bears signer n) :
    Answers signer (.sign url body time) (.signed signed) (some n)
  | unapplied {headers : Headers} {url : Json} {body : Payload} (fault : Fault) :
    Answers signer (.apply headers url body) (.failedWith fault (some headers)) none
  | applied {headers after : Headers} {url : Json} {body : Payload} {signed : SignedHeaders}
      {n : Int} {entries : List Entry} (hbears : signed.Bears signer n)
      (hentries : signed.entries = .ok entries)
      (hadd : headers.appendAll entries = (after, none)) :
    Answers signer (.apply headers url body) (.applied signed after) (some n)
  | appliedPart {headers after : Headers} {url : Json} {body : Payload} {signed : SignedHeaders}
      {n : Int} {entries : List Entry} {fault : Fault} (hbears : signed.Bears signer n)
      (hentries : signed.entries = .ok entries)
      (hadd : headers.appendAll entries = (after, some fault)) :
    Answers signer (.apply headers url body) (.failedWith fault (some after)) (some n)
  | unmapped {apiKey : Json} {call : MappedCall} {fault : Fault}
      (hbefore : call.fields.mapM (Headers.ofAssignments .caseless) = .error fault) :
    Answers signer (.hook .mapped apiKey call) (.failedWith fault none) none
  | unattached {apiKey : Json} {call : MappedCall} {before : Option Headers}
      (hbefore : call.fields.mapM (Headers.ofAssignments .caseless) = .ok before)
      (fault : Fault) :
    Answers signer (.hook .mapped apiKey call) (.failedWith fault before) none
  | attached {apiKey : Json} {call : MappedCall} {signed : SignedHeaders} {n : Int}
      {entries : List Entry} {before after : Option Headers} (hbears : signed.Bears signer n)
      (hbefore : call.fields.mapM (Headers.ofAssignments .caseless) = .ok before)
      (hentries : Hook.newFields ⟨signer, apiKey⟩ signed = .ok entries)
      (hadd : Headers.addAll before entries = (after, none)) :
    Answers signer (.hook .mapped apiKey call) (.mapped after) (some n)
  | attachedPart {apiKey : Json} {call : MappedCall} {signed : SignedHeaders} {n : Int}
      {entries : List Entry} {before after : Option Headers} {fault : Fault}
      (hbears : signed.Bears signer n)
      (hbefore : call.fields.mapM (Headers.ofAssignments .caseless) = .ok before)
      (hentries : Hook.newFields ⟨signer, apiKey⟩ signed = .ok entries)
      (hadd : Headers.addAll before entries = (after, some fault)) :
    Answers signer (.hook .mapped apiKey call) (.failedWith fault after) (some n)
  | unsent {apiKey : Json} {call : ListedCall} (fault : Fault) :
    Answers signer (.hook .listed apiKey call) (.failed fault) none
  | sent {apiKey : Json} {call : ListedCall} {signed : SignedHeaders} {n : Int}
      {request : ListedRequest} {fields : List Field} (hbears : signed.Bears signer n)
      (hrequest : ListedRequest.make call.method call.address call.fields call.content =
        .ok request)
      (hfields : Hook.sentFields ⟨signer, apiKey⟩ request.fields signed = .ok fields) :
    Answers signer (.hook .listed apiKey call) (.listed request.url.text fields) (some n)

namespace State

variable {state : State} {place : Nat} {enrolled : Enrolled}

theorem standing?_moveClock (h : state.signers[place]? = some enrolled) (clock : Clock) :
    (state.moveClock place clock).standing? place = some (enrolled.signer, clock) := by
  obtain ⟨signer, time⟩ := enrolled
  obtain ⟨hplace, -⟩ := List.getElem?_eq_some_iff.mp h
  rw [moveClock, h]
  cases time with
  | shared =>
    rw [standing?, h]
    rfl
  | own =>
    rw [standing?, List.getElem?_set_self hplace]
    rfl

theorem standing?_settle_ready {α : Type} {task : Task} (h : state.signers[place]? = some enrolled)
    (run : Run α) : ((task.ready state place).settle place run).1.standing? place =
      some (enrolled.signer, run.clock) := by
  have hready : (task.ready state place).signers[place]? = some enrolled := by
    rw [Task.signers_ready, h]
  exact standing?_moveClock hready run.clock

/-- What a task does to the signer at a place: its clock is drawn on, and the task is answered with
the time that is drawn. -/
def Drawn (place : Nat) (task : Task) (signer : Signer) (clock : Clock)
    (performed : State × Reply × List Line) : Prop :=
  ∃ after stamp, clock.Draws after stamp ∧
    performed.1.standing? place = some (signer, after) ∧
    task.Answers signer performed.2.1 stamp

theorem drawn_sign (h : state.signers[place]? = some enrolled) (url : Json) (body : Payload) :
    Drawn place (.sign url body .null) enrolled.signer (state.clockOf enrolled)
      (state.perform place (.sign url body .null)) := by
  obtain ⟨stamp, hdraws, hsigns⟩ :=
    enrolled.signer.exists_signs (state.clockOf enrolled) url body
  change Drawn place _ _ _ (signStep _ url body .null)
  rw [signStep, withCurrent, current?_ready_sign, h]
  dsimp only [Option.map_some]
  rw [Task.clockOf_ready]
  split
  · exact ⟨_, none, hdraws.exists_none, standing?_settle_ready h _, .unsigned _⟩
  · rename_i signed hsigned
    obtain ⟨_, hresult, hfields⟩ := exists_of_bind_eq_ok hsigned
    obtain ⟨_, -, rfl⟩ := exists_of_map_eq_ok hfields
    rw [hresult] at hsigns
    cases hsigns with
    | signed hbears => exact ⟨_, _, hdraws, standing?_settle_ready h _, .signed hbears⟩

theorem drawn_apply (h : state.signers[place]? = some enrolled) (headers : Headers) (url : Json)
    (body : Payload) :
    Drawn place (.apply headers url body) enrolled.signer (state.clockOf enrolled)
      (state.perform place (.apply headers url body)) := by
  obtain ⟨stamp, hdraws, happlies⟩ :=
    enrolled.signer.exists_applies (state.clockOf enrolled) (some headers) url body
  change Drawn place _ _ _ (applyStep _ url body)
  rw [applyStep, current?_ready_apply, h]
  dsimp only [Option.map_some]
  rw [Task.clockOf_ready]
  have hheaders : ((Task.apply headers url body).ready state place).headers = headers := rfl
  rw [hheaders]
  generalize enrolled.signer.apply (state.clockOf enrolled) (some headers) url body = applied at *
  obtain ⟨⟨result, events, clock⟩, after⟩ := applied
  dsimp only at hdraws happlies ⊢
  cases happlies with
  | refused fault => exact ⟨_, none, hdraws, standing?_settle_ready h _, .unapplied fault⟩
  | added hbears hentries hadd =>
    obtain ⟨hafter, hfault⟩ := Prod.mk.inj hadd
    rw [← hafter]
    exact ⟨_, _, hdraws, standing?_settle_ready h _,
      .applied hbears hentries (Prod.ext rfl hfault)⟩
  | stopped hbears hentries hadd =>
    obtain ⟨hafter, hfault⟩ := Prod.mk.inj hadd
    rw [← hafter]
    exact ⟨_, _, hdraws, standing?_settle_ready h _,
      .appliedPart hbears hentries (Prod.ext rfl hfault)⟩

theorem standing?_ready_of_found (h : state.signers[place]? = some enrolled) (task : Task) :
    (task.ready state place).standing? place =
      some (enrolled.signer, state.clockOf enrolled) := by
  rw [standing?_ready, standing?, h]
  rfl

theorem drawn_mapped (h : state.signers[place]? = some enrolled) (apiKey : Json)
    (call : MappedCall) :
    Drawn place (.hook .mapped apiKey call) enrolled.signer (state.clockOf enrolled)
      (state.perform place (.hook .mapped apiKey call)) := by
  have hhook : State.hookAt? _ (State.mappedHook _) = _ :=
    hookAt?_ready_of_found h .mapped apiKey call
  change Drawn place _ _ _ (callMappedStep _ call)
  rw [callMappedStep, hhook]
  dsimp only
  rw [Task.clockOf_ready]
  split
  · rename_i hbefore
    exact ⟨_, none, .unread, standing?_ready_of_found h _, .unmapped hbefore⟩
  · rename_i before hbefore
    obtain ⟨stamp, hdraws, hattaches⟩ := Hook.exists_attaches ⟨enrolled.signer, apiKey⟩
      (state.clockOf enrolled) ⟨call.method, call.url, before, call.body⟩
    generalize Hook.attachMapped ⟨enrolled.signer, apiKey⟩ (state.clockOf enrolled)
      ⟨call.method, call.url, before, call.body⟩ = attached at *
    obtain ⟨⟨result, events, clock⟩, after⟩ := attached
    dsimp only at hdraws hattaches ⊢
    cases hattaches with
    | refused fault =>
      exact ⟨_, none, hdraws, standing?_settle_ready h _, .unattached hbefore fault⟩
    | added hbears hentries hadd =>
      exact ⟨_, _, hdraws, standing?_settle_ready h _, .attached hbears hbefore hentries hadd⟩
    | stopped hbears hentries hadd =>
      exact ⟨_, _, hdraws, standing?_settle_ready h _,
        .attachedPart hbears hbefore hentries hadd⟩

theorem drawn_listed (h : state.signers[place]? = some enrolled) (apiKey : Json)
    (call : ListedCall) :
    Drawn place (.hook .listed apiKey call) enrolled.signer (state.clockOf enrolled)
      (state.perform place (.hook .listed apiKey call)) := by
  have hhook : State.hookAt? _ (State.listedHook _) = _ :=
    hookAt?_ready_of_found h .listed apiKey call
  change Drawn place _ _ _ (callListedStep _ call)
  rw [callListedStep, hhook]
  dsimp only
  rw [Task.clockOf_ready]
  split
  · exact ⟨_, none, .unread, standing?_ready_of_found h _, .unsent _⟩
  · rename_i request hrequest
    obtain ⟨stamp, hdraws, hpasses⟩ := Hook.exists_passes ⟨enrolled.signer, apiKey⟩
      (state.clockOf enrolled) request call.isRead
    generalize Hook.passListed ⟨enrolled.signer, apiKey⟩ (state.clockOf enrolled) request
      call.isRead = passed at *
    obtain ⟨⟨result, events, clock⟩, after⟩ := passed
    dsimp only at hdraws hpasses ⊢
    cases hpasses with
    | refused fault => exact ⟨_, none, hdraws, standing?_settle_ready h _, .unsent fault⟩
    | @sent signed n fields hbears hfields =>
      have hanswers : Task.Answers enrolled.signer (.hook .listed apiKey call)
        (.listed request.url.text fields) (some n) := .sent hbears hrequest hfields
      exact ⟨_, _, hdraws, standing?_settle_ready h _, hanswers⟩

/-- A task that is given no time draws on the clock of its signer. -/
theorem drawn_perform {signer : Signer} {clock : Clock} {task : Task}
    (hstands : state.standing? place = some (signer, clock)) (htask : ¬ task.GivesTime) :
    Drawn place task signer clock (state.perform place task) := by
  obtain ⟨enrolled, hfound, hview⟩ := Option.map_eq_some_iff.mp hstands
  obtain ⟨rfl, rfl⟩ := Prod.mk.inj hview
  cases task with
  | sign url body time =>
    obtain rfl : time = .null := not_not.mp htask
    exact drawn_sign hfound url body
  | apply headers url body => exact drawn_apply hfound headers url body
  | hook kind apiKey request =>
    cases kind with
    | mapped => exact drawn_mapped hfound apiKey request
    | listed => exact drawn_listed hfound apiKey request

/-! ### The clock of a run -/

/-- The tasks of a signer that are given no time, one after the other: what each is answered, and
the times that they write. If the clock rises, these are times that it reads, and they rise. -/
theorem exists_stamps : ∀ {tasks : List Task} {state : State} {signer : Signer} {clock : Clock},
    state.standing? place = some (signer, clock) → clock.Rises →
    (∀ task ∈ tasks, ¬ task.GivesTime) →
    ∃ stamps : List (Option Int),
      List.Forall₂ (fun answer stamp => Task.Answers signer answer.1 answer.2 stamp)
        (tasks.zip (state.performAll (tasks.map (Job.mk place))).2) stamps ∧
      (∀ n ∈ stamps.reduceOption, ∃ k, (clock.nth k).milliseconds = .ok n) ∧
      stamps.reduceOption.Pairwise (· ≤ ·)
  | [], _, _, _, _, _, _ => ⟨[], .nil, (fun _ h => by cases h), .nil⟩
  | task :: tasks, state, signer, clock, hstands, hrises, hgiven => by
    obtain ⟨htask, htasks⟩ := List.forall_mem_cons.mp hgiven
    obtain ⟨after, stamp, hdraws, hafter, hanswers⟩ := drawn_perform hstands htask
    have hrises' : after.Rises := by
      cases hdraws with
      | unread => exact hrises
      | unused => exact hrises.read
      | used => exact hrises.read
    obtain ⟨stamps, hall, hread, hsorted⟩ := exists_stamps hafter hrises' htasks
    refine ⟨stamp :: stamps, .cons hanswers hall, ?_⟩
    -- what the others write are readings of the clock behind the one of this task
    cases hdraws with
    | unread => exact ⟨hread, hsorted⟩
    | unused =>
      refine ⟨fun n hn => ?_, hsorted⟩
      obtain ⟨k, hk⟩ := hread n hn
      exact ⟨k + 1, hk⟩
    | @used n hn =>
      rw [List.reduceOption_cons_of_some]
      refine ⟨List.forall_mem_cons.mpr ⟨⟨0, hn⟩, fun m hm => ?_⟩, List.pairwise_cons.mpr
        ⟨fun m hm => ?_, hsorted⟩⟩
      · obtain ⟨k, hk⟩ := hread m hm
        exact ⟨k + 1, hk⟩
      · obtain ⟨k, hk⟩ := hread m hm
        exact hrises.le_of_later (k := k + 1) hn hk

/-- **Timestamps never go backwards and are accurate.** Where 1000 times a number of seconds is
rounded to a double, a signer reads that double cut towards zero as the time, which is off by less
than one millisecond and a small part of the time, and is exact for whole seconds of up to 53 bits
in milliseconds; of two numbers the greater one has no earlier time. A clock that gives whole
numbers has times that are exact without a bound. So if a clock gives doubles that never go back,
then the times that its signer writes in any run of tasks without given times never do. -/
theorem times_rise {signer : Signer} (hreads : signer.ReadsTime) :
    (∀ x v : Rat, Reading.TimedAt x v →
      ∃ n, signer.timeAt (.double (.finite x)) = .ok n ∧
        |(n : Rat) - 1000 * x| < 1 + 2 ^ (-53 : Int) * |1000 * x| ∧
        (0 ≤ v → n = ⌊v⌋) ∧ (v ≤ 0 → n = ⌈v⌉)) ∧
    (∀ x y : Rat, x ≤ y → ∀ n m, signer.timeAt (.double (.finite x)) = .ok n →
      signer.timeAt (.double (.finite y)) = .ok m → n ≤ m) ∧
    (∀ k : Int, |1000 * k| ≤ 2 ^ 53 → signer.timeAt (.double (.finite k)) = .ok (1000 * k)) ∧
    (∀ k : Int, signer.timeAt (.seconds k) = .ok (1000 * k)) ∧
    ∀ (state : State) (place : Nat) (clock : Clock),
      state.standing? place = some (signer, clock) → clock.Rises →
      ∀ tasks : List Task, (∀ task ∈ tasks, ¬ task.GivesTime) →
        ∃ stamps : List (Option Int),
          List.Forall₂ (fun answer stamp => Task.Answers signer answer.1 answer.2 stamp)
            (tasks.zip (state.performAll (tasks.map (Job.mk place))).2) stamps ∧
          (∀ n ∈ stamps.reduceOption, ∃ k, signer.timeAt (clock.nth k) = .ok n) ∧
          stamps.reduceOption.Pairwise (· ≤ ·) := by
  simp only [hreads.timeAt_eq]
  refine ⟨fun x v hv => ?_, fun x y hxy n m hn hm => Reading.milliseconds_mono hxy hn hm,
    fun k hk => Reading.milliseconds_whole hk, fun k => rfl, ?_⟩
  · have htime := hv.milliseconds_eq
    exact ⟨_, htime, Reading.abs_milliseconds_sub_lt htime, Number.truncate_of_nonneg,
      Number.truncate_of_nonpos⟩
  · intro state place clock hstands hrises tasks htasks
    exact exists_stamps hstands hrises htasks

/-- A clock that is read a little before the epoch, a tenth of a second behind it and much later. A
tenth is no double; the next one is a little more, and so is 1000 times as much, which is rounded
down to 100. -/
theorem times_rise_tenth :
    let signer := Signer.named (.text "secret") (.text "") "timestamp" "sign"
    let tenth : Rat := 3602879701896397 / 36028797018963968
    let clock : Clock :=
      ⟨[.double (.finite (-3 / 1024)), .double (.finite tenth)], .double (.finite 1700000000)⟩
    let start : State := .initial (.ofFunction Setting.default) (.always (.seconds 1)) .initial
    let state : State := (run start
      [.makeSigner (.text "secret") (.text "") (.text "timestamp") (.text "sign") clock]).1
    let tasks : List Task :=
      [.sign (.string "/a") .absent .null, .sign (.string "/a") (.stream []) .null,
        .apply (.empty .exact) (.string "/b") (.text "x"),
        .hook .mapped (.string "key") ⟨.string "GET", .string "/c", some [], .absent⟩]
    signer.ReadsTime ∧ Reading.TimedAt tenth 100 ∧
      signer.timeAt (.double (.finite tenth)) = .ok 100 ∧
      signer.timeAt (.double (.finite (-1700000000))) = .ok (-1700000000000) ∧
      signer.timeAt (.seconds (10 ^ 400)) = .ok (1000 * 10 ^ 400) ∧
      state.standing? 0 = some (signer, clock) ∧ clock.Rises ∧
      ∃ stamps : List (Option Int),
        List.Forall₂ (fun answer stamp => Task.Answers signer answer.1 answer.2 stamp)
          (tasks.zip (state.performAll (tasks.map (Job.mk 0))).2) stamps ∧
        stamps.reduceOption.Pairwise (· ≤ ·) := by
  intro signer tenth clock start state tasks
  have hmake : Signer.make (.text "secret") (.text "") (.text "timestamp") (.text "sign") =
      .ok signer := rfl
  have hreads : signer.ReadsTime := Signer.readsTime_of_make hmake
  have hstands : state.standing? 0 = some (signer, clock) := rfl
  have htimed : Reading.TimedAt tenth 100 := Reading.times_eq_finite_iff.mp (by decide +kernel)
  have hrises : clock.Rises := by
    refine ⟨fun k => if k = 0 then -3 / 1024 else if k = 1 then tenth else 1700000000,
      monotone_nat_of_le_succ fun k => ?_, fun k => ?_⟩
    · match k with
      | 0 => norm_num [tenth]
      | 1 => norm_num [tenth]
      | k + 2 => simp
    · match k with
      | 0 => rfl
      | 1 => rfl
      | k + 2 =>
        induction k with
        | zero => rfl
        | succ k ih => exact ih
  have hgiven : ∀ task ∈ tasks, ¬ task.GivesTime := by
    simp [tasks, Task.GivesTime]
  obtain ⟨haccurate, -, hwhole, hexact, hrun⟩ := times_rise hreads
  obtain ⟨n, hn, -, hfloor, -⟩ := haccurate tenth 100 htimed
  obtain ⟨stamps, hanswers, -, hsorted⟩ := hrun state 0 clock hstands hrises tasks hgiven
  have hhundred : n = 100 := by
    have hfloor := hfloor (by norm_num)
    simpa using hfloor
  refine ⟨hreads, htimed, hhundred ▸ hn, ?_, hexact _, hstands, hrises, stamps, hanswers, hsorted⟩
  have hpast := hwhole (-1700000000) (by decide)
  simpa using hpast

end State

end Session

end SignedHttp
