import SignedHttp.Proofs.Secrets.Settings
import SignedHttp.Session

/-!
# Sessions that differ in secrets only

Two states of a session are alike if they differ in the secrets of their signers and settings only,
and in the signatures that stand in their headers (`Session.State.Alike`). Each signer then reads
the same clock as its counterpart, the current signers stand at the same place, and so do those of
the hooks (`State.Alike.current?`, `State.Alike.hookAt?`). What a step does to a state besides
signing keeps states alike: moving a clock, counting and logging the same, a new signer, other
headers (`State.Alike.moveClock`, `State.Alike.settle`, `State.Alike.enroll`,
`State.Alike.withHeaders`).

Key definitions: `Session.Enrolled.Alike`, `Session.State.Alike`, `Session.Reply.Alike`,
`Session.OutcomeAlike`.
Key theorems: `Session.Enrolled.Alike.changed`, `Session.State.Alike.settle`.
-/

namespace SignedHttp

namespace Session

/-! ### Signers -/

/-- Two signers that differ in the secret only and read the same clock. -/
structure Enrolled.Alike (a b : Enrolled) : Prop where
  signer : a.signer.Alike b.signer
  time : b.time = a.time

namespace Enrolled.Alike

variable {a b : Enrolled}

theorem exists_withSecret (h : a.Alike b) : ∃ other, a.signer.secret.SecretAlike other ∧
    b = ⟨a.signer.withSecret other, a.time⟩ := by
  obtain ⟨signer, time⟩ := b
  obtain ⟨⟨hsecret, hrest⟩, htime⟩ := h
  exact ⟨signer.secret, hsecret, by rw [← hrest, ← htime]⟩

theorem of_withSecret {signer : Signer} {other : Payload}
    (h : signer.secret.SecretAlike other) (time : TimeSource) :
    Alike ⟨signer, time⟩ ⟨signer.withSecret other, time⟩ :=
  ⟨⟨h, rfl⟩, rfl⟩

theorem make (h : a.Alike b) (value : Payload) (part : Signer.Part) :
    (a.make value part).Alike (b.make value part) := by
  obtain ⟨other, hother, rfl⟩ := h.exists_withSecret
  cases part with
  | secret => exact ⟨⟨.inl rfl, rfl⟩, rfl⟩
  | _ => exact ⟨⟨hother, rfl⟩, rfl⟩

theorem set (h : a.Alike b) (value : Payload) (part : Part) :
    (a.set value part).Alike (b.set value part) := by
  cases part with
  | made part => exact h.make value part
  | other => exact h
  | operation operation =>
    obtain ⟨other, hother, rfl⟩ := h.exists_withSecret
    exact ⟨⟨hother, rfl⟩, rfl⟩

theorem setSecret (h : a.Alike b) {value other : Payload} (hvalue : value.SecretAlike other) :
    (a.set value (.made .secret)).Alike (b.set other (.made .secret)) := by
  obtain ⟨_, -, rfl⟩ := h.exists_withSecret
  exact ⟨⟨hvalue, rfl⟩, rfl⟩

theorem setClock (h : a.Alike b) (clock : Clock) : (a.setClock clock).Alike (b.setClock clock) := by
  obtain ⟨other, hother, rfl⟩ := h.exists_withSecret
  exact ⟨⟨hother, rfl⟩, rfl⟩

theorem rebuild (h : a.Alike b) (members : List (String × Json)) :
    (a.rebuild members).Alike (b.rebuild members) := by
  suffices ∀ (members : List (String × Json)) {a b : Enrolled}, a.Alike b →
      (members.foldl (fun enrolled (member : String × Json) =>
        enrolled.set (.json member.2) (.ofName member.1)) a).Alike
      (members.foldl (fun enrolled (member : String × Json) =>
        enrolled.set (.json member.2) (.ofName member.1)) b) by
    obtain ⟨other, hother, rfl⟩ := h.exists_withSecret
    exact this members ⟨⟨hother, rfl⟩, rfl⟩
  intro members
  induction members with
  | nil => exact fun h => h
  | cons member members ih => exact fun h => ih (h.set _ _)

/-- A change keeps signers alike, also if it gives them secrets, or it is refused for the same
reason. -/
theorem changed (h : a.Alike b) (name : String) {value other : Payload}
    (hvalue : value = other ∨ name = Signer.Part.secret.name ∧ value.SecretAlike other) :
    ResultAlike Alike (State.changed a name value) (State.changed b name other) := by
  rcases hvalue with rfl | ⟨rfl, hvalue⟩
  · rw [State.changed, State.changed]
    split
    · exact .ok (h.set value _)
    · exact (ResultAlike.refl (fun _ => rfl) _).map fun members _ hmembers => hmembers ▸ h.rebuild _
  · exact .ok (h.setSecret hvalue)

end Enrolled.Alike

/-! ### Lists that are related one by one -/

theorem getElem?_forall₂ {α β : Type} {R : α → β → Prop} {l : List α} {m : List β}
    (h : List.Forall₂ R l m) : ∀ i : Nat, (l[i]? = none ∧ m[i]? = none) ∨
      ∃ a b, l[i]? = some a ∧ m[i]? = some b ∧ R a b := by
  induction h with
  | nil => exact fun i => .inl ⟨rfl, rfl⟩
  | @cons a b _ _ hab _ ih =>
    intro i
    cases i with
    | zero => exact .inr ⟨a, b, rfl, rfl, hab⟩
    | succ i => exact ih i

theorem set_forall₂ {α β : Type} {R : α → β → Prop} {l : List α} {m : List β}
    (h : List.Forall₂ R l m) {a : α} {b : β} (hab : R a b) :
    ∀ i : Nat, List.Forall₂ R (l.set i a) (m.set i b) := by
  induction h with
  | nil => exact fun _ => .nil
  | cons hhead htail ih =>
    intro i
    cases i with
    | zero => exact .cons hab htail
    | succ i => exact .cons hhead (ih i)

/-! ### States -/

def State.exchange (state : State) (settings : Settings) (signers : List Enrolled)
    (headers : Headers) : State :=
  { state with settings := settings, signers := signers, headers := headers }

/-- Two states that differ in the secrets of settings and signers and in signatures in the headers
only. -/
structure State.Alike (names : Payload → Prop) (a b : State) : Prop where
  settings : a.settings.Alike b.settings
  signers : List.Forall₂ Enrolled.Alike a.signers b.signers
  headers : Headers.Alike names a.headers b.headers
  rest : b = a.exchange b.settings b.signers b.headers

/-- Two answers that differ in signatures and secrets only. -/
inductive Reply.Alike (names : Payload → Prop) : Reply → Reply → Prop
  | same (reply : Reply) : Alike names reply reply
  | failedWith (fault : Fault) {x y : Option Headers} (h : Option.Rel (Headers.Alike names) x y) :
    Alike names (.failedWith fault x) (.failedWith fault y)
  | signer {a b : Signer} (h : a.Alike b) : Alike names (.signer a) (.signer b)
  | settings {a b : Settings} (h : a.Alike b) (hasSecret : Bool) :
    Alike names (.settings a hasSecret) (.settings b hasSecret)
  | signed {a b : SignedHeaders} (h : a.Alike b) : Alike names (.signed a) (.signed b)
  | headers {a b : Headers} (h : Headers.Alike names a b) : Alike names (.headers a) (.headers b)
  | applied {a b : SignedHeaders} {x y : Headers} (h : a.Alike b)
    (hheaders : Headers.Alike names x y) : Alike names (.applied a x) (.applied b y)
  | mapped {x y : Option Headers} (h : Option.Rel (Headers.Alike names) x y) :
    Alike names (.mapped x) (.mapped y)
  | listed (url : String) {fields others : List Field}
    (h : List.Forall₂ (SentAlike names) fields others) :
    Alike names (.listed url fields) (.listed url others)

/-- What two steps lead to: states and answers that are alike, and the same lines. -/
structure OutcomeAlike (names : Payload → Prop) (x y : State × Reply × List Line) : Prop where
  state : x.1.Alike names y.1
  reply : x.2.1.Alike names y.2.1
  lines : x.2.2 = y.2.2

namespace State.Alike

variable {names : Payload → Prop} {a b : State}

theorem exists_exchange (h : a.Alike names b) : ∃ settings signers headers,
    a.settings.Alike settings ∧ List.Forall₂ Enrolled.Alike a.signers signers ∧
      Headers.Alike names a.headers headers ∧ b = a.exchange settings signers headers :=
  ⟨_, _, _, h.settings, h.signers, h.headers, h.rest⟩

/-- What concerns neither settings nor signers nor headers keeps states alike. -/
theorem update (h : a.Alike names b) (f : State → State)
    (hf : ∀ (state : State) (settings : Settings) (signers : List Enrolled) (headers : Headers),
      f (state.exchange settings signers headers) = (f state).exchange settings signers headers) :
    State.Alike names (f a) (f b) := by
  obtain ⟨settings, signers, headers, hsettings, hsigners, hheaders, rfl⟩ := h.exists_exchange
  have hkept : f a = (f a).exchange a.settings a.signers a.headers :=
    hf a a.settings a.signers a.headers
  rw [hf a settings signers headers]
  generalize f a = updated at hkept ⊢
  rw [hkept]
  exact ⟨hsettings, hsigners, hheaders, rfl⟩

theorem withSettings (h : a.Alike names b) {x y : Settings} (hsettings : x.Alike y) :
    State.Alike names { a with settings := x } { b with settings := y } := by
  obtain ⟨settings, signers, headers, -, hsigners, hheaders, rfl⟩ := h.exists_exchange
  exact ⟨hsettings, hsigners, hheaders, rfl⟩

theorem withHeaders (h : a.Alike names b) {x y : Headers} (hheaders : Headers.Alike names x y) :
    State.Alike names { a with headers := x } { b with headers := y } := by
  obtain ⟨settings, signers, headers, hsettings, hsigners, -, rfl⟩ := h.exists_exchange
  exact ⟨hsettings, hsigners, hheaders, rfl⟩

theorem withSigner (h : a.Alike names b) (place : Nat) {x y : Enrolled} (hsigner : x.Alike y) :
    State.Alike names { a with signers := a.signers.set place x }
      { b with signers := b.signers.set place y } := by
  obtain ⟨settings, signers, headers, hsettings, hsigners, hheaders, rfl⟩ := h.exists_exchange
  exact ⟨hsettings, set_forall₂ hsigners hsigner place, hheaders, rfl⟩

theorem initial (names : Payload → Prop) {settings other : Settings}
    (h : settings.Alike other) (clock : Clock) (telemetry : Telemetry) :
    State.Alike names (.initial settings clock telemetry) (.initial other clock telemetry) :=
  ⟨h, .nil, .refl names _, rfl⟩

theorem telemetry (h : a.Alike names b) : b.telemetry = a.telemetry := by
  rw [h.rest]
  rfl

theorem current? (h : a.Alike names b) : (a.current? = none ∧ b.current? = none) ∨
    ∃ place enrolled other, a.current? = some (place, enrolled) ∧
      b.current? = some (place, ⟨enrolled.signer.withSecret other, enrolled.time⟩) ∧
      enrolled.signer.secret.SecretAlike other := by
  obtain ⟨settings, signers, headers, -, hsigners, -, rfl⟩ := h.exists_exchange
  rw [State.current?, State.current?, exchange]
  dsimp only
  cases a.current with
  | none => exact .inl ⟨rfl, rfl⟩
  | some place =>
    rcases getElem?_forall₂ hsigners place with ⟨ha, hb⟩ | ⟨enrolled, found, ha, hb, hfound⟩
    · simp only [Option.bind_eq_bind, Option.bind_some, ha, hb]
      exact .inl ⟨rfl, rfl⟩
    · obtain ⟨other, hother, rfl⟩ := hfound.exists_withSecret
      simp only [Option.bind_eq_bind, Option.bind_some, ha, hb]
      exact .inr ⟨place, enrolled, other, rfl, rfl, hother⟩

theorem hookAt? (h : a.Alike names b) (placed : Option PlacedHook) :
    (a.hookAt? placed = none ∧ b.hookAt? placed = none) ∨
      ∃ place enrolled other hook, a.hookAt? placed = some (place, enrolled, hook) ∧
        b.hookAt? placed = some (place, ⟨enrolled.signer.withSecret other, enrolled.time⟩,
          hook.withSecret other) ∧
        hook.signer.secret.SecretAlike other := by
  obtain ⟨settings, signers, headers, -, hsigners, -, rfl⟩ := h.exists_exchange
  rw [State.hookAt?, State.hookAt?, exchange]
  dsimp only
  cases placed with
  | none => exact .inl ⟨rfl, rfl⟩
  | some hook =>
    rcases getElem?_forall₂ hsigners hook.place with ⟨ha, hb⟩ | ⟨enrolled, found, ha, hb, hfound⟩
    · simp only [Option.bind_eq_bind, Option.bind_some, ha, hb]
      exact .inl ⟨rfl, rfl⟩
    · obtain ⟨other, hother, rfl⟩ := hfound.exists_withSecret
      simp only [Option.bind_eq_bind, Option.bind_some, ha, hb]
      exact .inr ⟨hook.place, enrolled, other, _, rfl, rfl, hother⟩

theorem moveClock (h : a.Alike names b) (place : Nat) (clock : Clock) :
    (a.moveClock place clock).Alike names (b.moveClock place clock) := by
  rw [State.moveClock, State.moveClock]
  rcases getElem?_forall₂ h.signers place with ⟨ha, hb⟩ | ⟨enrolled, found, ha, hb, hfound⟩
  · rw [ha, hb]
    exact h
  · obtain ⟨other, hother, rfl⟩ := hfound.exists_withSecret
    obtain ⟨signer, time⟩ := enrolled
    rw [ha, hb]
    cases time with
    | shared => exact h.update (fun state => { state with clock := clock }) fun _ _ _ _ => rfl
    | own _ => exact h.withSigner place (.of_withSecret hother _)

/-- Runs that log and count the same leave states alike, and the same lines. -/
theorem settle (h : a.Alike names b) {α β : Type} (place : Nat) {x : Run α} {y : Run β}
    (hevents : x.events = y.events) (hclock : x.clock = y.clock) :
    (a.settle place x).1.Alike names (b.settle place y).1 ∧
      (a.settle place x).2 = (b.settle place y).2 := by
  have hmoved := h.moveClock place x.clock
  rw [hclock] at hmoved
  rw [State.settle, State.settle, hevents, hclock]
  refine ⟨hmoved.update (fun state => (state.absorb y.events).1) fun _ _ _ _ => rfl, ?_⟩
  rw [absorb, absorb, hmoved.telemetry]

theorem clockOf (h : a.Alike names b) (enrolled : Enrolled) (other : Payload) :
    b.clockOf ⟨enrolled.signer.withSecret other, enrolled.time⟩ = a.clockOf enrolled := by
  rw [h.rest]
  rfl

theorem quiet (h : a.Alike names b) (reply : Reply) :
    OutcomeAlike names (a.quiet reply) (b.quiet reply) :=
  ⟨h, .same reply, rfl⟩

theorem enroll (h : a.Alike names b) {signer other : Signer} (hsigner : signer.Alike other)
    (time : TimeSource) :
    State.Alike names (a.enroll ⟨signer, time⟩).1 (b.enroll ⟨other, time⟩).1 ∧
      (a.enroll ⟨signer, time⟩).2 = (b.enroll ⟨other, time⟩).2 := by
  obtain ⟨settings, signers, headers, hsettings, hsigners, hheaders, rfl⟩ := h.exists_exchange
  refine ⟨⟨hsettings, ?_, hheaders, rfl⟩, hsigners.length_eq⟩
  exact List.rel_append hsigners (.cons ⟨hsigner, rfl⟩ .nil)

theorem install (h : a.Alike names b) {signer other : Signer} (hsigner : signer.Alike other)
    (clock : Clock) : State.Alike names (a.install signer clock) (b.install other clock) := by
  obtain ⟨hstate, hplace⟩ := h.enroll hsigner (.own clock)
  rw [State.install, State.install]
  revert hstate hplace
  generalize a.enroll _ = x
  generalize b.enroll _ = y
  obtain ⟨a, place⟩ := x
  obtain ⟨b, _⟩ := y
  rintro h rfl
  exact h.update (fun state => { state with current := some place }) fun _ _ _ _ => rfl

end State.Alike

end Session

end SignedHttp
