import SignedHttp.Proofs.Secrets.Signing
import SignedHttp.Settings.Sources

/-!
# Settings that differ in the secret only

Settings are alike if they differ in nothing but two secrets (`Settings.Alike`). They describe
signers that are alike, or none for the same reason (`Settings.Alike.ofSettings`), and they are what
comes of sources whose arguments differ in the values for the secret only (`Sources.Alike.resolve`).
An argument gives the secret in any letter case of its name; what says how sources are read, or
brings a command line, has other names, so that it is the same for both.

Key definitions: `Settings.Alike`, `ArgumentAlike`, `Sources.Alike`.
Key theorems: `Settings.Alike.ofSettings`, `Sources.Alike.resolve`, `Sources.resolveAlone_alike`.
-/

namespace SignedHttp

/-- The kind of a setting that has these bytes for a secret, or is refused as one. -/
def kindOfKey : Except Fault (List UInt8) → String
  | .error (.unusableSecret kind) => kind
  | _ => "str"

theorem kindOfKey_keyBytes (value : Json) :
    kindOfKey (Payload.json value).keyBytes = value.kind := by
  cases value <;> rfl

/-- Settings that are as good as one another for a secret are of one kind. -/
theorem Json.kind_eq_of_keyBytes {a b : Json}
    (h : ResultAlike (fun _ _ => True) (Payload.json a).keyBytes (Payload.json b).keyBytes) :
    a.kind = b.kind := by
  rw [← kindOfKey_keyBytes a, ← kindOfKey_keyBytes b]
  revert h
  generalize (Payload.json a).keyBytes = x
  generalize (Payload.json b).keyBytes = y
  rintro (_ | _) <;> rfl

theorem Settings.hasSecret_of_isEmpty {settings : Settings} (h : settings.secret.isEmpty = false) :
    settings.hasSecret =
      if settings.secret.kind ∈ ["int", "bool"] then .error (.unsized settings.secret.kind)
      else .ok true := by
  rw [hasSecret]
  revert h
  cases settings.secret with
  | bool | number => exact fun _ => rfl
  | _ => exact fun h => congrArg (fun isEmpty => Except.ok !isEmpty) h

theorem Sources.fits_eq (setting : Setting) (value : Json) :
    fits setting value =
      (value.kind = "str" || (value.kind = "NoneType" && setting.mayBeNull)) := by
  cases value <;> rfl

/-- Two values for a setting that are equal, or secrets if it is the setting for these. -/
def SettingAlike (setting : Setting) (a b : Json) : Prop :=
  a = b ∨ setting = .secret ∧ (Payload.json a).SecretAlike (.json b)

structure Settings.Alike (a b : Settings) : Prop where
  secret : (Payload.json a.secret).SecretAlike (.json b.secret)
  rest : b = { a with secret := b.secret }

namespace Settings.Alike

variable {a b : Settings}

theorem refl (settings : Settings) : settings.Alike settings :=
  ⟨.inl rfl, rfl⟩

theorem hasSecret (h : a.Alike b) : a.hasSecret = b.hasSecret := by
  rcases h.secret with hsame | ⟨⟨ha, hb⟩, hkey⟩
  · rw [h.rest, ← Payload.json.inj hsame]
  · rw [Settings.hasSecret_of_isEmpty ha, Settings.hasSecret_of_isEmpty hb,
      Json.kind_eq_of_keyBytes hkey]

/-- Changing a setting keeps settings alike, also if it gives them secrets. -/
theorem set (h : a.Alike b) (setting : Setting) {value other : Json}
    (hvalue : SettingAlike setting value other) :
    (a.set setting value).Alike (b.set setting other) := by
  obtain ⟨hsecret, hrest⟩ := h
  rw [hrest]
  cases setting with
  | secret => exact ⟨hvalue.elim (fun h => .inl (congrArg Payload.json h)) And.right, rfl⟩
  | _ =>
    obtain rfl : value = other := hvalue.resolve_right fun h => by cases h.1
    exact ⟨hsecret, rfl⟩

theorem ofSettings (h : a.Alike b) :
    ResultAlike Signer.Alike (Signer.ofSettings a) (Signer.ofSettings b) := by
  obtain ⟨hsecret, hrest⟩ := h
  rw [hrest, Signer.ofSettings, Signer.ofSettings, Signer.make, Signer.make, hsecret.isEmpty]
  dsimp only
  split
  · exact .error _
  · exact .ok ⟨hsecret, rfl⟩

end Settings.Alike

theorem SettingAlike.fits {setting : Setting} {a b : Json} (h : SettingAlike setting a b) :
    Sources.fits setting a = Sources.fits setting b := by
  rcases h with rfl | ⟨-, hsame | ⟨-, hkey⟩⟩
  · rfl
  · rw [Payload.json.inj hsame]
  · rw [Sources.fits_eq, Sources.fits_eq, Json.kind_eq_of_keyBytes hkey]

theorem Settings.Alike.ofFunction {value other : Setting → Json}
    (h : ∀ setting, SettingAlike setting (value setting) (other setting)) :
    Settings.Alike (.ofFunction value) (.ofFunction other) := by
  have hsame : ∀ {setting}, setting ≠ .secret → value setting = other setting :=
    fun hne => (h _).resolve_right fun h => hne h.1
  refine ⟨(h .secret).elim (fun h => .inl (congrArg Payload.json h)) And.right, ?_⟩
  rw [Settings.ofFunction, Settings.ofFunction, hsame (by decide : Setting.base ≠ _),
    hsame (by decide : Setting.apiKey ≠ _), hsame (by decide : Setting.timestampHeader ≠ _),
    hsame (by decide : Setting.signHeader ≠ _), hsame (by decide : Setting.logLevel ≠ _)]

/-! ### Arguments -/

/-- Two values that are equal, or secrets if the name is one for these in some letter case. -/
def GivenAlike (name : String) (a b : Json) : Prop :=
  a = b ∨ Text.lower name = Setting.secret.name ∧ (Payload.json a).SecretAlike (.json b)

def ArgumentAlike (a b : String × Json) : Prop :=
  a.1 = b.1 ∧ GivenAlike a.1 a.2 b.2

def AssignmentAlike (a b : Json × Json) : Prop :=
  a.1 = b.1 ∧ (a.2 = b.2 ∨ ∃ name, a.1 = .string name ∧ GivenAlike name a.2 b.2)

section Arguments

variable {arguments others : List (String × Json)}

theorem map_fst_of_alike (h : List.Forall₂ ArgumentAlike arguments others) :
    arguments.map Prod.fst = others.map Prod.fst :=
  map_fst_of_forall₂ h fun _ _ hargument => hargument.1

theorem any_fst_of_alike (h : List.Forall₂ ArgumentAlike arguments others) (p : String → Bool) :
    arguments.any (fun argument => p argument.1) = others.any fun argument => p argument.1 := by
  change arguments.any (p ∘ Prod.fst) = others.any (p ∘ Prod.fst)
  rw [← List.any_map, ← List.any_map, map_fst_of_alike h]

theorem lookup_alike (name : String) (h : List.Forall₂ ArgumentAlike arguments others) :
    Option.Rel (GivenAlike name) (arguments.lookup name) (others.lookup name) := by
  induction h with
  | nil => exact .none
  | @cons argument other _ _ hhead _ ih =>
    obtain ⟨key, value⟩ := argument
    obtain ⟨_, value'⟩ := other
    obtain ⟨rfl, hvalue⟩ := hhead
    rw [List.lookup_cons, List.lookup_cons]
    dsimp only at hvalue ⊢
    by_cases hname : name = key
    · subst hname
      rw [BEq.rfl]
      exact .some hvalue
    · rw [beq_false_of_ne hname]
      exact ih

theorem lookup_reverse_eq (h : List.Forall₂ ArgumentAlike arguments others) {name : String}
    (hname : Text.lower name ≠ Setting.secret.name) :
    arguments.reverse.lookup name = others.reverse.lookup name := by
  have halike := lookup_alike name (List.rel_reverse h)
  revert halike
  generalize arguments.reverse.lookup name = x
  generalize others.reverse.lookup name = y
  rintro (halike | -)
  · rw [halike.resolve_right fun h => hname h.1]
  · rfl

/-- So what says how sources are read is the same. -/
theorem value?_eq (h : List.Forall₂ ArgumentAlike arguments others) {name : String}
    (hname : Text.lower name ≠ Setting.secret.name) :
    Settings.Options.value? arguments name = Settings.Options.value? others name := by
  rw [Settings.Options.value?, Settings.Options.value?, lookup_reverse_eq h hname]

theorem ofArguments_eq (h : List.Forall₂ ArgumentAlike arguments others) :
    Settings.Options.ofArguments arguments = Settings.Options.ofArguments others := by
  simp only [Settings.Options.ofArguments, Settings.Options.checkCount,
    Settings.Options.openingBy, Settings.Options.readsFileBy, Settings.Options.encodingBy,
    lookup_reverse_eq h (by decide : Text.lower Settings.Options.fileArgument ≠ _),
    value?_eq h (by decide : Text.lower "_env_nested_max_split" ≠ _),
    value?_eq h (by decide : Text.lower "_case_sensitive" ≠ _),
    value?_eq h (by decide : Text.lower "_env_prefix" ≠ _),
    value?_eq h (by decide : Text.lower "_env_prefix_target" ≠ _),
    value?_eq h (by decide : Text.lower "_env_file_encoding" ≠ _),
    value?_eq h (by decide : Text.lower "_env_ignore_empty" ≠ _),
    value?_eq h (by decide : Text.lower "_env_parse_none_str" ≠ _)]

theorem checkSecrets_eq (h : List.Forall₂ ArgumentAlike arguments others) (hasFile : Bool) :
    Settings.Options.checkSecrets arguments hasFile =
      Settings.Options.checkSecrets others hasFile := by
  rw [Settings.Options.checkSecrets, Settings.Options.checkSecrets,
    value?_eq h (by decide : Text.lower Settings.Options.secretsArgument ≠ _)]

theorem bindings_eq (h : List.Forall₂ ArgumentAlike arguments others) :
    Settings.Command.bindings arguments = Settings.Command.bindings others := by
  simp only [Settings.Command.bindings, Settings.Command.ofArguments, Settings.Command.signBy,
    Settings.Command.openingBy, Settings.Command.holds, Settings.Command.ignoresCaseBy,
    Settings.Command.nullTextBy, List.findSome?_cons, List.findSome?_nil,
    value?_eq h (by decide : Text.lower Settings.Command.argument ≠ _),
    value?_eq h (by decide : Text.lower "_cli_flag_prefix_char" ≠ _),
    value?_eq h (by decide : Text.lower "_cli_prefix" ≠ _),
    value?_eq h (by decide : Text.lower "_cli_kebab_case" ≠ _),
    value?_eq h (by decide : Text.lower "_case_sensitive" ≠ _),
    value?_eq h (by decide : Text.lower "_env_parse_none_str" ≠ _),
    value?_eq h (by decide : Text.lower "_cli_parse_none_str" ≠ _),
    value?_eq h (by decide : Text.lower "_cli_avoid_json" ≠ _),
    value?_eq h (by decide : Text.lower "_cli_ignore_unknown_args" ≠ _),
    value?_eq h (by decide : Text.lower "_cli_exit_on_error" ≠ _)]

theorem name_eq_secret {setting : Setting} (h : setting.name = Setting.secret.name) :
    setting = .secret := by
  cases setting with
  | secret => rfl
  | _ => exact absurd h (by decide)

/-- What is found under a name in any letter case differs only if that is the secret's. -/
theorem firstNamed_alike (h : List.Forall₂ ArgumentAlike arguments others) (setting : Setting) :
    Option.Rel (SettingAlike setting) (firstNamed setting.name arguments)
      (firstNamed setting.name others) := by
  have hkey : ∀ arguments : List (String × Json), firstNamed setting.name arguments =
      ((arguments.map Prod.fst).find? (Text.lower · = setting.name)).bind
        (arguments.reverse.lookup ·) := fun arguments => by
    rw [firstNamed, List.find?_map, Option.bind_map]
    rfl
  rw [hkey, hkey, map_fst_of_alike h]
  cases hfound : (others.map Prod.fst).find? (Text.lower · = setting.name) with
  | none => exact .none
  | some key =>
    have hlower : Text.lower key = setting.name := by simpa using List.find?_some hfound
    have hgiven := lookup_alike key (List.rel_reverse h)
    revert hgiven
    dsimp only [Option.bind_some]
    generalize arguments.reverse.lookup key = x
    generalize others.reverse.lookup key = y
    rintro (hgiven | -)
    · exact .some (hgiven.imp_right fun h => ⟨name_eq_secret (hlower ▸ h.1), h.2⟩)
    · exact .none

end Arguments

/-! ### Sources -/

/-- Steps that are the same after the first, which is, too. -/
theorem ResultAlike.mapError_bind {α β : Type} {R : β → β → Prop} {e : SourceDefect → Fault}
    {x : Except SourceDefect α} {f g : α → Except SourceDefect β}
    (hnext : ∀ a, ResultAlike R ((f a).mapError e) ((g a).mapError e)) :
    ResultAlike R ((x >>= f).mapError e) ((x >>= g).mapError e) := by
  cases x with
  | error defect => exact .error _
  | ok a => exact hnext a

namespace Sources

/-- Sources that differ in arguments that are secrets only. -/
structure Alike (a b : Sources) : Prop where
  arguments : List.Forall₂ ArgumentAlike a.arguments b.arguments
  rest : b = { a with arguments := b.arguments }

namespace Alike

variable {a b : Sources}

theorem exists_arguments (h : a.Alike b) : ∃ others, List.Forall₂ ArgumentAlike a.arguments others ∧
    b = { a with arguments := others } :=
  ⟨_, h.arguments, h.rest⟩

theorem prepared (h : a.Alike b) :
    ResultAlike (fun x y => x.1 = y.1 ∧ x.2.Alike y.2) (a.prepared.mapError .unusableSource)
      (b.prepared.mapError .unusableSource) := by
  obtain ⟨others, hothers, rfl⟩ := h.exists_arguments
  rw [Sources.prepared, Sources.prepared, ← ofArguments_eq hothers, ← bindings_eq hothers,
    ← checkSecrets_eq hothers]
  refine .mapError_bind fun options => .mapError_bind fun file => .mapError_bind fun command => ?_
  split
  · exact .error _
  · exact .mapError_bind fun _ => .ok ⟨rfl, hothers, rfl⟩

theorem lookup (h : a.Alike b) (options : Settings.Options) (setting : Setting) :
    SettingAlike setting (a.lookup options setting) (b.lookup options setting) := by
  obtain ⟨others, hothers, rfl⟩ := h.exists_arguments
  rw [Sources.lookup, Sources.lookup]
  dsimp only
  cases a.command.reverse.lookup setting with
  | some given => exact .inl rfl
  | none =>
    have hfirst := firstNamed_alike hothers setting
    revert hfirst
    generalize firstNamed setting.name a.arguments = x
    generalize firstNamed setting.name others = y
    rintro (hgiven | -)
    · exact hgiven
    · exact .inl rfl

theorem defects (h : a.Alike b) (options : Settings.Options) :
    a.defects options = b.defects options := by
  have hfits : ∀ setting, fits setting (a.lookup options setting) =
      fits setting (b.lookup options setting) := fun setting => (h.lookup options setting).fits
  have hunknown : a.unknownArguments = b.unknownArguments := by
    rw [unknownArguments, unknownArguments, map_fst_of_alike h.arguments]
  have hfile : a.unknownFileNames options = b.unknownFileNames options := by rw [h.rest]; rfl
  rw [Sources.defects, Sources.defects, unknownNames, unknownNames, hunknown, hfile]
  simp only [hfits]

/-- Sources that are alike give settings that are, or none for the same reason. -/
theorem read (h : a.Alike b) : ResultAlike Settings.Alike a.read b.read := by
  rw [Sources.read, Sources.read]
  refine h.prepared.bind fun x y hxy => ?_
  obtain ⟨options, a⟩ := x
  obtain ⟨_, b⟩ := y
  obtain ⟨rfl, h⟩ := hxy
  dsimp only at h ⊢
  rw [h.defects options]
  split
  · refine .ok (.ofFunction fun setting => h.lookup options setting)
  · exact .error _

theorem resolve (h : a.Alike b) : ResultAlike Settings.Alike a.resolve b.resolve := by
  rw [Sources.resolve, Sources.resolve, any_fst_of_alike h.arguments (· = Settings.Options.ownName),
    value?_eq h.arguments (by decide : Text.lower Settings.Options.readyArgument ≠ _)]
  split
  · exact .error _
  · split
    · exact h.read
    · exact .refl .refl _

end Alike

theorem argumentsOf_alike {assignments others : List (Json × Json)}
    (h : List.Forall₂ AssignmentAlike assignments others) :
    ResultAlike (List.Forall₂ ArgumentAlike) (argumentsOf assignments) (argumentsOf others) := by
  induction h with
  | nil => exact .ok .nil
  | @cons assignment other assignments others hhead _ ih =>
    obtain ⟨key, value⟩ := assignment
    obtain ⟨_, value'⟩ := other
    obtain ⟨rfl, hvalue⟩ := hhead
    rw [argumentsOf] at ih ⊢
    rw [argumentsOf] at ih ⊢
    rw [List.mapM_cons, List.mapM_cons]
    cases key with
    | string name =>
      have hgiven : GivenAlike name value value' := by
        rcases hvalue with hvalue | ⟨_, hname, hgiven⟩
        · exact .inl hvalue
        · rwa [Json.string.inj hname]
      revert ih
      generalize assignments.mapM argumentOf = x
      generalize others.mapM argumentOf = y
      intro ih
      cases x with
      | error defect =>
        cases y with
        | error other => cases ih with | error => exact .error _
        | ok others => cases ih
      | ok arguments =>
        cases y with
        | error defect => cases ih
        | ok others => cases ih with | ok h => exact .ok (.cons ⟨rfl, hgiven⟩ h)
    | _ => exact .error _

theorem resolveAlone_alike {arguments others : List (String × Json)}
    (h : List.Forall₂ ArgumentAlike arguments others) :
    ResultAlike Settings.Alike (resolveAlone arguments) (resolveAlone others) := by
  rw [resolveAlone, resolveAlone, any_fst_of_alike h (· = Settings.Options.fileArgument)]
  split
  · exact .error _
  · exact Alike.resolve ⟨.cons ⟨rfl, .inl rfl⟩ h, rfl⟩

end Sources

end SignedHttp
