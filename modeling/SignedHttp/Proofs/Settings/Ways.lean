import SignedHttp.Proofs.Settings.Resolution
import SignedHttp.Session

/-!
# Three ways to give settings

Values of settings can be given as arguments, in the environment, or in a settings file in which
each stands between single quotes on a line of its own (`Sources.Configured`), in any order. Where
nothing else is given, the three come to the same settings, character for character: each setting
has the value that it was given, or else its default (`Sources.configured_agree`). Sessions that
begin with them then answer the same to the same steps, whatever is signed.

The values must be such that each way can carry them (`Sources.IsPortable`): the environment holds
no null character, a file no carriage return, in a file a dollar sign in front of a brace would
refer to something, and a backslash in front of the closing quote may be taken for one that belongs
to it.

Key definitions: `Sources.IsPortable`, `Sources.Configured`, `Sources.chosen`, `Sources.answers`.
Key theorems: `Sources.Configured.exists_given`, `Sources.configured_agree`.
-/

namespace SignedHttp.Sources

open Text (lower)
open Settings.File (IsName Reader Written)

/-! ### The ways -/

/-- A value that can be given in every way. -/
structure IsPortable (value : String) : Prop where
  unterminated : '\x00' ∉ value.toList
  unreturned : '\r' ∉ value.toList
  literal : ¬ ['$', '\x7b'] <:+: value.toList
  unescaped : value.toList.getLast? ≠ some '\\'

def capitalName (setting : Setting) : String :=
  "SIGNER_" ++ Text.upper setting.name

def asArgument (given : Setting × String) : Json × Json :=
  (.string given.1.name, .string given.2)

def asVariable (given : Setting × String) : Json × Json :=
  (.string (capitalName given.1), .string given.2)

def asLine (given : Setting × String) : String × String :=
  (capitalName given.1, given.2)

/-- What values make that are given in one of three ways, in any order, and nothing else, for any
reader of files. -/
inductive Configured (values : List (Setting × String)) : Except Fault Sources → Prop
  | asArguments {order : List (Setting × String)} (reader : Reader) (h : order.Perm values) :
      Configured values (ofAssignments [] none (order.map asArgument) reader)
  | inEnvironment {order : List (Setting × String)} (reader : Reader) (h : order.Perm values) :
      Configured values (ofAssignments (order.map asVariable) none [] reader)
  | inFile {order : List (Setting × String)} {text : String} (reader : Reader)
      (h : order.Perm values) (htext : Written (order.map asLine) text.toList) :
      Configured values (ofAssignments [] (some text) [] reader)

/-- The value of a setting of which some are given: its own, or its default. -/
def chosen (values : List (Setting × String)) (setting : Setting) : Json :=
  ((values.lookup setting).map .string).getD setting.default

/-- What a session answers to steps, and the lines that it logs, if its settings come from
sources. -/
def answers (sources : Except Fault Sources) (clock : Clock) (telemetry : Telemetry)
    (steps : List Session.Step) : Except Fault (List (Session.Reply × List Line)) := do
  let settings ← sources >>= resolve
  return (Session.run (.initial settings clock telemetry) steps).2

/-! ### Names -/

theorem name_inj {setting other : Setting} (h : setting.name = other.name) : setting = other := by
  cases setting <;> cases other <;> first | rfl | exact absurd h (by decide)

theorem variableOf_inj {setting other : Setting} (h : variableOf setting = variableOf other) :
    setting = other :=
  name_inj ((String.append_right_inj _).mp h)

theorem lower_name (setting : Setting) : lower setting.name = setting.name := by
  cases setting <;> decide +kernel

theorem lower_capitalName (setting : Setting) :
    lower (capitalName setting) = variableOf setting := by
  cases setting <;> decide +kernel

theorem capitalName_inj {setting other : Setting} (h : capitalName setting = capitalName other) :
    setting = other := by
  refine variableOf_inj ?_
  rw [← lower_capitalName, h, lower_capitalName]

theorem isName_capitalName (setting : Setting) : IsName (capitalName setting).toList := by
  cases setting <;> decide +kernel

/-! ### What is given in each way -/

/-- Of names that differ in lower case each has its value last. -/
theorem lastUnder_of_mem {α : Type} {pairs : List (String × α)} {key : String} {value : α}
    (honce : (pairs.map fun pair => lower pair.1).Nodup) (h : (key, value) ∈ pairs) :
    LastUnder (lower key) pairs value := by
  obtain ⟨before, after, rfl⟩ := List.append_of_mem h
  refine ⟨before, key, after, rfl, rfl, fun pair hpair hname => ?_⟩
  rw [List.map_append, List.map_cons] at honce
  have hlast := (List.nodup_cons.mp (List.nodup_append.mp honce).2.1).1
  exact hlast (List.mem_map.mpr ⟨pair, hpair, hname⟩)

theorem mapM_eq_ok {α β ε : Type} {f : α → Except ε β} {g : α → β} : ∀ {items : List α},
    (∀ item ∈ items, f item = .ok (g item)) → items.mapM f = .ok (items.map g)
  | [], _ => rfl
  | item :: items, h => by
    obtain ⟨hitem, hitems⟩ := List.forall_mem_cons.mp h
    rw [List.mapM_cons, hitem, mapM_eq_ok hitems]
    rfl

section Order

variable {values order : List (Setting × String)}

theorem nodup_names (honce : (values.map Prod.fst).Nodup) (horder : order.Perm values)
    (nameOf : Setting → String)
    (hinj : ∀ {setting other}, nameOf setting = nameOf other → setting = other) :
    (order.map fun given => nameOf given.1).Nodup := by
  have hsettings : (order.map Prod.fst).Nodup :=
    (horder.map Prod.fst).nodup_iff.mpr honce
  have hnames : ((order.map Prod.fst).map nameOf).Nodup := hsettings.map fun _ _ h => hinj h
  rwa [List.map_map] at hnames

/-- A setting that is given has its value under its name, and the others have none there, if names
of different settings differ in lower case. -/
theorem chosen_cases {α : Type} (honce : (values.map Prod.fst).Nodup) (horder : order.Perm values)
    (nameOf : Setting → String) (base : Setting → String) (f : String → α)
    (hname : ∀ setting, lower (nameOf setting) = base setting)
    (hinj : ∀ {setting other}, base setting = base other → setting = other) (setting : Setting) :
    let pairs := order.map fun given => (nameOf given.1, f given.2)
    (∃ value, chosen values setting = .string value ∧ (nameOf setting, f value) ∈ pairs ∧
      LastUnder (base setting) pairs (f value)) ∨
    (chosen values setting = setting.default ∧ NoneUnder (base setting) pairs) := by
  intro pairs
  have hlower : (pairs.map fun pair => lower pair.1).Nodup := by
    have hbase : pairs.map (fun pair => lower pair.1) = order.map fun given => base given.1 := by
      simp [pairs, hname]
    rw [hbase]
    exact nodup_names honce horder base hinj
  unfold chosen
  cases hfound : values.lookup setting with
  | some value =>
    have hmem : (nameOf setting, f value) ∈ pairs :=
      List.mem_map.mpr ⟨_, horder.mem_iff.mpr ((lookup_eq_some_iff_mem honce).mp hfound), rfl⟩
    refine .inl ⟨value, rfl, hmem, ?_⟩
    rw [← hname]
    exact lastUnder_of_mem hlower hmem
  | none =>
    refine .inr ⟨rfl, fun pair hpair hsame => ?_⟩
    obtain ⟨given, hgiven, rfl⟩ := List.mem_map.mp hpair
    have hsetting : given.1 = setting := hinj ((hname _).symm.trans hsame)
    have hnone := List.lookup_eq_none_iff.mp hfound _ (horder.mem_iff.mp hgiven)
    simp [hsetting] at hnone

end Order

section Ways

variable {values order : List (Setting × String)} {result : Except Fault Sources}

theorem argumentsOf_asArgument (order : List (Setting × String)) :
    argumentsOf (order.map asArgument) =
      .ok (order.map fun given => (given.1.name, .string given.2)) := by
  have hnamed : (order.map asArgument).mapM argumentOf =
      .ok (order.map fun given => (given.1.name, .string given.2)) := by
    rw [List.mapM_map]
    exact mapM_eq_ok fun _ _ => rfl
  unfold argumentsOf
  rw [hnamed]
  rfl

theorem bindingOf_asVariable {given : Setting × String} (h : IsPortable given.2) :
    bindingOf (asVariable given) = .ok (capitalName given.1, given.2) := by
  obtain ⟨setting, value⟩ := given
  have hvalue : hasNull value = false := by
    unfold hasNull
    simpa using h.unterminated
  have hname : hasNull (capitalName setting) = false ∧
      '=' ∉ (capitalName setting).toList ∧ (capitalName setting).isEmpty = false := by
    cases setting <;> decide +kernel
  obtain ⟨hnull, hequals, hempty⟩ := hname
  unfold bindingOf asVariable variableText
  simp [hnull, hvalue, hequals, hempty, bind, Except.bind, pure, Except.pure]

theorem assigned_of_written (reader : Reader) (honce : (values.map Prod.fst).Nodup)
    (horder : order.Perm values) (hportable : ∀ given ∈ values, IsPortable given.2) {text : String}
    (h : Written (order.map asLine) text.toList) :
    Assigned reader (some text) (order.map asLine) := by
  have hnames : ∀ line ∈ order.map asLine, IsName line.1.toList :=
    List.forall_mem_map.mpr fun given _ => isName_capitalName given.1
  have hvalues : ∀ line ∈ order.map asLine, IsPortable line.2 :=
    List.forall_mem_map.mpr fun given hgiven => hportable given (horder.mem_iff.mp hgiven)
  have hunmarked : Settings.File.unmarked text.toList = text.toList :=
    @Settings.File.unmarked_append [] text.toList (.inr (h.head hnames).2)
  constructor
  · change Settings.File.Consists reader (Settings.File.content text) _
    unfold Settings.File.content
    rw [hunmarked]
    exact h.consists reader hnames fun line hline =>
      ⟨(hvalues line hline).unreturned, (hvalues line hline).unescaped⟩
  · exact List.forall_mem_map.mpr fun given _ => ⟨given.1, lower_capitalName given.1⟩
  · rw [List.map_map]
    exact nodup_names honce horder capitalName capitalName_inj
  · exact fun line hline => Settings.File.references_eq_nil (hvalues line hline).literal

theorem Configured.exists_given (h : Configured values result)
    (honce : (values.map Prod.fst).Nodup) (hportable : ∀ given ∈ values, IsPortable given.2) :
    ∃ sources lines, result = .ok sources ∧ NamesSettings sources.arguments ∧
      Assigned sources.reader sources.file lines ∧
      ∀ setting, Given sources.arguments sources.environment lines setting
        (chosen values setting) := by
  have hnone (reader : Reader) : Assigned reader none [] := ⟨rfl, nofun, List.nodup_nil, nofun⟩
  have hnothing : NamesSettings [] := ⟨nofun, List.nodup_nil⟩
  cases h with
  | @asArguments order reader horder =>
    refine ⟨⟨[], none, order.map fun given => (given.1.name, .string given.2), [], reader⟩, [], ?_,
      ?_, hnone reader, fun setting => ?_⟩
    · unfold ofAssignments
      rw [argumentsOf_asArgument]
      rfl
    · constructor
      · exact List.forall_mem_map.mpr fun given _ => ⟨given.1, lower_name given.1⟩
      · rw [List.map_map]
        refine nodup_names honce horder (fun setting => lower setting.name) fun h => ?_
        rw [lower_name, lower_name] at h
        exact name_inj h
    · obtain ⟨value, hchosen, hmem, -⟩ | ⟨hchosen, hmissing⟩ :=
        chosen_cases honce horder Setting.name Setting.name Json.string lower_name name_inj setting
      · rw [hchosen]
        exact .asArgument hmem (lower_name setting)
      · rw [hchosen]
        exact .byDefault hmissing nofun nofun
  | @inEnvironment order reader horder =>
    refine ⟨⟨order.map asLine, none, [], [], reader⟩, [], ?_, hnothing, hnone reader,
      fun setting => ?_⟩
    · have hbindings : (order.map asVariable).mapM bindingOf = .ok (order.map asLine) := by
        rw [List.mapM_map]
        exact mapM_eq_ok fun given hgiven =>
          bindingOf_asVariable (hportable given (horder.mem_iff.mp hgiven))
      unfold ofAssignments
      rw [hbindings]
      rfl
    · obtain ⟨value, hchosen, -, hlast⟩ | ⟨hchosen, hmissing⟩ :=
        chosen_cases honce horder capitalName variableOf id lower_capitalName variableOf_inj setting
      · rw [hchosen]
        exact .inEnvironment nofun hlast
      · rw [hchosen]
        exact .byDefault nofun hmissing nofun
  | @inFile order text reader horder htext =>
    refine ⟨⟨[], some text, [], [], reader⟩, order.map asLine, rfl, hnothing,
      assigned_of_written reader honce horder hportable htext, fun setting => ?_⟩
    obtain ⟨value, hchosen, -, hlast⟩ | ⟨hchosen, hmissing⟩ :=
      chosen_cases honce horder capitalName variableOf id lower_capitalName variableOf_inj setting
    · rw [hchosen]
      exact .inFile nofun nofun hlast
    · rw [hchosen]
      exact .byDefault nofun nofun hmissing

theorem allowed_chosen (values : List (Setting × String)) (setting : Setting) :
    Allowed setting (chosen values setting) := by
  unfold chosen
  cases values.lookup setting with
  | some value => exact .inl ⟨Text.points value.toList, rfl⟩
  | none =>
    cases setting with
    | secret => exact .inr ⟨rfl, .inl rfl⟩
    | apiKey => exact .inr ⟨rfl, .inr rfl⟩
    | _ => exact .inl ⟨_, rfl⟩

theorem Configured.resolve_eq (h : Configured values result)
    (honce : (values.map Prod.fst).Nodup) (hportable : ∀ given ∈ values, IsPortable given.2) :
    result >>= resolve = .ok (.ofFunction (chosen values)) := by
  obtain ⟨sources, lines, rfl, harguments, hfile, hgiven⟩ := h.exists_given honce hportable
  have hlookup : sources.uncommanded.lookup {} = chosen values :=
    funext fun setting => ((hgiven setting).eq_lookup harguments hfile).symm
  have hresolved := resolved_lookup harguments hfile
  rw [hlookup] at hresolved
  change sources.resolve = _
  generalize sources.resolve = outcome at hresolved
  cases hresolved with
  | settings => rfl
  | @refused unfit hne _ hmem =>
    obtain ⟨setting, rest, rfl⟩ := List.exists_cons_of_ne_nil hne
    exact absurd (allowed_chosen values setting) ((hmem setting).mp List.mem_cons_self)

end Ways

/-- Values that are given as arguments, in the environment or between quotes in a settings file come
to the same settings, and what begins with them answers the same. -/
theorem configured_agree {values : List (Setting × String)} (honce : (values.map Prod.fst).Nodup)
    (hportable : ∀ given ∈ values, IsPortable given.2) :
    ∃ settings : Settings,
      (∀ setting, settings.get setting = chosen values setting) ∧
      ∀ result, Configured values result →
        result >>= resolve = .ok settings ∧
        ∀ clock telemetry steps, answers result clock telemetry steps =
          .ok (Session.run (.initial settings clock telemetry) steps).2 := by
  refine ⟨.ofFunction (chosen values), fun setting => ?_, fun result h => ?_⟩
  · cases setting <;> rfl
  · have hresolve := h.resolve_eq honce hportable
    refine ⟨hresolve, fun clock telemetry steps => ?_⟩
    unfold answers
    rw [hresolve]
    rfl

/-- Values with quotes, a comment sign, an equals sign, backslashes and nothing in them, in three
orders and to both readers. -/
theorem configured_agree_quoted :
    let values : List (Setting × String) :=
      [(.secret, "it's # a=\"é\""), (.apiKey, ""), (.base, "C:\\dir\\'x")]
    let text :=
      "SIGNER_PREFIX='C:\\\\dir\\\\\\'x'\r\nSIGNER_SECRET='it\\'s # a=\"é\"'\nSIGNER_API_KEY=''"
    (values.map Prod.fst).Nodup ∧ (∀ given ∈ values, IsPortable given.2) ∧
      ∃ settings : Settings,
        settings.secret = .string "it's # a=\"é\"" ∧
        settings.base = .string "C:\\dir\\'x" ∧
        settings.apiKey = .string "" ∧ settings.logLevel = .string "INFO" ∧
        ofAssignments [] (some text) [] .loose >>= resolve = .ok settings ∧
        ofAssignments [] (some text) [] .paired >>= resolve = .ok settings ∧
        ofAssignments (values.map asVariable) none [] >>= resolve = .ok settings ∧
        ofAssignments [] none (values.reverse.map asArgument) >>= resolve = .ok settings := by
  intro values text
  have honce : (values.map Prod.fst).Nodup := by
    decide
  have hportable : ∀ given ∈ values, IsPortable given.2 := by
    have hliteral : ∀ {value : String}, '$' ∉ value.toList → ¬ ['$', '\x7b'] <:+: value.toList :=
      fun hnone h => hnone (h.subset List.mem_cons_self)
    refine List.forall_mem_cons.mpr ⟨?_, List.forall_mem_cons.mpr ⟨?_,
      List.forall_mem_singleton.mpr ?_⟩⟩
    · exact ⟨by decide, by decide, hliteral (by decide), by decide⟩
    · exact ⟨by decide, by decide, hliteral (by decide), by decide⟩
    · exact ⟨by decide, by decide, hliteral (by decide), by decide⟩
  have hwritten : Written
      ([(.base, "C:\\dir\\'x"), (.secret, "it's # a=\"é\""), (.apiKey, "")].map asLine)
      text.toList := by
    have htext : text.toList =
        Settings.File.assignment "SIGNER_PREFIX" "C:\\dir\\'x" ++ ['\r', '\n'] ++
          (Settings.File.assignment "SIGNER_SECRET" "it's # a=\"é\"" ++ ['\n'] ++
            Settings.File.assignment "SIGNER_API_KEY" "") := by
      decide +kernel
    rw [htext]
    exact .next _ _ .both (.next _ _ .feed (.last _ _))
  have hperm : [(.base, "C:\\dir\\'x"), (.secret, "it's # a=\"é\""), (.apiKey, "")].Perm
      values := by
    decide
  obtain ⟨settings, hvalue, hagree⟩ := configured_agree honce hportable
  refine ⟨honce, hportable, settings, hvalue .secret, hvalue .base, hvalue .apiKey,
    hvalue .logLevel, ?_, ?_, ?_, ?_⟩
  · exact (hagree _ (.inFile .loose hperm hwritten)).1
  · exact (hagree _ (.inFile .paired hperm hwritten)).1
  · exact (hagree _ (.inEnvironment _ (.refl _))).1
  · exact (hagree _ (.asArguments _ (List.reverse_perm _))).1

end SignedHttp.Sources
