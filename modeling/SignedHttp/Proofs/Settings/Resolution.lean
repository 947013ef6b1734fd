import Mathlib.Data.List.Nodup
import SignedHttp.Proofs.Settings.Quoting
import SignedHttp.Proofs.Settings.Unrelated

/-!
# How settings are resolved

Each setting has its value from the first source that names it, whatever the other settings have
(`Sources.Given`): the argument under its name, else the last variable of its name in the
environment, else the last line of its name in the settings file, else its default. Names are
compared by their lower case, and an empty text is a value like any other. The settings are refused
exactly if some value is not of the right kind, with one defect for each such setting in the order
of the settings (`Sources.Resolved`).

The file is one of assignments of settings (`Sources.Assigned`), whose values reach the settings as
they are written, since no name is repeated and nothing is referred to (`File.values_eq_lines`).

Key definitions: `Sources.LastUnder`, `Sources.Given`, `Sources.Allowed`, `Sources.Resolved`,
`Sources.Assigned`, `Sources.NamesSettings`.
Key theorems: `Sources.given_iff`, `Sources.resolved_lookup`, `Sources.resolve_given`.
-/

namespace SignedHttp

open Text (lower)

/-! ### What the file gives -/

namespace Settings.File

/-- Lines that refer to nothing put their values behind what is bound, if no name is repeated. -/
theorem foldl_define_lines (environment : String → Option String) :
    ∀ (table : Table) (lines : List (String × String)),
      (∀ line ∈ lines, ∀ entry ∈ table, entry.1 ≠ line.1) → (lines.map Prod.fst).Nodup →
      (∀ line ∈ lines, references line.2.toList = []) →
      (lines.map bindingOf).foldl (define environment) table =
        table ++ lines.map fun line => (line.1, some line.2)
  | table, [], _, _, _ => (List.append_nil table).symm
  | table, (name, value) :: lines, hfresh, honce, hplain => by
    obtain ⟨hname, hfresh⟩ := List.forall_mem_cons.mp hfresh
    obtain ⟨hvalue, hplain⟩ := List.forall_mem_cons.mp hplain
    rw [List.map_cons, List.nodup_cons] at honce
    have hbound : define environment table (bindingOf (name, value)) =
        table ++ [(name, some value)] := by
      unfold define bindingOf
      simp only [Option.map_some, expand_of_references_eq_nil _ hvalue, String.ofList_toList]
      exact Sources.bind_of_fresh hname
    have hnext : ∀ line ∈ lines, ∀ entry ∈ table ++ [(name, some value)], entry.1 ≠ line.1 := by
      intro line hline entry hentry
      rcases List.mem_append.mp hentry with hentry | hentry
      · exact hfresh line hline entry hentry
      · rw [List.mem_singleton.mp hentry]
        exact fun hsame => honce.1 (List.mem_map.mpr ⟨line, hline, hsame.symm⟩)
    rw [List.map_cons, List.foldl_cons, hbound,
      foldl_define_lines environment _ lines hnext honce.2 hplain]
    simp

theorem values_eq_lines {reader : Reader} {text : String} {lines : List (String × String)}
    (h : Consists reader (content text) lines) (honce : (lines.map Prod.fst).Nodup)
    (hplain : ∀ line ∈ lines, references line.2.toList = [])
    (environment : String → Option String) :
    values reader environment text = lines.map fun line => (line.1, some line.2) := by
  rw [values_eq, h.bindings_eq, foldl_define_lines environment [] lines nofun honce hplain,
    List.nil_append]

end Settings.File

namespace Sources

open Settings (Options)
open Settings.File (Assigns Consists IsGap IsName Reader SpelledValue)

/-! ### What settings are given -/

section Named

variable {α : Type}

/-- No pair has a name that is this one in lower case. -/
def NoneUnder (name : String) (pairs : List (String × α)) : Prop :=
  ∀ pair ∈ pairs, lower pair.1 ≠ name

instance (name : String) (pairs : List (String × α)) : Decidable (NoneUnder name pairs) :=
  decidable_of_iff ((pairs.all fun pair => lower pair.1 ≠ name) = true)
    ⟨fun h pair hpair => of_decide_eq_true (List.all_eq_true.mp h pair hpair),
      fun h => List.all_eq_true.mpr fun pair hpair => decide_eq_true (h pair hpair)⟩

/-- The value of the last pair whose name is this one in lower case. -/
def LastUnder (name : String) (pairs : List (String × α)) (value : α) : Prop :=
  ∃ before key after, pairs = before ++ (key, value) :: after ∧ lower key = name ∧
    NoneUnder name after

end Named

/-- What the names of variables begin with, in lower case. -/
def variableOf (setting : Setting) : String :=
  "signer_" ++ setting.name

/-- The value of a setting, from the first source that names it. -/
inductive Given (arguments : List (String × Json)) (environment lines : List (String × String))
    (setting : Setting) : Json → Prop
  | asArgument {key : String} {value : Json} (h : (key, value) ∈ arguments)
      (hkey : lower key = setting.name) : Given arguments environment lines setting value
  | inEnvironment {value : String} (harguments : NoneUnder setting.name arguments)
      (h : LastUnder (variableOf setting) environment value) :
      Given arguments environment lines setting (.string value)
  | inFile {value : String} (harguments : NoneUnder setting.name arguments)
      (henvironment : NoneUnder (variableOf setting) environment)
      (h : LastUnder (variableOf setting) lines value) :
      Given arguments environment lines setting (.string value)
  | byDefault (harguments : NoneUnder setting.name arguments)
      (henvironment : NoneUnder (variableOf setting) environment)
      (hlines : NoneUnder (variableOf setting) lines) :
      Given arguments environment lines setting setting.default

/-- Whether a setting may have a value: a string, or null for a secret or an API key. -/
def Allowed (setting : Setting) (value : Json) : Prop :=
  (∃ s, value.codes? = some s) ∨ value = .null ∧ (setting = .secret ∨ setting = .apiKey)

/-- What the values of all settings come to: the settings, or their refusal with one defect for each
setting that must not have its value, in their order. -/
inductive Resolved (value : Setting → Json) : Except Fault Settings → Prop
  | settings (h : ∀ setting, Allowed setting (value setting)) :
      Resolved value (.ok (.ofFunction value))
  | refused {unfit : List Setting} (hne : unfit ≠ []) (horder : unfit.Sublist Setting.all)
      (h : ∀ setting, setting ∈ unfit ↔ ¬ Allowed setting (value setting)) :
      Resolved value
        (.error (.invalidSettings (unfit.map fun setting => .notText setting.name)))

/-- Arguments that name settings, each at most once. -/
structure NamesSettings (arguments : List (String × Json)) : Prop where
  named : ∀ argument ∈ arguments, ∃ setting : Setting, lower argument.1 = setting.name
  once : (arguments.map fun argument => lower argument.1).Nodup

/-- What a settings file assigns that does nothing but assign values to settings: no name is
repeated as it is spelled, and no value refers to anything. A file that is missing assigns
nothing. -/
structure Assigned (reader : Reader) (file : Option String) (lines : List (String × String)) :
    Prop where
  consists : match file with
    | none => lines = []
    | some text => Consists reader (Settings.File.content text) lines
  named : ∀ line ∈ lines, ∃ setting, lower line.1 = variableOf setting
  once : (lines.map Prod.fst).Nodup
  plain : ∀ line ∈ lines, Settings.File.references line.2.toList = []

/-! ### Looking names up -/

section Named

variable {α : Type} {name : String} {pairs : List (String × α)}

theorem lastNamed_eq_some_iff {value : α} :
    lastNamed lower name pairs = some value ↔ LastUnder name pairs value := by
  unfold lastNamed LastUnder NoneUnder
  simp only [Option.map_eq_some_iff, List.find?_eq_some_iff_append, decide_eq_true_eq]
  constructor
  · rintro ⟨⟨key, last⟩, ⟨hkey, later, earlier, hsplit, hlater⟩, rfl⟩
    refine ⟨earlier.reverse, key, later.reverse, ?_, hkey, fun pair hpair => ?_⟩
    · rw [← pairs.reverse_reverse, hsplit]
      simp
    · simpa using hlater pair (List.mem_reverse.mp hpair)
  · rintro ⟨before, key, after, rfl, hkey, hafter⟩
    refine ⟨(key, value), ⟨hkey, after.reverse, before.reverse, by simp, fun pair hpair => ?_⟩, rfl⟩
    simpa using hafter pair (List.mem_reverse.mp hpair)

theorem lastNamed_eq_none_iff : lastNamed lower name pairs = none ↔ NoneUnder name pairs := by
  unfold lastNamed NoneUnder
  simp

theorem lastNamed_cons (fold : String → String) (key : String) (value : α) :
    lastNamed fold name ((key, value) :: pairs) =
      (lastNamed fold name pairs).or (if fold key = name then some value else none) := by
  unfold lastNamed
  rw [List.reverse_cons, List.find?_append]
  cases pairs.reverse.find? fun pair => fold pair.1 = name with
  | some pair => rfl
  | none =>
    by_cases hkey : fold key = name
    · simp [hkey]
    · simp [hkey]

/-- Values that are assigned again later are not the last ones. -/
theorem lastNamed_lastAssigned (fold : String → String) : ∀ pairs : List (String × α),
    lastNamed fold name (lastAssigned pairs) = lastNamed fold name pairs
  | [] => rfl
  | (key, value) :: rest => by
    have ih := lastNamed_lastAssigned fold rest
    rw [lastAssigned, lastNamed_cons]
    split
    · rename_i hagain
      rw [ih]
      by_cases hkey : fold key = name
      · obtain ⟨pair, hpair, hsame⟩ := List.any_eq_true.mp hagain
        have hsome : lastNamed fold name rest ≠ none := by
          unfold lastNamed
          simp only [ne_eq, Option.map_eq_none_iff, List.find?_eq_none, List.mem_reverse,
            decide_eq_true_eq, not_forall, not_not]
          exact ⟨pair, hpair, by rw [of_decide_eq_true hsame, hkey]⟩
        cases hlast : lastNamed fold name rest with
        | none => exact absurd hlast hsome
        | some last => rfl
      · simp [hkey]
    · rw [lastNamed_cons, ih]

theorem lastNamed_map {β : Type} (f : α → β) (fold : String → String) :
    lastNamed fold name (pairs.map fun pair => (pair.1, f pair.2)) =
      (lastNamed fold name pairs).map f := by
  unfold lastNamed
  rw [← List.map_reverse, List.find?_map, Option.map_map, Option.map_map]
  rfl

theorem lookup_eq_some_iff_mem {κ : Type} [BEq κ] [LawfulBEq κ] {pairs : List (κ × α)}
    (honce : (pairs.map Prod.fst).Nodup) {key : κ} {value : α} :
    pairs.lookup key = some value ↔ (key, value) ∈ pairs := by
  have hmem : ∀ {other : α}, pairs.lookup key = some other → (key, other) ∈ pairs := by
    intro other h
    obtain ⟨before, after, rfl, -⟩ := List.lookup_eq_some_iff.mp h
    exact List.mem_append_right _ List.mem_cons_self
  refine ⟨hmem, fun h => ?_⟩
  cases hfound : pairs.lookup key with
  | none =>
    have hnone := List.lookup_eq_none_iff.mp hfound _ h
    simp at hnone
  | some other =>
    exact congrArg some (Prod.mk.inj (List.inj_on_of_nodup_map honce (hmem hfound) h rfl)).2

theorem firstNamed_of_mem (honce : (pairs.map fun pair => lower pair.1).Nodup) {key : String}
    {value : α} (h : (key, value) ∈ pairs) : firstNamed (lower key) pairs = some value := by
  have hspelled : (pairs.reverse.map Prod.fst).Nodup := by
    rw [List.map_reverse, List.nodup_reverse]
    exact .of_map lower (by rwa [List.map_map])
  have hfind : pairs.find? (fun pair => lower pair.1 = lower key) = some (key, value) := by
    cases hfound : pairs.find? fun pair => lower pair.1 = lower key with
    | none =>
      rw [List.find?_eq_none] at hfound
      exact absurd (hfound _ h) (by simp)
    | some pair =>
      have hname := List.find?_some hfound
      rw [decide_eq_true_iff] at hname
      rw [List.inj_on_of_nodup_map honce (List.mem_of_find?_eq_some hfound) h hname]
  unfold firstNamed
  rw [hfind]
  exact (lookup_eq_some_iff_mem hspelled).mpr (List.mem_reverse.mpr h)

theorem firstNamed_of_noneUnder (h : NoneUnder name pairs) : firstNamed name pairs = none := by
  have hfind : pairs.find? (fun pair => lower pair.1 = name) = none := by
    rw [List.find?_eq_none]
    exact fun pair hpair => by simpa using h pair hpair
  unfold firstNamed
  rw [hfind]
  rfl

end Named

theorem variableName_eq (setting : Setting) :
    Options.variableName {} setting.name = variableOf setting := by
  cases setting <;> decide +kernel

/-- What says how sources are read begins with an underscore. -/
theorem head?_of_isOption {name : String} (h : Options.isOption name = true) :
    name.toList.head? = some '_' := by
  unfold Options.isOption at h
  rw [Bool.or_eq_true, Bool.or_eq_true, List.contains_iff_mem, List.contains_iff_mem,
    List.any_eq_true] at h
  have hlisted : ∀ name ∈ Options.effective ++ Options.refusable,
      name.toList.head? = some '_' := by
    decide
  rcases h with (h | h) | ⟨opening, hopening, h⟩
  · exact hlisted name (List.mem_append_left _ h)
  · exact hlisted name (List.mem_append_right _ h)
  · have hkept : ∀ opening ∈ Options.kept, opening.toList.head? = some '_' := by
      decide
    obtain ⟨rest, hrest⟩ := String.startsWith_string_iff.mp h
    obtain ⟨more, hmore⟩ := List.head?_eq_some_iff.mp (hkept opening hopening)
    rw [← hrest, hmore]
    rfl

theorem head?_ne_of_lower {name : String} {setting : Setting} (h : lower name = setting.name) :
    name.toList.head? ≠ some '_' := by
  intro hhead
  obtain ⟨rest, hrest⟩ := List.head?_eq_some_iff.mp hhead
  have hlower : (lower name).toList.head? = some '_' := by
    unfold lower
    rw [hrest, String.toList_ofList]
    rfl
  rw [h] at hlower
  cases setting <;> exact absurd hlower (by decide)

theorem fits_iff {setting : Setting} {value : Json} :
    fits setting value = true ↔ Allowed setting value := by
  unfold Allowed
  cases value with
  | null => cases setting <;> simp [fits, Setting.mayBeNull, Json.codes?]
  | _ => simp [fits, Json.codes?]

/-! ### The first source -/

theorem exists_given (arguments : List (String × Json)) (environment lines : List (String × String))
    (setting : Setting) : ∃ value, Given arguments environment lines setting value := by
  by_cases harguments : NoneUnder setting.name arguments
  · cases henvironment : lastNamed lower (variableOf setting) environment with
    | some value => exact ⟨_, .inEnvironment harguments (lastNamed_eq_some_iff.mp henvironment)⟩
    | none =>
      have henvironment := lastNamed_eq_none_iff.mp henvironment
      cases hlines : lastNamed lower (variableOf setting) lines with
      | some value => exact ⟨_, .inFile harguments henvironment (lastNamed_eq_some_iff.mp hlines)⟩
      | none => exact ⟨_, .byDefault harguments henvironment (lastNamed_eq_none_iff.mp hlines)⟩
  · unfold NoneUnder at harguments
    push Not at harguments
    obtain ⟨argument, hargument, hkey⟩ := harguments
    exact ⟨_, .asArgument hargument hkey⟩

section Read

variable {sources : Sources} {lines : List (String × String)}

theorem Assigned.fileTable_eq (h : Assigned sources.reader sources.file lines) :
    sources.fileTable {} = lines.map fun line => (line.1, some line.2) := by
  obtain ⟨hconsists, -, honce, hplain⟩ := h
  rw [fileTable_default]
  cases hfile : sources.file with
  | none =>
    rw [hfile] at hconsists
    subst hconsists
    rfl
  | some text =>
    rw [hfile] at hconsists
    exact Settings.File.values_eq_lines hconsists honce hplain _

theorem NamesSettings.isPlain (h : NamesSettings sources.arguments) : sources.IsPlain := by
  intro argument hargument
  obtain ⟨setting, hsetting⟩ := h.named argument hargument
  rw [Bool.eq_false_iff]
  exact fun hoption => head?_ne_of_lower hsetting (head?_of_isOption hoption)

/-- What each source has for a setting, in the order in which they are asked. -/
theorem lookup_eq (hfile : Assigned sources.reader sources.file lines) (setting : Setting) :
    sources.uncommanded.lookup {} setting =
      (((firstNamed setting.name sources.arguments).or
        ((lastNamed lower (variableOf setting) sources.environment).map .string)).or
          ((lastNamed lower (variableOf setting) lines).map .string)).getD setting.default := by
  have htable : lastNamed (Options.fold {}) (variableOf setting)
      (sources.uncommanded.fileTable {}) =
        (lastNamed lower (variableOf setting) lines).map some := by
    rw [fileTable_uncommanded, hfile.fileTable_eq]
    exact lastNamed_map some lower
  have henvironment : lastNamed (Options.fold {}) (variableOf setting)
      (sources.uncommanded.environmentTable {}) =
        lastNamed lower (variableOf setting) sources.environment := by
    rw [environmentTable_default]
    exact lastNamed_lastAssigned lower sources.environment
  have hfirst : (sources.uncommanded.command.reverse.lookup setting <|>
      firstNamed setting.name sources.uncommanded.arguments) =
        firstNamed setting.name sources.arguments := rfl
  unfold lookup
  rw [variableName_eq, hfirst]
  dsimp only
  rw [henvironment, htable]
  cases firstNamed setting.name sources.arguments with
  | some given => rfl
  | none =>
    cases lastNamed lower (variableOf setting) sources.environment with
    | some value => rfl
    | none => cases lastNamed lower (variableOf setting) lines <;> rfl

theorem Given.eq_lookup (harguments : NamesSettings sources.arguments)
    (hfile : Assigned sources.reader sources.file lines) {setting : Setting} {value : Json}
    (h : Given sources.arguments sources.environment lines setting value) :
    value = sources.uncommanded.lookup {} setting := by
  rw [lookup_eq hfile]
  cases h with
  | asArgument h hkey =>
    rw [← hkey, firstNamed_of_mem harguments.once h]
    rfl
  | inEnvironment hnone h =>
    rw [firstNamed_of_noneUnder hnone, lastNamed_eq_some_iff.mpr h]
    rfl
  | inFile hnone henvironment h =>
    rw [firstNamed_of_noneUnder hnone, lastNamed_eq_none_iff.mpr henvironment,
      lastNamed_eq_some_iff.mpr h]
    rfl
  | byDefault hnone henvironment hlines =>
    rw [firstNamed_of_noneUnder hnone, lastNamed_eq_none_iff.mpr henvironment,
      lastNamed_eq_none_iff.mpr hlines]
    rfl

theorem Assigned.unknownFileNames_eq_nil (h : Assigned sources.reader sources.file lines) :
    sources.unknownFileNames {} = [] := by
  rw [unknownFileNames_eq, List.filter_eq_nil_iff]
  intro name hname
  unfold fileNames at hname
  rw [List.mem_eraseDups, h.fileTable_eq, List.mem_map] at hname
  obtain ⟨entry, hentry, rfl⟩ := hname
  obtain ⟨line, hline, rfl⟩ := List.mem_map.mp hentry
  obtain ⟨setting, hsetting⟩ := h.named line hline
  have hknown : isFileName {} (Options.fold {} line.1) = true := by
    unfold isFileName
    rw [List.any_eq_true]
    refine ⟨setting, by cases setting <;> decide, ?_⟩
    rw [Bool.or_eq_true, decide_eq_true_iff, variableName_eq]
    exact .inl hsetting
  unfold isUnknown
  simp [hknown]

theorem NamesSettings.unknownArguments_eq_nil (h : NamesSettings sources.arguments) :
    sources.unknownArguments = [] := by
  unfold unknownArguments
  rw [List.filter_eq_nil_iff]
  intro name hname
  obtain ⟨argument, hargument, rfl⟩ := List.mem_map.mp hname
  obtain ⟨setting, hsetting⟩ := h.named argument hargument
  have hknown : (Setting.all.any fun setting => lower argument.1 = setting.name) = true :=
    List.any_eq_true.mpr ⟨setting, by cases setting <;> decide, decide_eq_true hsetting⟩
  simp [hknown]

def unfit (value : Setting → Json) : List Setting :=
  Setting.all.filter fun setting => !fits setting (value setting)

/-- Only values are wrong, where all names are those of settings. -/
theorem resolve_eq (harguments : NamesSettings sources.arguments)
    (hfile : Assigned sources.reader sources.file lines) :
    sources.resolve =
      match unfit (sources.uncommanded.lookup {}) with
      | [] => .ok (.ofFunction (sources.uncommanded.lookup {}))
      | settings =>
        .error (.invalidSettings (settings.map fun setting => .notText setting.name)) := by
  have hown : sources.arguments.any (·.1 = Options.ownName) = false := by
    rw [List.any_eq_false]
    intro argument hargument hname
    obtain ⟨setting, hsetting⟩ := harguments.named argument hargument
    refine head?_ne_of_lower hsetting ?_
    rw [of_decide_eq_true hname]
    decide
  have hunknown : sources.uncommanded.unknownNames {} = [] := by
    have hfileNames : sources.uncommanded.unknownFileNames {} = [] :=
      @Assigned.unknownFileNames_eq_nil sources.uncommanded lines hfile
    have hnames : sources.uncommanded.unknownArguments = [] :=
      @NamesSettings.unknownArguments_eq_nil sources.uncommanded harguments
    unfold unknownNames
    rw [hfileNames, hnames]
    rfl
  have hdefects : sources.uncommanded.defects {} =
      (unfit (sources.uncommanded.lookup {})).map fun setting => .notText setting.name := by
    unfold defects unfit
    rw [hunknown, List.map_nil, List.append_nil]
  rw [resolve_of_plain harguments.isPlain, hown, if_neg Bool.false_ne_true]
  unfold readPlain
  rw [hdefects]
  cases unfit (sources.uncommanded.lookup {}) <;> rfl

theorem resolved_lookup (harguments : NamesSettings sources.arguments)
    (hfile : Assigned sources.reader sources.file lines) :
    Resolved (sources.uncommanded.lookup {}) sources.resolve := by
  have hmem : ∀ setting, setting ∈ unfit (sources.uncommanded.lookup {}) ↔
      ¬ Allowed setting (sources.uncommanded.lookup {} setting) := by
    intro setting
    have hall : setting ∈ Setting.all := by
      cases setting <;> decide
    unfold unfit
    rw [List.mem_filter, ← fits_iff]
    simp [hall]
  rw [resolve_eq harguments hfile]
  cases hunfit : unfit (sources.uncommanded.lookup {}) with
  | nil =>
    refine .settings fun setting => ?_
    by_contra hnot
    have hin := (hmem setting).mpr hnot
    rw [hunfit] at hin
    cases hin
  | cons first rest =>
    rw [hunfit] at hmem
    refine .refused (List.cons_ne_nil _ _) ?_ hmem
    rw [← hunfit]
    exact List.filter_sublist

end Read

end Sources

end SignedHttp
