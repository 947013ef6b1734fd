import Mathlib.Data.List.Basic
import SignedHttp.Proofs.Settings.Assignments
import SignedHttp.Proofs.Settings.References
import SignedHttp.Settings.Sources

/-!
# Variables that are unrelated to settings

A variable whose name does not begin like those of settings makes no difference in the environment,
unless the settings file refers to it (`Sources.resolve_unrelated`). In the settings file it makes
none either as long as its value is empty or its name is the bare name of a setting; otherwise it is
reported as unknown, and there are no settings, whatever else the sources say.

Only the last value under the folded name of a setting is looked up in the environment, so that all
other names can be left out first (`lastNamed_filter`, `lastAssigned_filter`). A new name in the
file stands behind the others, and is the last of those that are unknown
(`Sources.unknownFileNames_concat`).

Key definitions: `Sources.IsPlain`, `Sources.IsUnrelated`, `Sources.IsHarmless`, `Sources.Reported`.
Key theorems: `Sources.resolve_of_plain`, `Sources.resolve_insert`, `Sources.resolve_withLine`,
`Sources.resolve_unrelated`.
-/

namespace SignedHttp

/-! ### Names that are looked up -/

section Named

variable {α : Type} {fold : String → String} {name : String}

theorem lastNamed_filter (pairs : List (String × α)) :
    lastNamed fold name (pairs.filter fun pair => fold pair.1 = name) =
      lastNamed fold name pairs := by
  rw [lastNamed, lastNamed, ← List.filter_reverse, List.find?_filter]
  simp only [decide_eq_true_eq, and_self]

theorem lastNamed_concat (pairs : List (String × α)) (key : String) (value : α) :
    lastNamed fold name (pairs ++ [(key, value)]) =
      if fold key = name then some value else lastNamed fold name pairs := by
  rw [lastNamed, lastNamed, List.reverse_concat, List.find?_cons]
  split
  · rename_i h
    rw [if_pos (of_decide_eq_true h)]
    rfl
  · rename_i h
    rw [if_neg (of_decide_eq_false h)]

/-- Names that do not matter can be left out before the last values are taken. -/
theorem lastAssigned_filter (p : String → Bool) : ∀ pairs : List (String × α),
    (lastAssigned pairs).filter (fun pair => p pair.1) =
      lastAssigned (pairs.filter fun pair => p pair.1)
  | [] => rfl
  | (key, value) :: rest => by
    have ih := lastAssigned_filter p rest
    by_cases hp : p key = true
    · have hany : (rest.filter fun pair => p pair.1).any (·.1 = key) = rest.any (·.1 = key) := by
        rw [List.any_filter]
        refine congrArg rest.any (funext fun pair => ?_)
        by_cases hkey : pair.1 = key
        · simp [hkey, hp]
        · simp [hkey]
      have hkeep : ∀ pairs : List (String × α),
          ((key, value) :: pairs).filter (fun pair => p pair.1) =
            (key, value) :: pairs.filter fun pair => p pair.1 := fun _ =>
        List.filter_cons_of_pos hp
      rw [hkeep, lastAssigned, lastAssigned, hany, ← ih]
      split
      · rfl
      · exact hkeep _
    · have hdrop : ∀ pairs : List (String × α),
          ((key, value) :: pairs).filter (fun pair => p pair.1) =
            pairs.filter fun pair => p pair.1 := fun _ => List.filter_cons_of_neg hp
      rw [hdrop, lastAssigned, ← ih]
      split
      · rfl
      · exact hdrop _

theorem lastNamed_insert {key : String} (h : fold key ≠ name) (before after : List (String × α))
    (value : α) :
    lastNamed fold name (lastAssigned (before ++ (key, value) :: after)) =
      lastNamed fold name (lastAssigned (before ++ after)) := by
  rw [← lastNamed_filter, ← lastNamed_filter (lastAssigned (before ++ after)),
    lastAssigned_filter (fun key => fold key = name),
    lastAssigned_filter (fun key => fold key = name), List.filter_append, List.filter_append,
    List.filter_cons_of_neg (by simpa using h)]

theorem lookup_insert_ne {key : String} (h : name ≠ key) (before after : List (String × α))
    (value : α) :
    (before ++ (key, value) :: after).reverse.lookup name =
      (before ++ after).reverse.lookup name := by
  have hkey : ((key, value) :: before.reverse).lookup name = before.reverse.lookup name := by
    rw [List.lookup_cons, beq_false_of_ne h]
  rw [List.reverse_append, List.reverse_append, List.reverse_cons, List.append_assoc,
    List.singleton_append, List.lookup_append, List.lookup_append, hkey]

end Named

namespace Sources

open Settings (Command Options)
open Settings.File (Binding Lines Reads Table)

/-! ### Reading as it is done in general -/

/-- No argument says how sources are read. -/
def IsPlain (sources : Sources) : Prop :=
  ∀ argument ∈ sources.arguments, Options.isOption argument.1 = false

section Plain

variable {sources : Sources}

theorem IsPlain.lookup (h : sources.IsPlain) {name : String}
    (hname : Options.isOption name = true) : sources.arguments.reverse.lookup name = none := by
  cases hfound : sources.arguments.reverse.lookup name with
  | none => rfl
  | some value =>
    obtain ⟨before, after, hsplit, -⟩ := List.lookup_eq_some_iff.mp hfound
    have hmem : (name, value) ∈ sources.arguments.reverse :=
      hsplit ▸ List.mem_append_right _ List.mem_cons_self
    have hplain := h (name, value) (List.mem_reverse.mp hmem)
    rw [hname] at hplain
    cases hplain

theorem IsPlain.value? (h : sources.IsPlain) {name : String}
    (hname : Options.isOption name = true) : Options.value? sources.arguments name = none := by
  rw [Options.value?, h.lookup hname]

def uncommanded (sources : Sources) : Sources :=
  { sources with command := [] }

theorem fileTable_uncommanded (sources : Sources) (options : Options) :
    sources.uncommanded.fileTable options = sources.fileTable options := rfl

def readPlain (sources : Sources) : Except Fault Settings :=
  match sources.uncommanded.defects {} with
  | [] => .ok (.ofFunction (sources.uncommanded.lookup {}))
  | defects => .error (.invalidSettings defects)

/-- Plain sources are read in UTF-8, without a command line and under the usual names. -/
theorem read_of_plain (h : sources.IsPlain) : sources.read = sources.readPlain := by
  have heffective : ∀ name ∈ Options.effective, Options.isOption name = true := by
    decide
  have hoptions : Options.ofArguments sources.arguments = .ok {} :=
    Options.ofArguments_eq_default sources.arguments fun name hname =>
      h.lookup (heffective name hname)
  have hcommand : Command.bindings sources.arguments = .ok [] :=
    Command.bindings_eq_nil (h.lookup (by decide +kernel))
  have hfile : sources.file.mapM (Options.reread {}) = .ok sources.file := by
    cases sources.file with
    | none => rfl
    | some text => rfl
  have hsecrets : Options.checkSecrets sources.arguments sources.file.isSome = .ok () := by
    rw [Options.checkSecrets, h.value? (by decide)]
  have hprepared : sources.prepared = .ok ({}, sources.uncommanded) := by
    rw [prepared, hoptions]
    change (do
      let file ← sources.file.mapM (Options.reread {})
      let command ← Command.bindings sources.arguments
      if false then throw (SourceDefect.unnamedVariable Setting.secret.name)
      Options.checkSecrets sources.arguments sources.file.isSome
      return (({} : Options), { sources with file := file, command := command })) = _
    rw [hfile, hcommand, hsecrets]
    rfl
  rw [read, hprepared]
  rfl

/-- Plain sources are read, unless an argument has the name that none may have. -/
theorem resolve_of_plain (h : sources.IsPlain) :
    sources.resolve =
      if sources.arguments.any (·.1 = Options.ownName) then
        .error (.unusableSource (.ownName Options.ownName))
      else sources.readPlain := by
  rw [resolve, h.value? (by decide), read_of_plain h]

theorem environmentTable_default (sources : Sources) :
    sources.environmentTable {} = lastAssigned sources.environment :=
  List.filter_eq_self.mpr fun _ _ => rfl

theorem fileTable_default (sources : Sources) :
    sources.fileTable {} = match sources.file with
      | none => []
      | some text => Settings.File.values sources.reader sources.environmentValue? text := by
  rw [fileTable]
  cases sources.file with
  | none => rfl
  | some text =>
    refine List.filter_eq_self.mpr fun entry _ => ?_
    obtain ⟨name, value⟩ := entry
    cases value with
    | none => rfl
    | some value => rfl

theorem lookup_congr {one other : Sources} (hcommand : one.command = other.command)
    (harguments : one.arguments = other.arguments) {setting : Setting}
    (henvironment : lastNamed (Options.fold {}) (Options.variableName {} setting.name)
        (one.environmentTable {}) =
      lastNamed (Options.fold {}) (Options.variableName {} setting.name)
        (other.environmentTable {}))
    (hfile : lastNamed (Options.fold {}) (Options.variableName {} setting.name)
        (one.fileTable {}) =
      lastNamed (Options.fold {}) (Options.variableName {} setting.name) (other.fileTable {})) :
    one.lookup {} setting = other.lookup {} setting := by
  rw [lookup, lookup, hcommand, harguments]
  dsimp only
  rw [henvironment, hfile]

end Plain

/-! ### Unrelated variables -/

/-- The lower case of the name does not begin like the names of the variables of settings. -/
def IsUnrelated (name : String) : Prop :=
  ¬ "signer_".toList <+: (Text.lower name).toList

theorem IsUnrelated.fold_ne {name : String} (h : IsUnrelated name) (setting : Setting) :
    Options.fold {} name ≠ Options.variableName {} setting.name := by
  have hopening : "signer_".toList <+: (Options.variableName {} setting.name).toList := by
    cases setting <;> decide +kernel
  intro hname
  rw [← hname] at hopening
  exact h hopening

section Environment

variable {sources : Sources} {name : String} {before after : List (String × String)}

/-- What is read of a file changes with a variable of the environment only if it refers to it. -/
theorem fileTable_insert (henvironment : sources.environment = before ++ after)
    (hfile : ∀ text, sources.file = some text →
      ¬ Settings.File.RefersTo sources.reader text name)
    (value : String) :
    ({ sources with environment := before ++ (name, value) :: after } : Sources).fileTable {} =
      sources.fileTable {} := by
  rw [fileTable_default, fileTable_default]
  cases htext : sources.file with
  | none => rfl
  | some text =>
    refine Settings.File.values_congr fun other hother => ?_
    have hne : other ≠ name := by
      rintro rfl
      exact hfile text htext hother
    rw [environmentValue?, environmentValue?, henvironment]
    exact lookup_insert_ne hne before after value

/-- An unrelated variable to which the file does not refer makes no difference in the
environment. -/
theorem resolve_insert (hplain : sources.IsPlain) (hname : IsUnrelated name)
    (henvironment : sources.environment = before ++ after)
    (hfile : ∀ text, sources.file = some text →
      ¬ Settings.File.RefersTo sources.reader text name)
    (value : String) :
    ({ sources with environment := before ++ (name, value) :: after } : Sources).resolve =
      sources.resolve := by
  let other : Sources := { sources with environment := before ++ (name, value) :: after }
  have htable : other.uncommanded.fileTable {} = sources.uncommanded.fileTable {} :=
    @fileTable_insert sources.uncommanded name before after henvironment hfile value
  have hcommand : other.uncommanded.command = sources.uncommanded.command := rfl
  have harguments : other.uncommanded.arguments = sources.uncommanded.arguments := rfl
  have hlookup : other.uncommanded.lookup {} = sources.uncommanded.lookup {} := by
    funext setting
    have hinsert := lastNamed_insert (hname.fold_ne setting) before after value
    rw [← henvironment] at hinsert
    have hvalue : lastNamed (Options.fold {}) (Options.variableName {} setting.name)
        (other.uncommanded.environmentTable {}) =
      lastNamed (Options.fold {}) (Options.variableName {} setting.name)
        (sources.uncommanded.environmentTable {}) := by
      rw [environmentTable_default, environmentTable_default]
      exact hinsert
    exact lookup_congr hcommand harguments hvalue (congrArg (lastNamed _ _) htable)
  have hdefects : other.uncommanded.defects {} = sources.uncommanded.defects {} := by
    rw [defects, defects, hlookup, unknownNames, unknownNames, unknownFileNames, unknownFileNames,
      htable]
    rfl
  have hread : other.readPlain = sources.readPlain := by
    rw [readPlain, readPlain, hdefects, hlookup]
  rw [resolve_of_plain hplain, @resolve_of_plain other hplain, hread]

end Environment

/-! ### One more name in the file -/

/-- The sources with one more line in the file, which may have been missing. -/
def withLine (sources : Sources) (line : String) : Sources :=
  { sources with file := some (Settings.File.addLine (sources.file.getD "") line) }

/-- What a value at the end of the file comes to, with its references put in. -/
def expanded (sources : Sources) (value : String) : String :=
  let environment := sources.environmentValue?
  let table := Settings.File.values sources.reader environment (sources.file.getD "")
  .ofList (Settings.File.expand
    (fun name => (Settings.File.resolve environment table (.ofList name)).map String.toList)
    value.toList)

/-- A line that is let pass: without a value, or under the bare name of a setting. -/
def IsHarmless (name value : String) : Prop :=
  value = "" ∨ ∃ setting : Setting, Text.lower name = setting.name

/-- What an outcome becomes when a name is reported as unknown: settings are refused for it alone,
and otherwise it is one of the defects. Sources that cannot be used are not read at all. -/
inductive Reported (name : String) : Except Fault Settings → Except Fault Settings → Prop
  | alone (settings : Settings) :
      Reported name (.ok settings) (.error (.invalidSettings [.unknown name]))
  | among {defects others : List SettingDefect}
      (h : ∀ defect, defect ∈ others ↔ defect ∈ defects ∨ defect = .unknown name) :
      Reported name (.error (.invalidSettings defects)) (.error (.invalidSettings others))
  | unusable (defect : SourceDefect) :
      Reported name (.error (.unusableSource defect)) (.error (.unusableSource defect))

section Line

variable {sources : Sources} {name value line : String}

theorem bind_of_fresh {value : Option String} : ∀ {table : Table},
    (∀ entry ∈ table, entry.1 ≠ name) → table.bind name value = table ++ [(name, value)]
  | [], _ => rfl
  | (key, old) :: rest, h => by
    obtain ⟨hkey, hrest⟩ := List.forall_mem_cons.mp h
    rw [Table.bind, if_neg hkey, bind_of_fresh hrest]
    rfl

theorem fileTable_getD (sources : Sources) :
    sources.fileTable {} =
      Settings.File.values sources.reader sources.environmentValue? (sources.file.getD "") := by
  rw [fileTable_default]
  cases sources.file with
  | some text => rfl
  | none =>
    have hcontent : Settings.File.content "" = [] := rfl
    rw [Option.getD_none, Settings.File.values_eq, hcontent, Settings.File.bindings_nil]
    rfl

/-- One more line binds one more name, which stands behind the others if it is new. -/
theorem fileTable_withLine {found : List Binding}
    (hlines : Lines sources.reader (Settings.File.content (sources.file.getD "")) found)
    (hline : Reads sources.reader (Settings.File.normalizeLines line.toList)
      (some ⟨name, some value⟩))
    (hfresh : ∀ entry ∈ sources.fileTable {}, entry.1 ≠ name) :
    (sources.withLine line).fileTable {} =
      sources.fileTable {} ++ [(name, some (sources.expanded value))] := by
  have hbindings := (hlines.add hline).bindings_eq
  have hadded : (sources.withLine line).fileTable {} =
      Settings.File.values sources.reader sources.environmentValue?
        (Settings.File.addLine (sources.file.getD "") line) :=
    fileTable_getD (sources.withLine line)
  rw [hadded, Settings.File.values_eq, Settings.File.content_addLine hline, hbindings,
    Option.toList_some, List.foldl_concat, ← hlines.bindings_eq, ← Settings.File.values_eq,
    ← bind_of_fresh hfresh, fileTable_getD]
  rfl

theorem eraseDups_concat_of_notMem {names : List String} (h : name ∉ names) :
    (names ++ [name]).eraseDups = names.eraseDups ++ [name] := by
  rw [List.eraseDups_append, List.removeAll]
  simp [h, List.eraseDups_cons]

/-- Of the unrelated names only bare names of settings are let pass. -/
theorem isFileName_iff (hname : IsUnrelated name) :
    isFileName {} (Options.fold {} name) = true ↔
      ∃ setting : Setting, Text.lower name = setting.name := by
  have hall : ∀ setting : Setting, setting ∈ Setting.all := fun setting => by
    cases setting <;> decide
  rw [isFileName, List.any_eq_true]
  refine exists_congr fun setting => ?_
  have hopened : ((Options.opening {}) != some "") = true := by
    decide
  rw [hopened, Bool.true_and, Bool.or_eq_true, decide_eq_true_iff, decide_eq_true_iff,
    or_iff_right (hname.fold_ne setting), and_iff_right (hall setting)]
  rfl

def fileNames (sources : Sources) : List String :=
  ((sources.fileTable {}).map fun entry => Options.fold {} entry.1).eraseDups

/-- Whether a name of the file is unknown: it is no setting's, and its last value is not empty. -/
def isUnknown (sources : Sources) (name : String) : Bool :=
  !isFileName {} name &&
    (lastNamed (Options.fold {}) name (sources.fileTable {})).join.any fun value => !value.isEmpty

theorem unknownFileNames_eq (sources : Sources) :
    sources.unknownFileNames {} = sources.fileNames.filter sources.isUnknown := by
  rw [unknownFileNames]
  refine List.filter_congr fun name _ => congrArg (!isFileName {} name && ·) ?_
  cases lastNamed (Options.fold {}) name (sources.fileTable {}) with
  | none => rfl
  | some value =>
    cases value with
    | none => rfl
    | some value => rfl

section NewName

variable {one other : Sources}
  (htable : other.fileTable {} = one.fileTable {} ++ [(name, some value)])
  (hfresh : ∀ entry ∈ one.fileTable {}, Text.lower entry.1 ≠ Text.lower name)

include hfresh in
theorem notMem_fileNames : Text.lower name ∉ one.fileNames := fun hmem => by
  obtain ⟨entry, hentry, hkey⟩ := List.mem_map.mp (List.mem_eraseDups.mp hmem)
  exact hfresh entry hentry hkey

include htable hfresh in
theorem fileNames_concat : other.fileNames = one.fileNames ++ [Text.lower name] := by
  rw [fileNames, htable, List.map_append]
  exact eraseDups_concat_of_notMem fun hmem =>
    notMem_fileNames hfresh (List.mem_eraseDups.mpr hmem)

include htable in
theorem isUnknown_concat_of_ne {key : String} (hkey : key ≠ Text.lower name) :
    other.isUnknown key = one.isUnknown key := by
  have hne : Options.fold {} name ≠ key := hkey.symm
  rw [isUnknown, isUnknown, htable, lastNamed_concat, if_neg hne]

include htable in
/-- The new name is unknown unless it is harmless. -/
theorem isUnknown_concat (hname : IsUnrelated name) :
    other.isUnknown (Text.lower name) = true ↔ ¬ IsHarmless name value := by
  have hlast : lastNamed (Options.fold {}) (Text.lower name) (other.fileTable {}) =
      some (some value) := by
    rw [htable, lastNamed_concat]
    exact if_pos rfl
  have hfile : isFileName {} (Text.lower name) = true ↔
      ∃ setting : Setting, Text.lower name = setting.name := isFileName_iff hname
  rw [isUnknown, hlast, Bool.and_eq_true, Bool.not_eq_true', ← Bool.not_eq_true, hfile,
    Option.join_some, Option.any_some, Bool.not_eq_true', ← Bool.not_eq_true, String.isEmpty_iff,
    IsHarmless, not_or, and_comm]

include htable hfresh in
theorem unknownFileNames_concat (hname : IsUnrelated name) :
    (IsHarmless name value → other.unknownFileNames {} = one.unknownFileNames {}) ∧
      (¬ IsHarmless name value →
        other.unknownFileNames {} = one.unknownFileNames {} ++ [Text.lower name]) := by
  have hunknown : other.unknownFileNames {} =
      one.unknownFileNames {} ++ [Text.lower name].filter other.isUnknown := by
    rw [unknownFileNames_eq, unknownFileNames_eq, fileNames_concat htable hfresh,
      List.filter_append]
    refine congrArg (· ++ _) (List.filter_congr fun key hkey => ?_)
    refine isUnknown_concat_of_ne htable ?_
    rintro rfl
    exact notMem_fileNames hfresh hkey
  have hnew := isUnknown_concat htable hname
  rw [hunknown]
  refine ⟨fun h => ?_, fun h => ?_⟩
  · rw [List.filter_cons_of_neg fun hknown => hnew.mp hknown h, List.filter_nil, List.append_nil]
  · rw [List.filter_cons_of_pos (hnew.mpr h), List.filter_nil]

end NewName

section Concat

variable {one other : Sources}

/-- What two plain sources have in common of which the one has another unknown name, or none. -/
theorem readPlain_of_unknown (hlookup : other.uncommanded.lookup {} = one.uncommanded.lookup {})
    (harguments : other.arguments = one.arguments)
    (hunknown : other.uncommanded.unknownFileNames {} = one.uncommanded.unknownFileNames {}) :
    other.readPlain = one.readPlain := by
  have hdefects : other.uncommanded.defects {} = one.uncommanded.defects {} := by
    rw [defects, defects, hlookup, unknownNames, unknownNames, hunknown, unknownArguments,
      unknownArguments, uncommanded, uncommanded, harguments]
  rw [readPlain, readPlain, hdefects, hlookup]

theorem defects_concat (hlookup : other.uncommanded.lookup {} = one.uncommanded.lookup {})
    (harguments : other.arguments = one.arguments)
    (hunknown : other.uncommanded.unknownFileNames {} =
      one.uncommanded.unknownFileNames {} ++ [name]) :
    ∃ unfit : List SettingDefect,
      one.uncommanded.defects {} = unfit ++ ((one.uncommanded.unknownFileNames {} ++
        one.uncommanded.unknownArguments).eraseDups).map .unknown ∧
      other.uncommanded.defects {} = unfit ++ ((one.uncommanded.unknownFileNames {} ++ [name] ++
        one.uncommanded.unknownArguments).eraseDups).map .unknown := by
  have hunknownArguments : other.uncommanded.unknownArguments =
      one.uncommanded.unknownArguments := by
    rw [unknownArguments, unknownArguments, uncommanded, uncommanded, harguments]
  refine ⟨_, rfl, ?_⟩
  rw [defects, hlookup, unknownNames, hunknown, hunknownArguments]

theorem reported_of_unknown (hlookup : other.uncommanded.lookup {} = one.uncommanded.lookup {})
    (harguments : other.arguments = one.arguments)
    (hunknown : other.uncommanded.unknownFileNames {} =
      one.uncommanded.unknownFileNames {} ++ [name]) :
    Reported name one.readPlain other.readPlain := by
  obtain ⟨unfit, hone, hother⟩ := defects_concat hlookup harguments hunknown
  have hmem : ∀ defect, defect ∈ other.uncommanded.defects {} ↔
      defect ∈ one.uncommanded.defects {} ∨ defect = .unknown name := fun defect => by
    rw [hone, hother]
    simp only [List.mem_append, List.mem_map, List.mem_eraseDups, List.mem_singleton]
    grind
  rw [readPlain, readPlain]
  cases hbefore : one.uncommanded.defects {} with
  | nil =>
    obtain ⟨hunfit, hnames⟩ := List.append_eq_nil_iff.mp (hone.symm.trans hbefore)
    have hnone : one.uncommanded.unknownFileNames {} ++ one.uncommanded.unknownArguments = [] := by
      refine List.eq_nil_iff_forall_not_mem.mpr fun unknown hmem => ?_
      have hkept := List.mem_eraseDups.mpr hmem
      rw [List.map_eq_nil_iff.mp hnames] at hkept
      cases hkept
    obtain ⟨hfile, harguments⟩ := List.append_eq_nil_iff.mp hnone
    have hafter : other.uncommanded.defects {} = [.unknown name] := by
      rw [hother, hunfit, hfile, harguments]
      rfl
    rw [hafter]
    exact .alone _
  | cons first defects =>
    rw [hbefore] at hmem
    cases hafter : other.uncommanded.defects {} with
    | nil =>
      have hunknown := (hmem (.unknown name)).mpr (.inr rfl)
      rw [hafter] at hunknown
      cases hunknown
    | cons other others =>
      rw [hafter] at hmem
      exact .among hmem

end Concat

/-- One more line under a new unrelated name makes no difference if it is harmless, and is reported
otherwise. -/
theorem resolve_withLine (hplain : sources.IsPlain) (hname : IsUnrelated name)
    {found : List Binding}
    (hlines : Lines sources.reader (Settings.File.content (sources.file.getD "")) found)
    (hline : Reads sources.reader (Settings.File.normalizeLines line.toList)
      (some ⟨name, some value⟩))
    (hfresh : ∀ entry ∈ sources.fileTable {}, Text.lower entry.1 ≠ Text.lower name) :
    (IsHarmless name (sources.expanded value) →
      (sources.withLine line).resolve = sources.resolve) ∧
    (¬ IsHarmless name (sources.expanded value) →
      Reported (Text.lower name) sources.resolve (sources.withLine line).resolve) := by
  have htable : (sources.withLine line).uncommanded.fileTable {} =
      sources.uncommanded.fileTable {} ++ [(name, some (sources.expanded value))] := by
    rw [fileTable_uncommanded, fileTable_uncommanded]
    exact fileTable_withLine hlines hline fun entry hentry hsame =>
      hfresh entry hentry (congrArg Text.lower hsame)
  have hcommand : (sources.withLine line).uncommanded.command = sources.uncommanded.command := rfl
  have hlookup : (sources.withLine line).uncommanded.lookup {} = sources.uncommanded.lookup {} := by
    funext setting
    refine lookup_congr hcommand rfl rfl ?_
    rw [htable, lastNamed_concat, if_neg (hname.fold_ne setting)]
  obtain ⟨hharmless, hreported⟩ := unknownFileNames_concat htable hfresh hname
  have harguments : (sources.withLine line).arguments = sources.arguments := rfl
  rw [resolve_of_plain hplain, @resolve_of_plain (sources.withLine line) hplain, harguments]
  refine ⟨fun h => ?_, fun h => ?_⟩
  · rw [readPlain_of_unknown hlookup harguments (hharmless h)]
  · split
    · exact .unusable _
    · exact reported_of_unknown hlookup harguments (hreported h)

end Line

/-- A variable whose name does not begin like those of settings, and to which nothing refers, makes
no difference in the environment, whatever its value. As one more line of the settings file it makes
none either if its value is empty or its name is the bare name of a setting; every other one is
reported as unknown, also where the settings could be read before. -/
theorem resolve_unrelated {sources : Sources} (hplain : sources.IsPlain) {name : String}
    (hname : IsUnrelated name) :
    (∀ before after value, sources.environment = before ++ after →
      (∀ text, sources.file = some text → ¬ Settings.File.RefersTo sources.reader text name) →
        ({ sources with environment := before ++ (name, value) :: after } : Sources).resolve =
          sources.resolve) ∧
    ∀ found line value,
      Lines sources.reader (Settings.File.content (sources.file.getD "")) found →
      Reads sources.reader (Settings.File.normalizeLines line.toList) (some ⟨name, some value⟩) →
      (∀ entry ∈ sources.fileTable {}, Text.lower entry.1 ≠ Text.lower name) →
        (IsHarmless name (sources.expanded value) →
          (sources.withLine line).resolve = sources.resolve) ∧
        (¬ IsHarmless name (sources.expanded value) →
          Reported (Text.lower name) sources.resolve (sources.withLine line).resolve) :=
  ⟨fun _ _ value henvironment hfile => resolve_insert hplain hname henvironment hfile value,
    fun _ _ _ hlines hline hfresh => resolve_withLine hplain hname hlines hline hfresh⟩

/-- Nothing refers to a foreign name, and yet there are no settings any more once the file has a
line for it. -/
theorem resolve_fails_with_foreign_line :
    let sources : Sources := ⟨[("SIGNER_SECRET", "s")], some "", [], [], .paired⟩
    IsUnrelated "FOO" ∧ ¬ Settings.File.RefersTo .paired "" "FOO" ∧
      sources.resolve.isOk = true ∧ (sources.withLine "FOO=bar").resolve.isOk = false := by
  intro sources
  refine ⟨?_, ?_, ?_, ?_⟩
  · rw [IsUnrelated]
    decide +kernel
  · rintro ⟨binding, hbinding, -⟩
    have hnone : Settings.File.bindings .paired (Settings.File.content "") = [] := by
      decide +kernel
    rw [hnone] at hbinding
    cases hbinding
  · decide +kernel
  · decide +kernel

/-- A foreign name in the environment, and in a file with a quoted value, without a value and with
one. -/
theorem resolve_unrelated_foreign :
    let sources : Sources :=
      ⟨[("SIGNER_SECRET", "s")], some "SIGNER_PREFIX='p'\n", [], [], .paired⟩
    ({ sources with environment := [("SIGNER_SECRET", "s"), ("FOO", "bar")] } : Sources).resolve =
        sources.resolve ∧
      (sources.withLine "FOO=").resolve = sources.resolve ∧
      Reported "foo" sources.resolve (sources.withLine "FOO=bar").resolve := by
  intro sources
  have hplain : sources.IsPlain := fun _ hargument => nomatch hargument
  have hname : IsUnrelated "FOO" := by
    rw [IsUnrelated]
    decide +kernel
  have hlower : Text.lower "FOO" = "foo" := by
    decide +kernel
  have hlines : Lines .paired (Settings.File.content "SIGNER_PREFIX='p'\n")
      [⟨"SIGNER_PREFIX", some "p"⟩] := by
    have hcontent : Settings.File.content "SIGNER_PREFIX='p'\n" =
        "SIGNER_PREFIX".toList ++ '=' :: ('\'' :: ['p'] ++ ['\'']) ++ ['\n'] := by
      decide +kernel
    have hquoted := @Settings.File.reads_quoted .paired "SIGNER_PREFIX".toList (by decide) '\''
      (.inl rfl) ['p'] (.plain (by decide) (by decide) .nil)
    rw [hcontent]
    exact .next hquoted .nil
  have hempty : Reads .paired (Settings.File.normalizeLines "FOO=".toList)
      (some ⟨"FOO", some ""⟩) :=
    @Settings.File.reads_bare .paired "FOO".toList (by decide) [] (by decide)
  have hfull : Reads .paired (Settings.File.normalizeLines "FOO=bar".toList)
      (some ⟨"FOO", some "bar"⟩) :=
    @Settings.File.reads_bare .paired "FOO".toList (by decide) "bar".toList (by decide)
  have hfresh : ∀ entry ∈ sources.fileTable {}, Text.lower entry.1 ≠ Text.lower "FOO" := by
    decide +kernel
  have hreferred : ∀ text, sources.file = some text →
      ¬ Settings.File.RefersTo .paired text "FOO" := by
    intro text htext
    obtain rfl := Option.some.inj htext
    rintro ⟨binding, hbinding, value, hvalue, hname⟩
    rw [hlines.bindings_eq, List.mem_singleton] at hbinding
    obtain rfl := hbinding
    obtain rfl := Option.some.inj hvalue
    exact absurd hname (by decide +kernel)
  have hunknown : ¬ IsHarmless "FOO" (sources.expanded "bar") := by
    rintro (hempty | ⟨setting, hsetting⟩)
    · exact absurd hempty (by decide +kernel)
    · rw [hlower] at hsetting
      cases setting <;> exact absurd hsetting (by decide)
  obtain ⟨henvironment, hfile⟩ := resolve_unrelated hplain hname
  have hinserted := henvironment [("SIGNER_SECRET", "s")] [] "bar" rfl hreferred
  have hreported := (hfile _ "FOO=bar" _ hlines hfull hfresh).2 hunknown
  rw [hlower] at hreported
  refine ⟨hinserted, ?_, hreported⟩
  exact (hfile _ "FOO=" _ hlines hempty hfresh).1 (.inl (by decide +kernel))

end Sources

end SignedHttp
