import Mathlib.Data.List.Basic
import SignedHttp.Proofs.Settings.Lines

/-!
# What a settings file refers to

The environment has a part in the values of a settings file only through the names that they refer
to (`File.references`): two environments in which these stand for the same give the file the same
values (`File.values_congr`). The induction is on the text in the way it is read: what does not read
as a reference is passed over by one step in both.

Key definitions: `File.references`, `File.RefersTo`.
Key theorems: `File.expand_congr`, `File.values_congr`.
-/

namespace SignedHttp.Settings.File

def references : List Char → List (List Char)
  | [] => []
  | '$' :: '\x7b' :: s =>
    match h : reference? s with
    | some ((name, _), rest) =>
      have := length_reference? h
      name :: references rest
    | none => references s
  | _ :: s => references s
termination_by s => s.length

/-- Whether some value that a file binds refers to a name. -/
def RefersTo (reader : Reader) (text name : String) : Prop :=
  ∃ binding ∈ bindings reader (content text), ∃ value, binding.value = some value ∧
    name.toList ∈ references value.toList

section Expand

variable {lookup one other : List Char → Option (List Char)} {s name default rest : List Char}

theorem expand_reference (h : reference? s = some ((name, default), rest)) :
    expand lookup ('$' :: '\x7b' :: s) =
      (lookup name).getD default ++ expand lookup rest := by
  rw [expand]
  split
  · rename_i hfound
    rw [h] at hfound
    cases hfound
    rfl
  · rename_i hnone
    rw [h] at hnone
    cases hnone

theorem expand_of_no_reference (h : reference? s = none) :
    expand lookup ('$' :: '\x7b' :: s) = '$' :: '\x7b' :: expand lookup s := by
  rw [expand]
  split
  · rename_i hfound
    rw [h] at hfound
    cases hfound
  · rfl

/-- Only what stands for the names that are referred to has a part in the text. -/
theorem expand_congr (h : ∀ name ∈ references s, one name = other name) :
    expand one s = expand other s := by
  fun_induction references s with
  | case1 => rw [expand, expand]
  | case2 s name default rest hfound _ ih =>
    obtain ⟨hname, hrest⟩ := List.forall_mem_cons.mp h
    rw [expand_reference hfound, expand_reference hfound, hname, ih hrest]
  | case3 s hnone ih => rw [expand_of_no_reference hnone, expand_of_no_reference hnone, ih h]
  | case4 c s hopen ih => rw [expand.eq_3 _ _ _ hopen, expand.eq_3 _ _ _ hopen, ih h]

theorem expand_of_references_eq_nil (lookup : List Char → Option (List Char)) {s : List Char}
    (h : references s = []) : expand lookup s = s := by
  fun_induction references s with
  | case1 => rw [expand]
  | case2 => cases h
  | case3 s hnone ih => rw [expand_of_no_reference hnone, ih h]
  | case4 c s hopen ih => rw [expand.eq_3 _ _ _ hopen, ih h]

end Expand

theorem define_congr {one other : String → Option String} {binding : Binding}
    (h : ∀ value, binding.value = some value →
      ∀ name ∈ references value.toList, one (.ofList name) = other (.ofList name))
    (table : Table) : define one table binding = define other table binding := by
  obtain ⟨name, value⟩ := binding
  cases value with
  | none => rfl
  | some value =>
    have hlookup : ∀ name ∈ references value.toList,
        (resolve one table (.ofList name)).map String.toList =
          (resolve other table (.ofList name)).map String.toList := fun name hname => by
      rw [resolve, resolve, h value rfl name hname]
    exact congrArg (fun text => table.bind name (some (.ofList text))) (expand_congr hlookup)

theorem values_congr {reader : Reader} {one other : String → Option String} {text : String}
    (h : ∀ name, RefersTo reader text name → one name = other name) :
    values reader one text = values reader other text := by
  rw [values_eq, values_eq]
  refine List.foldl_ext _ _ _ fun table binding hbinding => define_congr (fun value hvalue => ?_) _
  intro name hname
  refine h (.ofList name) ⟨binding, hbinding, value, hvalue, ?_⟩
  rwa [String.toList_ofList]

end SignedHttp.Settings.File
