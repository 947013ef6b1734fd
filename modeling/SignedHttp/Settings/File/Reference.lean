import SignedHttp.Settings.File.Value

/-!
# References in a settings file

A value may refer to another name, between `${` and a closing brace, with a default
behind `:-`. A reference is replaced by what the name is bound to, else by the default,
which is empty if there is none. Whatever does not read as a reference stays.

Key definitions: `reference?`, `expand`.
-/

namespace SignedHttp.Settings.File

/-- A reference, up to its closing brace, and the text after it: a name and, behind a
colon and a minus sign, a default. -/
def reference? (s : List Char) : Option ((List Char × List Char) × List Char) :=
  let inName (c : Char) : Bool := c != '\x7d' && c != ':'
  let name := s.takeWhile inName
  match s.dropWhile inName with
  | '\x7d' :: rest => some ((name, []), rest)
  | ':' :: '-' :: rest =>
    match rest.dropWhile (· != '\x7d') with
    | _ :: after => some ((name, rest.takeWhile (· != '\x7d')), after)
    | [] => none
  | _ => none

theorem length_reference? {s : List Char} {r : List Char × List Char} {rest : List Char}
    (h : reference? s = some (r, rest)) : rest.length ≤ s.length := by
  unfold reference? at h
  dsimp only at h
  have hs := length_dropWhile_le (fun c => c != '\x7d' && c != ':') s
  split at h
  · next after heq =>
    simp only [Option.some.injEq, Prod.mk.injEq] at h
    obtain ⟨-, rfl⟩ := h
    rw [heq, List.length_cons] at hs
    omega
  · next after heq =>
    split at h
    · next c rest' heq' =>
      simp only [Option.some.injEq, Prod.mk.injEq] at h
      obtain ⟨-, rfl⟩ := h
      have := length_dropWhile_le (· != '\x7d') after
      rw [heq', List.length_cons] at this
      rw [heq, List.length_cons, List.length_cons] at hs
      omega
    · cases h
  · cases h

/-- The text with its references replaced by what they are bound to. -/
def expand (lookup : List Char → Option (List Char)) : List Char → List Char
  | [] => []
  | '$' :: '\x7b' :: s =>
    match h : reference? s with
    | some ((name, default), rest) =>
      have := length_reference? h
      (lookup name).getD default ++ expand lookup rest
    | none => '$' :: '\x7b' :: expand lookup s
  | c :: s => c :: expand lookup s
termination_by s => s.length

end SignedHttp.Settings.File
