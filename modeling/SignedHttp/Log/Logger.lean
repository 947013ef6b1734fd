/-!
# Loggers and those above them

Loggers are known by names whose parts stand between points. Above a logger stands the next
existing one of those that its name leads to when it is cut at a point. The cuts are made
from the end, and the character before a cut is passed over: two points in a row cut a name
once. A logger that hands its records on to the package's logger, directly or through
others, writes with it; every other one hands them to the root logger, which writes
elsewhere.

Names are held last character first.

Key definitions: `Logger.cuts`, `Logger.reaches`, `Logger.belongs`.
Key theorems: `Logger.length_of_mem_cuts`.
-/

namespace SignedHttp.Log.Logger

/-- The names that a name leads to by cutting it at a point, the longest first. -/
def cuts (name : List Char) : List (List Char) :=
  match _h : name.dropWhile (· != '.') with
  | _ :: c :: rest => (c :: rest) :: cuts rest
  | _ => []
termination_by name.length
decreasing_by
  have := (List.dropWhile_suffix (· != '.') (l := name)).length_le
  simp only [_h, List.length_cons] at this
  omega

theorem length_of_mem_cuts {part : List Char} : ∀ {name : List Char},
    part ∈ cuts name → part.length < name.length := by
  intro name
  fun_induction cuts name with
  | case1 name point c rest h ih =>
    have := (List.dropWhile_suffix (· != '.') (l := name)).length_le
    simp only [h, List.length_cons] at this
    intro hp
    rcases List.mem_cons.mp hp with rfl | hp
    · simp only [List.length_cons]
      omega
    · have := ih hp
      omega
  | case2 => simp

/-- Whether the logger of a name hands its records on to the one of another name, where
these loggers exist. -/
def reaches (existing : List (List Char)) (goal name : List Char) : Bool :=
  if name = goal then true
  else
    match _h : (cuts name).find? existing.contains with
    | some next => reaches existing goal next
    | none => false
termination_by name.length
decreasing_by
  exact length_of_mem_cuts (List.mem_of_find?_eq_some _h)

def package : String := "request_signer"

def initial : List String :=
  [package, "request_signer.signer", "request_signer.hooks.requests_auth",
    "request_signer.hooks.httpx_auth"]

/-- Whether a logger writes with that of the package, where these loggers exist. -/
def belongs (existing : List String) (name : String) : Bool :=
  reaches (existing.map (·.toList.reverse)) package.toList.reverse name.toList.reverse

end SignedHttp.Log.Logger
