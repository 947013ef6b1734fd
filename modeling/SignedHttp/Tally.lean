import SignedHttp.Text.Decimal

/-!
# Outcomes and their counts

Every signing has one outcome, and a hook that fails has one more. The tally counts
them; outcomes stand in the order of their first count, and the exposition writes one
sample for each that was counted.

Key definitions: `Outcome`, `Tally`, `Tally.increment`, `Tally.count`, `Tally.exposition`.
Key theorems: `Tally.count_increment`.
-/

namespace SignedHttp

inductive Outcome where
  | signed
  /-- Signed, with an address that the prefix does not occur in. -/
  | prefixMismatch
  | error
deriving DecidableEq, Repr

def Outcome.label : Outcome → String
  | .signed => "signed"
  | .prefixMismatch => "prefix_mismatch"
  | .error => "error"

/-- Counted outcomes, in the order of their first count. -/
structure Tally where
  counts : List (Outcome × Nat)
deriving DecidableEq, Repr

namespace Tally

def empty : Tally := ⟨[]⟩

def incrementIn (outcome : Outcome) : List (Outcome × Nat) → List (Outcome × Nat)
  | [] => [(outcome, 1)]
  | (o, n) :: rest =>
    if o = outcome then (o, n + 1) :: rest else (o, n) :: incrementIn outcome rest

def increment (tally : Tally) (outcome : Outcome) : Tally :=
  ⟨incrementIn outcome tally.counts⟩

def count (tally : Tally) (outcome : Outcome) : Nat :=
  (tally.counts.lookup outcome).getD 0

theorem lookup_incrementIn (outcome other : Outcome) : ∀ counts : List (Outcome × Nat),
    ((incrementIn outcome counts).lookup other).getD 0 =
      (counts.lookup other).getD 0 + if other = outcome then 1 else 0
  | [] => by
    by_cases h : other = outcome
    · simp [incrementIn, h]
    · have : (other == outcome) = false := by simpa using h
      simp [incrementIn, List.lookup_cons, h, this]
  | (o, n) :: rest => by
    by_cases ho : o = outcome
    · subst ho
      by_cases h : other = o
      · simp [incrementIn, h]
      · have : (other == o) = false := by simpa using h
        simp [incrementIn, List.lookup_cons, h, this]
    · by_cases h : other = o
      · subst h
        simp [incrementIn, ho]
      · have : (other == o) = false := by simpa using h
        simp [incrementIn, List.lookup_cons, ho, this, lookup_incrementIn outcome other rest]

theorem count_increment (tally : Tally) (outcome other : Outcome) :
    (tally.increment outcome).count other =
      tally.count other + if other = outcome then 1 else 0 :=
  lookup_incrementIn outcome other tally.counts

/-! ### Exposition -/

def metricName : String := "signed_requests_total"

def contentType : String := "text/plain; version=1.0.0; charset=utf-8"

/-- A count as a sample value: with `.0` up to six digits, else as one digit, the others
without zeros at the end, and the power of ten. -/
def sampleValue (n : Nat) : String :=
  let digits := Text.Decimal.digits n
  if digits.length ≤ 6 then .ofList (digits ++ ['.', '0'])
  else
    let significant := (digits.reverse.dropWhile (· = '0')).reverse
    let mantissa := match significant with
      | d :: e :: rest => d :: '.' :: e :: rest
      | short => short
    .ofList (mantissa ++ "e+0".toList ++ Text.Decimal.digits (digits.length - 1))

def sample (outcome : Outcome) (n : Nat) : String :=
  metricName ++ "\x7bresult=\"" ++ outcome.label ++ "\"\x7d " ++ sampleValue n

/-- The lines that describe the metric, and one for each outcome that was counted. -/
def exposition (tally : Tally) : List String :=
  ("# HELP " ++ metricName ++ " Total request signing outcomes") ::
    ("# TYPE " ++ metricName ++ " counter") ::
    tally.counts.map fun (outcome, n) => sample outcome n

end Tally

end SignedHttp
