/-!
# Code points

A string is a list of code points. Nearly all strings are texts, whose code points are those of
characters. A surrogate is a code point but no character: a label can spell one, a log message
can ask for one by its number, and a name that is not UTF-8 comes from a terminal with some in it.
A string with a surrogate is irregular.

Key definitions: `points`, `isCharacter`, `ofPoints`, `Irregular`.
Key theorems: `all_points`, `map_ofNat_points`, `points_map_ofNat`.
-/

namespace SignedHttp.Text

def points (s : List Char) : List Nat :=
  s.map Char.toNat

def isCharacter (n : Nat) : Bool :=
  n < 0xD800 || (0xDFFF < n && n < 0x110000)

/-- The text of code points that are all those of characters. -/
def ofPoints (s : List Nat) : String :=
  .ofList (s.map Char.ofNat)

/-- A string that is no text, by its code points. -/
structure Irregular where
  codes : List Nat
  isIrregular : codes.all isCharacter = false
deriving DecidableEq, Repr

theorem isCharacter_iff {n : Nat} :
    isCharacter n = true ↔ n < 0xD800 ∨ 0xDFFF < n ∧ n < 0x110000 := by
  simp [isCharacter]

theorem isCharacter_toNat (c : Char) : isCharacter c.toNat = true :=
  isCharacter_iff.mpr c.valid

theorem all_points (s : List Char) : (points s).all isCharacter = true := by
  simp [points, isCharacter_toNat]

theorem toNat_ofNat {n : Nat} (h : n < 0xD800 ∨ 0xDFFF < n ∧ n < 0x110000) :
    (Char.ofNat n).toNat = n := by
  rw [Char.ofNat, dif_pos h]
  rfl

theorem map_ofNat_points (s : List Char) : (points s).map Char.ofNat = s := by
  simp [points, Function.comp_def, Char.ofNat_toNat]

theorem points_map_ofNat {s : List Nat} (h : s.all isCharacter = true) :
    points (s.map Char.ofNat) = s := by
  have hsame : ∀ n ∈ s, (Char.toNat ∘ Char.ofNat) n = id n := fun n hn =>
    toNat_ofNat (isCharacter_iff.mp (List.all_eq_true.mp h n hn))
  rw [points, List.map_map, List.map_congr_left hsame, List.map_id]

@[simp]
theorem ofPoints_points (s : String) : ofPoints (points s.toList) = s := by
  rw [ofPoints, map_ofNat_points, String.ofList_toList]

theorem points_ofPoints {s : List Nat} (h : s.all isCharacter = true) :
    points (ofPoints s).toList = s := by
  rw [ofPoints, String.toList_ofList, points_map_ofNat h]

theorem points_append (a b : String) :
    points (a ++ b).toList = points a.toList ++ points b.toList := by
  rw [points, String.toList_append, List.map_append]
  rfl

end SignedHttp.Text
