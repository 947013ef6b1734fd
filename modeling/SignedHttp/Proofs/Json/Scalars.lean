import SignedHttp.Proofs.Json.Reader
import SignedHttp.Proofs.Text.Ascii
import SignedHttp.Proofs.Text.Decimal
import SignedHttp.Proofs.Text.Utf8

/-!
# Words and strings are read back

What follows a token does not change how it is read, as long as no word runs on into it (`Lexes`,
`Lexes.append`). A word is read as the value that it denotes, and the numeral of an integer denotes
this integer (`integer?_numeral`): it has no zeros in front. A string is read as its code points
with surrogate pairs put together (`lexes_string`): each code point is escaped to the UTF-16 units
that it consists of (`units`), and of these only the two of one character are put together again,
besides the pairs that stood in the string as they were (`joinPairs_units`).

Key definitions: `Json.Lexes`, `Json.units`.
Key theorems: `Json.Lexes.append`, `Json.integer?_numeral`, `Json.joinPairs_units`,
`Json.lexes_string`.
-/

namespace SignedHttp.Json

/-! ### Steps in sequence -/

section Steps

variable {State Symbol : Type} {step : State → Symbol → Option State} {state next : State}

theorem foldlM_cons_of_step {c : Symbol} (h : step state c = some next) (s : List Symbol) :
    (c :: s).foldlM step state = s.foldlM step next := by
  rw [List.foldlM_cons, h]
  rfl

theorem foldlM_append_of_foldlM {s : List Symbol} (h : s.foldlM step state = some next)
    (t : List Symbol) : (s ++ t).foldlM step state = t.foldlM step next := by
  rw [List.foldlM_append, h]
  rfl

end Steps

/-! ### The first pass -/

/-- Whether the first pass reads these characters, after these tokens, so that something new may
begin behind them, and has these tokens then. -/
def Lexes (before : List Token) (s : List Char) (after : List Token) : Prop :=
  ∃ lexer, s.foldlM Lexer.step ⟨before, .between⟩ = some lexer ∧ lexer.settle = some after

/-- Whether no word runs on into these characters. -/
def Fresh (s : List Char) : Prop :=
  ∀ c, s.head? = some c → isWordChar c = false

theorem fresh_nil : Fresh [] := fun _ h => by cases h

theorem fresh_cons {c : Char} {s : List Char} (h : isWordChar c = false) : Fresh (c :: s) :=
  fun d hd => by rwa [← Option.some.inj hd]

theorem Fresh.append {s t : List Char} (h : Fresh s) (ht : Fresh t) : Fresh (s ++ t) := by
  cases s with
  | nil => exact ht
  | cons c s => exact fresh_cons (h c rfl)

/-- A character that continues no word begins something new. -/
theorem Lexer.step_of_settle {lexer : Lexer} {tokens : List Token} (h : lexer.settle = some tokens)
    {c : Char} (hc : isWordChar c = false) : lexer.step c = start tokens c := by
  obtain ⟨before, mode⟩ := lexer
  cases mode with
  | between => rw [step, ← Option.some.inj h]
  | word chars =>
    rw [step]
    dsimp only
    rw [if_neg (Bool.eq_false_iff.mp hc), h]
    rfl
  | text => cases h
  | escape => cases h
  | unit => cases h

namespace Lexes

variable {before middle after : List Token} {s t : List Char}

theorem nil : Lexes before [] before :=
  ⟨_, rfl, rfl⟩

theorem cons {c : Char} (h : Lexer.start before c = some ⟨middle, .between⟩)
    (ht : Lexes middle t after) : Lexes before (c :: t) after := by
  obtain ⟨lexer, ht, hafter⟩ := ht
  have hstep : Lexer.step ⟨before, .between⟩ c = some ⟨middle, .between⟩ := h
  exact ⟨lexer, (foldlM_cons_of_step hstep t).trans ht, hafter⟩

/-- What is read behind other tokens is read as it is by itself. -/
theorem append (hs : Lexes before s middle) (hfresh : Fresh t) (ht : Lexes middle t after) :
    Lexes before (s ++ t) after := by
  obtain ⟨lexer, hs, hmiddle⟩ := hs
  obtain ⟨last, ht, hafter⟩ := ht
  have hpast := foldlM_append_of_foldlM hs t
  cases t with
  | nil =>
    rw [← Option.some.inj ht] at hafter
    exact ⟨lexer, hpast, hmiddle.trans hafter⟩
  | cons c t =>
    refine ⟨last, ?_, hafter⟩
    rw [hpast, List.foldlM_cons, Lexer.step_of_settle hmiddle (hfresh c rfl)]
    exact ht

end Lexes

/-! ### Words -/

theorem foldlM_word (tokens : List Token) : ∀ (s chars : List Char),
    (∀ c ∈ s, isWordChar c = true) →
      s.foldlM Lexer.step ⟨tokens, .word chars⟩ = some ⟨tokens, .word (chars ++ s)⟩
  | [], chars, _ => by
    rw [List.append_nil]
    rfl
  | c :: s, chars, h => by
    obtain ⟨hc, hs⟩ := List.forall_mem_cons.mp h
    have hstep : Lexer.step ⟨tokens, .word chars⟩ c = some ⟨tokens, .word (chars ++ [c])⟩ :=
      if_pos hc
    rw [foldlM_cons_of_step hstep, foldlM_word tokens s _ hs, List.append_assoc]
    rfl

theorem lexes_word {c : Char} {s : List Char} {value : Json} (h : word? (c :: s) = some value)
    (hchars : ∀ d ∈ c :: s, isWordChar d = true) (tokens : List Token) :
    Lexes tokens (c :: s) (tokens ++ [.value value]) := by
  obtain ⟨hc, hs⟩ := List.forall_mem_cons.mp hchars
  have hblank : isBlank c = false := by
    rw [Bool.eq_false_iff]
    intro hblank
    simp only [isBlank, Bool.or_eq_true, decide_eq_true_eq] at hblank
    rcases hblank with ((rfl | rfl) | rfl) | rfl
    all_goals cases hc
  have hquote : c ≠ '"' := by
    rintro rfl
    cases hc
  have hstart : Lexer.step ⟨tokens, .between⟩ c = some ⟨tokens, .word [c]⟩ := by
    change Lexer.start tokens c = _
    rw [Lexer.start, if_neg (Bool.eq_false_iff.mp hblank), if_neg hquote, if_pos hc]
  refine ⟨⟨tokens, .word ([c] ++ s)⟩, ?_, ?_⟩
  · exact (foldlM_cons_of_step hstart s).trans (foldlM_word tokens s [c] hs)
  · rw [Lexer.settle]
    change (fun value => tokens ++ [.value value]) <$> word? (c :: s) = _
    rw [h]
    rfl

/-! ### Numbers -/

/-- Only the numeral of zero begins with zero. -/
theorem digits_ne_zero_cons : ∀ (n : Nat) (rest : List Char),
    Text.Decimal.digits n = '0' :: rest → n = 0 := by
  intro n
  induction n using Nat.strongRecOn with
  | ind n ih =>
    intro rest h
    rw [Text.Decimal.digits] at h
    by_cases hn : n < 10
    · rw [Nat.toDigits_of_lt_base hn] at h
      have hdigit : ∀ d < 10, d.digitChar = '0' → d = 0 := by decide
      exact hdigit n hn (List.cons.inj h).1
    · rw [Nat.toDigits_of_base_le (by decide) (by omega)] at h
      cases hfirst : Nat.toDigits 10 (n / 10) with
      | nil => exact absurd hfirst (Text.Decimal.digits_ne_nil (n / 10))
      | cons d digits =>
        rw [hfirst, List.cons_append] at h
        rw [(List.cons.inj h).1] at hfirst
        have := ih (n / 10) (by omega) digits hfirst
        omega

theorem natural?_digits (n : Nat) : natural? (Text.Decimal.digits n) = some n := by
  have hdigits : ∀ c ∈ Text.Decimal.digits n, c.isDigit = true := fun c hc =>
    Text.Decimal.isDigit_of_mem_digits hc
  have hvalue := Text.Decimal.value_digits n
  cases h : Text.Decimal.digits n with
  | nil => exact absurd h (Text.Decimal.digits_ne_nil n)
  | cons d rest =>
    rw [h] at hdigits hvalue
    rw [natural?.eq_def]
    split
    · rename_i heq
      cases heq
    · rename_i heq
      rw [heq] at hvalue
      rw [← hvalue]
      rfl
    · rename_i d' rest' hnotZero heq
      obtain ⟨rfl, rfl⟩ := List.cons.inj heq
      have hzero : d ≠ '0' := by
        rintro rfl
        have hn := digits_ne_zero_cons n rest h
        rw [hn] at h
        exact hnotZero rfl (List.cons.inj h).2.symm
      have hall : (d :: rest).all Char.isDigit = true := List.all_eq_true.mpr hdigits
      rw [hall, decide_eq_false hzero]
      exact congrArg some hvalue

theorem integer?_numeral (n : Int) : integer? (Text.Decimal.numeral n).toList = some n := by
  rw [Text.Decimal.numeral, String.toList_ofList]
  split
  · rename_i hneg
    rw [integer?, natural?_digits]
    have hvalue : -(n.natAbs : Int) = n := by omega
    exact congrArg some hvalue
  · rename_i hpos
    have hhead : ∀ rest, Text.Decimal.digits n.natAbs ≠ '-' :: rest := fun rest h =>
      absurd (h ▸ List.mem_cons_self) (Text.Decimal.sign_not_mem_digits n.natAbs)
    rw [integer?.eq_def]
    split
    · rename_i heq
      exact absurd heq (hhead _)
    · rw [natural?_digits]
      have hvalue : (n.natAbs : Int) = n := by omega
      exact congrArg some hvalue

theorem lexes_numeral (n : Int) (tokens : List Token) :
    Lexes tokens (Text.Decimal.numeral n).toList (tokens ++ [.value (.number n)]) := by
  have hchars : ∀ c ∈ (Text.Decimal.numeral n).toList, isWordChar c = true := fun c hc => by
    rcases Text.Ascii.mem_numeral hc with rfl | hdigit
    · rfl
    · rw [isWordChar, Char.isAlphanum, hdigit, Bool.or_true]
      rfl
  have hletters : ∀ word : List Char, (∃ c ∈ word, c ≠ '-' ∧ c.isDigit = false) →
      (Text.Decimal.numeral n).toList ≠ word := by
    rintro word ⟨c, hc, hsign, hdigit⟩ h
    rcases Text.Ascii.mem_numeral (h ▸ hc) with rfl | hd
    · exact hsign rfl
    · rw [hdigit] at hd
      cases hd
  have hword : word? (Text.Decimal.numeral n).toList = some (.number n) := by
    rw [word?, if_neg (hletters _ ⟨'n', by decide⟩), if_neg (hletters _ ⟨'t', by decide⟩),
      if_neg (hletters _ ⟨'f', by decide⟩), integer?_numeral]
    rfl
  cases h : (Text.Decimal.numeral n).toList with
  | nil =>
    have hinteger := integer?_numeral n
    rw [h] at hinteger
    cases hinteger
  | cons c s =>
    rw [h] at hchars hword
    exact lexes_word hword hchars tokens

/-! ### Strings -/

def units (n : Nat) : List Nat :=
  if n < 0x10000 then [n]
  else [0xD800 + (n - 0x10000) / 0x400, 0xDC00 + (n - 0x10000) % 0x400]

theorem foldlM_escapeUnit (tokens : List Token) (s : List Nat) {n : Nat} (h : n < 0x10000) :
    (escapeUnit n).foldlM Lexer.step ⟨tokens, .text s⟩ = some ⟨tokens, .text (s ++ [n])⟩ := by
  have hdigit : ∀ m, Text.Hex.digit? (Text.Hex.digit (m % 16)) = some (m % 16) := fun m =>
    Text.Hex.digit?_digit _ (Nat.mod_lt m (by decide))
  have hvalue : 16 * (16 * (16 * (16 * 0 + n / 4096 % 16) + n / 256 % 16) + n / 16 % 16) + n % 16 =
      n := by omega
  have hunit : ∀ count value m, Lexer.step ⟨tokens, .unit s count value⟩ (Text.Hex.digit (m % 16)) =
      some (if count = 3 then ⟨tokens, .text (s ++ [16 * value + m % 16])⟩
        else ⟨tokens, .unit s (count + 1) (16 * value + m % 16)⟩) := fun count value m => by
    rw [Lexer.step]
    dsimp only
    rw [hdigit]
    rfl
  have hbackslash : Lexer.step ⟨tokens, .text s⟩ '\\' = some ⟨tokens, .escape s⟩ := rfl
  have hletter : Lexer.step ⟨tokens, .escape s⟩ 'u' = some ⟨tokens, .unit s 0 0⟩ := rfl
  rw [escapeUnit, foldlM_cons_of_step hbackslash, foldlM_cons_of_step hletter,
    foldlM_cons_of_step (hunit 0 0 _), if_neg (by decide),
    foldlM_cons_of_step (hunit _ _ _), if_neg (by decide),
    foldlM_cons_of_step (hunit _ _ _), if_neg (by decide),
    foldlM_cons_of_step (hunit _ _ _), if_pos (by decide), hvalue]
  rfl

theorem toNat_lt (c : Char) : c.toNat < 0x110000 := by
  have h : c.toNat < 0xD800 ∨ 0xDFFF < c.toNat ∧ c.toNat < 0x110000 := c.valid
  omega

/-- A character is read from its escape as the units that it consists of. -/
theorem foldlM_escapeChar (tokens : List Token) (s : List Nat) (c : Char) :
    (escapeChar c).foldlM Lexer.step ⟨tokens, .text s⟩ =
      some ⟨tokens, .text (s ++ units c.toNat)⟩ := by
  rw [escapeChar]
  -- the characters with an escape of their own
  iterate 7
    split
    · subst_vars
      rfl
  rename_i hquote hbackslash _ _ _ _ _
  split
  · rename_i hprintable
    rw [Bool.and_eq_true, decide_eq_true_iff, decide_eq_true_iff] at hprintable
    have hcontrol : ¬ c < ' ' := Char.not_lt.mpr hprintable.1
    have hlast : c.toNat ≤ 126 := Char.le_def.mp hprintable.2
    have hsmall : c.toNat < 0x10000 := by omega
    have hstep : Lexer.step ⟨tokens, .text s⟩ c = some ⟨tokens, .text (s ++ [c.toNat])⟩ := by
      rw [Lexer.step]
      dsimp only
      rw [if_neg hquote, if_neg hbackslash, if_neg hcontrol]
    rw [foldlM_cons_of_step hstep, units, if_pos hsmall]
    rfl
  split
  · rename_i hsmall
    rw [foldlM_escapeUnit tokens s hsmall, units, if_pos hsmall]
  · rename_i hlarge
    have hbound := toNat_lt c
    have hhigh : 0xD800 + (c.toNat - 0x10000) / 0x400 < 0x10000 := by omega
    have hlow : 0xDC00 + (c.toNat - 0x10000) % 0x400 < 0x10000 := by omega
    rw [foldlM_append_of_foldlM (foldlM_escapeUnit tokens s hhigh), foldlM_escapeUnit tokens _ hlow,
      units, if_neg hlarge, List.append_assoc, List.singleton_append]

theorem foldlM_escapePoint (tokens : List Token) (s : List Nat) {n : Nat} (h : n < 0x110000) :
    (escapePoint n).foldlM Lexer.step ⟨tokens, .text s⟩ =
      some ⟨tokens, .text (s ++ units n)⟩ := by
  rw [escapePoint]
  split
  · rename_i hcharacter
    rw [foldlM_escapeChar, Text.toNat_ofNat (Text.isCharacter_iff.mp hcharacter)]
  · rename_i hsurrogate
    have hsmall : n < 0x10000 := by
      simp only [Text.isCharacter, Bool.or_eq_true, Bool.and_eq_true, decide_eq_true_eq,
        not_or, not_and] at hsurrogate
      omega
    rw [foldlM_escapeUnit tokens s hsmall, units, if_pos hsmall]

theorem foldlM_escapePoints (tokens : List Token) : ∀ (t s : List Nat), (∀ n ∈ t, n < 0x110000) →
    (t.flatMap escapePoint).foldlM Lexer.step ⟨tokens, .text s⟩ =
      some ⟨tokens, .text (s ++ t.flatMap units)⟩
  | [], s, _ => by
    rw [List.flatMap_nil, List.flatMap_nil, List.append_nil]
    rfl
  | n :: t, s, h => by
    obtain ⟨hn, ht⟩ := List.forall_mem_cons.mp h
    rw [List.flatMap_cons, List.flatMap_cons,
      foldlM_append_of_foldlM (foldlM_escapePoint tokens s hn), foldlM_escapePoints tokens t _ ht,
      List.append_assoc]

/-! ### Surrogate pairs -/

theorem joinPairs_cons {n : Nat} {s : List Nat}
    (h : isHigh n = false ∨ ∀ m, s.head? = some m → isLow m = false) :
    joinPairs (n :: s) = n :: joinPairs s := by
  cases s with
  | nil => rfl
  | cons m s =>
    have hpair : ¬ (isHigh n && isLow m) = true := by
      rcases h with h | h
      · rw [h, Bool.false_and]
        decide
      · rw [h m rfl, Bool.and_false]
        decide
    rw [joinPairs, if_neg hpair]

/-- The two units of a code point are put together again. -/
theorem joinPairs_units_append {n : Nat} (hlarge : ¬ n < 0x10000) (h : n < 0x110000)
    (s : List Nat) : joinPairs (units n ++ s) = n :: joinPairs s := by
  have hpair : (isHigh (0xD800 + (n - 0x10000) / 0x400) &&
      isLow (0xDC00 + (n - 0x10000) % 0x400)) = true := by
    simp only [isHigh, isLow, Bool.and_eq_true, decide_eq_true_eq]
    omega
  have hvalue : 0x10000 + 0x400 * (0xD800 + (n - 0x10000) / 0x400 - 0xD800) +
      (0xDC00 + (n - 0x10000) % 0x400 - 0xDC00) = n := by omega
  rw [units, if_neg hlarge, List.cons_append, List.cons_append, List.nil_append, joinPairs,
    if_pos hpair, hvalue]

/-- The units of code points begin with the second half of a pair only if these do. -/
theorem isLow_head_units {s : List Nat} (h : ∀ m, s.head? = some m → isLow m = false)
    (hs : ∀ n ∈ s, n < 0x110000) :
    ∀ m, (s.flatMap units).head? = some m → isLow m = false := by
  cases s with
  | nil => exact fun m hm => by cases hm
  | cons n s =>
    intro m hm
    have hn := hs n List.mem_cons_self
    rw [List.flatMap_cons, units] at hm
    split at hm
    · rw [← Option.some.inj hm]
      exact h n rfl
    · rw [← Option.some.inj hm, isLow, Bool.and_eq_false_iff, decide_eq_false_iff_not]
      omega

theorem units_of_surrogate {n : Nat} (h : isHigh n = true ∨ isLow n = true) : units n = [n] := by
  simp only [isHigh, isLow, Bool.and_eq_true, decide_eq_true_eq] at h
  exact if_pos (by omega)

/-- Code points are put together from their units as they are from themselves. -/
theorem joinPairs_units (s : List Nat) : (∀ n ∈ s, n < 0x110000) →
    joinPairs (s.flatMap units) = joinPairs s := by
  -- along the recursion on the code points: a pair stays one, a code point of two units becomes one
  fun_induction joinPairs s with
  | case1 high low rest hpair ih =>
    intro h
    obtain ⟨-, -, hrest⟩ := (List.forall_mem_cons.mp h).imp_right List.forall_mem_cons.mp
    obtain ⟨hhigh, hlow⟩ := Bool.and_eq_true_iff.mp hpair
    rw [List.flatMap_cons, List.flatMap_cons, units_of_surrogate (.inl hhigh),
      units_of_surrogate (.inr hlow), List.singleton_append, List.singleton_append, joinPairs,
      if_pos hpair, ih hrest]
  | case2 high low rest hpair ih =>
    intro h
    obtain ⟨hhigh, hrest⟩ := List.forall_mem_cons.mp h
    rw [List.flatMap_cons]
    by_cases hsmall : high < 0x10000
    · have hapart : isHigh high = false ∨
          ∀ m, ((low :: rest).flatMap units).head? = some m → isLow m = false := by
        rw [Bool.not_eq_true, Bool.and_eq_false_iff] at hpair
        refine hpair.imp_right fun hlow => isLow_head_units (fun m hm => ?_) hrest
        rw [← Option.some.inj hm, hlow]
      rw [units, if_pos hsmall, List.singleton_append, joinPairs_cons hapart, ih hrest]
    · rw [joinPairs_units_append hsmall hhigh, ih hrest]
  | case3 s hshort =>
    intro h
    match s with
    | [] => rfl
    | [n] =>
      rw [List.flatMap_singleton]
      by_cases hsmall : n < 0x10000
      · rw [units, if_pos hsmall]
        rfl
      · have hn := joinPairs_units_append hsmall (h n List.mem_cons_self) []
        rwa [List.append_nil] at hn
    | high :: low :: rest => exact absurd rfl (hshort high low rest)

theorem lexes_points {s : List Nat} (h : ∀ n ∈ s, n < 0x110000) (tokens : List Token) :
    Lexes tokens ('"' :: s.flatMap escapePoint ++ ['"'])
      (tokens ++ [.value (ofPoints (joinPairs s))]) := by
  have hopen : Lexer.step ⟨tokens, .between⟩ '"' = some ⟨tokens, .text []⟩ := rfl
  have hclose : Lexer.step ⟨tokens, .text (s.flatMap units)⟩ '"' =
      some ⟨tokens ++ [.value (ofPoints (joinPairs s))], .between⟩ := by
    rw [← joinPairs_units s h]
    rfl
  refine ⟨⟨tokens ++ [.value (ofPoints (joinPairs s))], .between⟩, ?_, rfl⟩
  rw [List.cons_append, foldlM_cons_of_step hopen,
    foldlM_append_of_foldlM (foldlM_escapePoints tokens s [] h), List.nil_append,
    foldlM_cons_of_step hclose]
  rfl

theorem joinPairs_points : ∀ s : List Char, joinPairs (Text.points s) = Text.points s
  | [] => rfl
  | c :: s => by
    have hcharacter : isHigh c.toNat = false := by
      have h : c.toNat < 0xD800 ∨ 0xDFFF < c.toNat ∧ c.toNat < 0x110000 := c.valid
      rw [isHigh, Bool.and_eq_false_iff, decide_eq_false_iff_not, decide_eq_false_iff_not]
      omega
    change joinPairs (c.toNat :: Text.points s) = _
    rw [joinPairs_cons (.inl hcharacter), joinPairs_points s]
    rfl

theorem flatMap_escapePoint_points (s : List Char) :
    (Text.points s).flatMap escapePoint = s.flatMap escapeChar := by
  rw [Text.points, List.flatMap_map]
  congr 1
  funext c
  rw [escapePoint, if_pos (Text.isCharacter_toNat c), Char.ofNat_toNat]

theorem lexes_string (s : String) (tokens : List Token) :
    Lexes tokens (quoted s) (tokens ++ [.value (.string s)]) := by
  have hpoints : ∀ n ∈ Text.points s.toList, n < 0x110000 := fun n hn => by
    obtain ⟨c, -, rfl⟩ := List.mem_map.mp hn
    exact toNat_lt c
  have hlexes := lexes_points hpoints tokens
  rwa [joinPairs_points, ofPoints_points, flatMap_escapePoint_points] at hlexes

end SignedHttp.Json
