import SignedHttp.Proofs.Text.Ascii
import SignedHttp.Text.Hex

/-!
# Which texts are hexadecimal

Which bytes a text denotes is said here without reading it: a byte is a pair of digits, of either
case, and there may be blanks in front of every pair and at the end (`Denotes`). Exactly these texts
are read, and as these bytes (`decode_eq_ok_iff`).

Any other text is refused at its first character that is not ASCII, and if there is none, at the end
of the longest text in front of it that could still go on to one that denotes bytes
(`decode_eq_error_iff`). The induction follows the reader: each step takes off a blank or a pair,
and a text can go on behind that exactly if the rest of it can go on.

Key definitions: `IsDigit`, `Denotes`, `Begins`, `StopsAt`, `Refuses`.
Key theorems: `decode_eq_ok_iff`, `decode_eq_error_iff`.
-/

namespace SignedHttp.Text.Hex

/-! ### Digits -/

/-- Whether a character is the digit of a value, in either case. -/
def IsDigit (c : Char) (n : Nat) : Prop :=
  n < 16 ∧ (c = digit n ∨ c = capitalDigit n)

instance (c : Char) (n : Nat) : Decidable (IsDigit c n) :=
  inferInstanceAs (Decidable (n < 16 ∧ (c = digit n ∨ c = capitalDigit n)))

theorem digit?_capitalDigit : ∀ n < 16, digit? (capitalDigit n) = some n := by decide

theorem isAscii_of_digit? {c : Char} {n : Nat} (h : digit? c = some n) :
    Ascii.isAscii c = true := by
  have hle : c ≤ 'f' := by
    rw [digit?.eq_def] at h
    split at h
    · rename_i hc
      exact Char.le_trans (of_decide_eq_true (Bool.and_eq_true_iff.mp hc).2) (by decide)
    · split at h
      · rename_i hc
        exact of_decide_eq_true (Bool.and_eq_true_iff.mp hc).2
      · split at h
        · rename_i hc
          exact Char.le_trans (of_decide_eq_true (Bool.and_eq_true_iff.mp hc).2) (by decide)
        · cases h
  have : c.toNat ≤ 0x66 := hle
  rw [Ascii.isAscii, decide_eq_true_iff]
  omega

theorem digit?_eq_some_iff {c : Char} {n : Nat} : digit? c = some n ↔ IsDigit c n := by
  constructor
  · intro h
    have hall : ∀ k < 0x80, ∀ m ∈ digit? (.ofNat k), IsDigit (.ofNat k) m := by decide
    exact Ascii.forall_isAscii (p := fun c => ∀ m ∈ digit? c, IsDigit c m) hall
      (isAscii_of_digit? h) n h
  · rintro ⟨hn, rfl | rfl⟩
    · exact digit?_digit n hn
    · exact digit?_capitalDigit n hn

theorem isAsciiBlank_of_digit? {c : Char} {n : Nat} (h : digit? c = some n) :
    isAsciiBlank c = false := by
  have hcapital : ∀ n < 16, isAsciiBlank (capitalDigit n) = false := by decide
  obtain ⟨hn, rfl | rfl⟩ := digit?_eq_some_iff.mp h
  · exact isAsciiBlank_digit n hn
  · exact hcapital n hn

theorem isAscii_of_isAsciiBlank {c : Char} (h : isAsciiBlank c = true) :
    Ascii.isAscii c = true := by
  have hle : c ≤ ' ' := by
    rw [isAsciiBlank, Bool.or_eq_true] at h
    rcases h with h | h
    · obtain rfl := of_decide_eq_true h
      exact Char.le_refl _
    · exact Char.le_trans (of_decide_eq_true (Bool.and_eq_true_iff.mp h).2) (by decide)
  have : c.toNat ≤ 0x20 := hle
  rw [Ascii.isAscii, decide_eq_true_iff]
  omega

/-! ### The texts that denote bytes -/

/-- Which bytes a text denotes: a pair of digits each, behind any blanks, and blanks at the end. -/
inductive Denotes : List Char → List UInt8 → Prop
  | blanks {s : List Char} (h : ∀ c ∈ s, isAsciiBlank c = true) : Denotes s []
  | pair {blanks s : List Char} {c d : Char} {b : UInt8} {bytes : List UInt8}
    (hblanks : ∀ e ∈ blanks, isAsciiBlank e = true) (hhigh : IsDigit c (b.toNat / 16))
    (hlow : IsDigit d (b.toNat % 16)) (hrest : Denotes s bytes) :
    Denotes (blanks ++ c :: d :: s) (b :: bytes)

theorem decodeFrom_blank {c : Char} (h : isAsciiBlank c = true) (i : Nat) (s : List Char) :
    decodeFrom i (c :: s) = decodeFrom (i + 1) s := by
  rw [decodeFrom.eq_def]
  exact if_pos h

theorem decodeFrom_blanks : ∀ {blanks : List Char}, (∀ c ∈ blanks, isAsciiBlank c = true) →
    ∀ (i : Nat) (s : List Char), decodeFrom i (blanks ++ s) = decodeFrom (i + blanks.length) s
  | [], _, _, _ => rfl
  | c :: blanks, h, i, s => by
    obtain ⟨hc, hblanks⟩ := List.forall_mem_cons.mp h
    rw [List.cons_append, decodeFrom_blank hc, decodeFrom_blanks hblanks, List.length_cons,
      Nat.add_assoc, Nat.add_comm 1]

theorem decodeFrom_pair {c d : Char} {high low : Nat} (hhigh : digit? c = some high)
    (hlow : digit? d = some low) (i : Nat) (s : List Char) :
    decodeFrom i (c :: d :: s) =
      (UInt8.ofNat (16 * high + low) :: ·) <$> decodeFrom (i + 2) s := by
  simp only [decodeFrom, isAsciiBlank_of_digit? hhigh, hhigh, hlow, Bool.false_eq_true, if_false]

/-- A character that is neither a blank nor a digit is refused. -/
theorem decodeFrom_stuck {c : Char} (hblank : isAsciiBlank c = false) (hdigit : digit? c = none)
    (i : Nat) (s : List Char) : decodeFrom i (c :: s) = .error i := by
  simp only [decodeFrom.eq_def i (c :: s), hblank, hdigit, Bool.false_eq_true, if_false]

theorem decodeFrom_stuck_inside {c d : Char} {high : Nat} (hhigh : digit? c = some high)
    (hdigit : digit? d = none) (i : Nat) (s : List Char) :
    decodeFrom i (c :: d :: s) = .error (i + 1) := by
  simp only [decodeFrom, isAsciiBlank_of_digit? hhigh, hhigh, hdigit, Bool.false_eq_true, if_false]

theorem Denotes.blank {c : Char} {s : List Char} {bytes : List UInt8}
    (hc : isAsciiBlank c = true) (h : Denotes s bytes) : Denotes (c :: s) bytes := by
  cases h with
  | blanks h => exact .blanks (List.forall_mem_cons.mpr ⟨hc, h⟩)
  | pair hblanks hhigh hlow hrest =>
    exact .pair (List.forall_mem_cons.mpr ⟨hc, hblanks⟩) hhigh hlow hrest

theorem halves_ofNat {high low : Nat} (hhigh : high < 16) (hlow : low < 16) :
    (UInt8.ofNat (16 * high + low)).toNat / 16 = high ∧
      (UInt8.ofNat (16 * high + low)).toNat % 16 = low := by
  rw [UInt8.toNat_ofNat']
  omega

/-- What is read from a text is what it denotes. -/
theorem denotes_of_decodeFrom {i : Nat} {s : List Char} {bytes : List UInt8}
    (h : decodeFrom i s = .ok bytes) : Denotes s bytes := by
  fun_induction decodeFrom i s generalizing bytes with
  | case1 i =>
    rw [← Except.ok.inj h]
    exact .blanks fun c hc => by cases hc
  | case2 i c s hc ih => exact (ih h).blank hc
  | case3 => cases h
  | case4 => cases h
  | case5 => cases h
  | case6 i c hc high hhigh d s low hlow ih =>
    cases hrest : decodeFrom (i + 2) s with
    | error j =>
      rw [hrest] at h
      cases h
    | ok rest =>
      rw [hrest] at h
      rw [← Except.ok.inj h]
      have hhigh' := digit?_eq_some_iff.mp hhigh
      have hlow' := digit?_eq_some_iff.mp hlow
      obtain ⟨hdiv, hmod⟩ := halves_ofNat hhigh'.1 hlow'.1
      refine @Denotes.pair [] s c d _ rest (fun e he => by cases he) ?_ ?_ (ih hrest)
      · rwa [hdiv]
      · rwa [hmod]

theorem Denotes.decodeFrom_eq {s : List Char} {bytes : List UInt8} (h : Denotes s bytes) :
    ∀ i, decodeFrom i s = .ok bytes := by
  induction h with
  | @blanks s hblanks =>
    intro i
    have hend := decodeFrom_blanks hblanks i []
    rw [List.append_nil] at hend
    exact hend.trans rfl
  | @pair blanks s c d b bytes hblanks hhigh hlow _ ih =>
    intro i
    have hb : UInt8.ofNat (16 * (b.toNat / 16) + b.toNat % 16) = b := ofNat_eq (Nat.div_add_mod _ _)
    rw [decodeFrom_blanks hblanks, decodeFrom_pair (digit?_eq_some_iff.mpr hhigh)
      (digit?_eq_some_iff.mpr hlow), ih, hb]
    rfl

theorem decodeFrom_eq_ok_iff (i : Nat) {s : List Char} {bytes : List UInt8} :
    decodeFrom i s = .ok bytes ↔ Denotes s bytes :=
  ⟨denotes_of_decodeFrom, fun h => h.decodeFrom_eq i⟩

theorem Denotes.isAscii {s : List Char} {bytes : List UInt8} (h : Denotes s bytes) :
    ∀ c ∈ s, Ascii.isAscii c = true := by
  induction h with
  | blanks h => exact fun c hc => isAscii_of_isAsciiBlank (h c hc)
  | pair hblanks hhigh hlow _ ih =>
    intro e he
    rw [List.mem_append, List.mem_cons, List.mem_cons] at he
    rcases he with he | rfl | rfl | he
    · exact isAscii_of_isAsciiBlank (hblanks e he)
    · exact isAscii_of_digit? (digit?_eq_some_iff.mpr hhigh)
    · exact isAscii_of_digit? (digit?_eq_some_iff.mpr hlow)
    · exact ih e he

/-! ### Where a text stops -/

/-- Whether a text can go on to one that denotes bytes. -/
def Begins (s : List Char) : Prop :=
  ∃ rest bytes, Denotes (s ++ rest) bytes

/-- The length of the longest text in front that can go on to one that denotes bytes. -/
structure StopsAt (s : List Char) (n : Nat) : Prop where
  reached : ∃ front, front <+: s ∧ Begins front ∧ front.length = n
  most : ∀ front, front <+: s → Begins front → front.length ≤ n

theorem begins_nil : Begins [] :=
  ⟨[], [], .blanks fun c hc => by cases hc⟩

/-- What can go on is read with something behind it. -/
theorem begins_iff (i : Nat) {s : List Char} :
    Begins s ↔ ∃ rest bytes, decodeFrom i (s ++ rest) = .ok bytes := by
  simp only [Begins, decodeFrom_eq_ok_iff]

theorem begins_blank_iff {c : Char} (hc : isAsciiBlank c = true) (s : List Char) :
    Begins (c :: s) ↔ Begins s := by
  rw [begins_iff 0, begins_iff 1]
  simp only [List.cons_append, decodeFrom_blank hc]

theorem begins_digit {c : Char} {high : Nat} (hc : digit? c = some high) : Begins [c] := by
  have hzero : digit? '0' = some 0 := by decide
  exact (begins_iff 0).mpr ⟨['0'], _, decodeFrom_pair hc hzero 0 []⟩

theorem begins_pair_iff {c d : Char} {high low : Nat} (hhigh : digit? c = some high)
    (hlow : digit? d = some low) (s : List Char) : Begins (c :: d :: s) ↔ Begins s := by
  rw [begins_iff 0, begins_iff 2]
  simp only [List.cons_append, decodeFrom_pair hhigh hlow]
  constructor
  · rintro ⟨rest, bytes, h⟩
    cases hrest : decodeFrom (0 + 2) (s ++ rest) with
    | ok bytes => exact ⟨rest, bytes, hrest⟩
    | error j =>
      rw [hrest] at h
      cases h
  · rintro ⟨rest, bytes, h⟩
    exact ⟨rest, _, by rw [show 0 + 2 = 2 from rfl, h]; rfl⟩

namespace StopsAt

variable {c d : Char} {s : List Char} {n : Nat}

theorem unique {m : Nat} (h : StopsAt s n) (h' : StopsAt s m) : n = m := by
  obtain ⟨front, hfront, hbegins, rfl⟩ := h.reached
  obtain ⟨front', hfront', hbegins', rfl⟩ := h'.reached
  exact Nat.le_antisymm (h'.most front hfront hbegins) (h.most front' hfront' hbegins')

theorem blank (hc : isAsciiBlank c = true) (h : StopsAt s n) : StopsAt (c :: s) (n + 1) where
  reached := by
    obtain ⟨front, hfront, hbegins, rfl⟩ := h.reached
    exact ⟨c :: front, List.cons_prefix_cons.mpr ⟨rfl, hfront⟩,
      (begins_blank_iff hc front).mpr hbegins, rfl⟩
  most front hfront hbegins := by
    rcases List.prefix_cons_iff.mp hfront with rfl | ⟨rest, rfl, hrest⟩
    · exact Nat.zero_le _
    · exact Nat.succ_le_succ (h.most rest hrest ((begins_blank_iff hc rest).mp hbegins))

theorem pair {high low : Nat} (hhigh : digit? c = some high) (hlow : digit? d = some low)
    (h : StopsAt s n) : StopsAt (c :: d :: s) (n + 2) where
  reached := by
    obtain ⟨front, hfront, hbegins, rfl⟩ := h.reached
    refine ⟨c :: d :: front, ?_, (begins_pair_iff hhigh hlow front).mpr hbegins, rfl⟩
    exact List.cons_prefix_cons.mpr ⟨rfl, List.cons_prefix_cons.mpr ⟨rfl, hfront⟩⟩
  most front hfront hbegins := by
    rcases List.prefix_cons_iff.mp hfront with rfl | ⟨behind, rfl, hbehind⟩
    · exact Nat.zero_le _
    · rcases List.prefix_cons_iff.mp hbehind with rfl | ⟨rest, rfl, hrest⟩
      · exact Nat.succ_le_succ (Nat.zero_le _)
      · exact Nat.succ_le_succ (Nat.succ_le_succ
          (h.most rest hrest ((begins_pair_iff hhigh hlow rest).mp hbegins)))

theorem stuck (hblank : isAsciiBlank c = false) (hdigit : digit? c = none) :
    StopsAt (c :: s) 0 where
  reached := ⟨[], List.nil_prefix, begins_nil, rfl⟩
  most front hfront hbegins := by
    rcases List.prefix_cons_iff.mp hfront with rfl | ⟨_, rfl, -⟩
    · exact Nat.le_refl _
    · obtain ⟨rest, bytes, h⟩ := (begins_iff 0).mp hbegins
      rw [List.cons_append, decodeFrom_stuck hblank hdigit] at h
      cases h

theorem inside {high : Nat} (hhigh : digit? c = some high)
    (hnone : ∀ d, s.head? = some d → digit? d = none) : StopsAt (c :: s) 1 where
  reached := ⟨[c], List.cons_prefix_cons.mpr ⟨rfl, List.nil_prefix⟩, begins_digit hhigh, rfl⟩
  most front hfront hbegins := by
    rcases List.prefix_cons_iff.mp hfront with rfl | ⟨behind, rfl, hbehind⟩
    · exact Nat.zero_le _
    · cases behind with
      | nil => exact Nat.le_refl _
      | cons d behind =>
        obtain ⟨_, rfl⟩ := hbehind
        obtain ⟨rest, bytes, h⟩ := (begins_iff 0).mp hbegins
        rw [List.cons_append, List.cons_append, decodeFrom_stuck_inside hhigh (hnone d rfl)] at h
        cases h

end StopsAt

/-- A text that is refused is refused where it stops. -/
theorem stopsAt_of_decodeFrom {i j : Nat} {s : List Char} (h : decodeFrom i s = .error j) :
    ∃ n, j = i + n ∧ StopsAt s n := by
  fun_induction decodeFrom i s generalizing j with
  | case1 => cases h
  | case2 i c s hc ih =>
    obtain ⟨n, rfl, hn⟩ := ih h
    exact ⟨n + 1, by omega, hn.blank hc⟩
  | case3 i c s hblank hdigit =>
    exact ⟨0, (Except.error.inj h).symm, .stuck (Bool.eq_false_iff.mpr hblank) hdigit⟩
  | case4 i c _ high hhigh =>
    exact ⟨1, (Except.error.inj h).symm, .inside hhigh fun d hd => by cases hd⟩
  | case5 i c _ high hhigh d s hdigit =>
    refine ⟨1, (Except.error.inj h).symm, .inside hhigh fun e he => ?_⟩
    rwa [← Option.some.inj he]
  | case6 i c _ high hhigh d s low hlow ih =>
    cases hrest : decodeFrom (i + 2) s with
    | ok bytes =>
      rw [hrest] at h
      cases h
    | error k =>
      rw [hrest] at h
      obtain ⟨n, hn, hstops⟩ := ih hrest
      exact ⟨n + 2, by rw [← Except.error.inj h, hn]; omega, hstops.pair hhigh hlow⟩

/-! ### Whole texts -/

inductive Refuses (s : List Char) : Nat → Prop
  /-- At the first character that is not ASCII, whatever stands in front of it. -/
  | foreign {n : Nat} {c : Char} (hc : s[n]? = some c) (hforeign : Ascii.isAscii c = false)
    (hbefore : ∀ d ∈ s.take n, Ascii.isAscii d = true) : Refuses s n
  /-- If all of it is ASCII, where it stops. -/
  | stopped {n : Nat} (hascii : ∀ c ∈ s, Ascii.isAscii c = true)
    (hnone : ∀ bytes, ¬ Denotes s bytes) (hstops : StopsAt s n) : Refuses s n

theorem Refuses.not_denotes {s : List Char} {n : Nat} (h : Refuses s n) (bytes : List UInt8) :
    ¬ Denotes s bytes := by
  cases h with
  | foreign hc hforeign =>
    intro hbytes
    rw [hbytes.isAscii _ (List.mem_of_getElem? hc)] at hforeign
    cases hforeign
  | stopped _ hnone => exact hnone bytes

theorem Refuses.unique {s : List Char} {n m : Nat} (h : Refuses s n) (h' : Refuses s m) :
    n = m := by
  -- a character that is not ASCII is the first one, and then no text with it goes on
  have hfirst : ∀ {k l : Nat} {c : Char}, s[k]? = some c → Ascii.isAscii c = false →
      (∀ d ∈ s.take l, Ascii.isAscii d = true) → l ≤ k := by
    intro k l c hc hforeign hbefore
    refine Nat.le_of_not_lt fun hlt => ?_
    have hmem : c ∈ s.take l := by
      refine List.mem_of_getElem? (i := k) ?_
      rw [List.getElem?_take_of_lt hlt, hc]
    rw [hbefore c hmem] at hforeign
    cases hforeign
  cases h with
  | foreign hc hforeign hbefore =>
    cases h' with
    | foreign hc' hforeign' hbefore' =>
      exact Nat.le_antisymm (hfirst hc' hforeign' hbefore) (hfirst hc hforeign hbefore')
    | stopped hascii =>
      rw [hascii _ (List.mem_of_getElem? hc)] at hforeign
      cases hforeign
  | stopped hascii _ hstops =>
    cases h' with
    | foreign hc hforeign =>
      rw [hascii _ (List.mem_of_getElem? hc)] at hforeign
      cases hforeign
    | stopped _ _ hstops' => exact hstops.unique hstops'

theorem refuses_of_findIdx? {s : List Char} {n : Nat}
    (h : s.findIdx? (0x80 ≤ ·.toNat) = some n) : Refuses s n := by
  obtain ⟨hlt, hforeign, hbefore⟩ := List.findIdx?_eq_some_iff_getElem.mp h
  refine .foreign (List.getElem?_eq_getElem hlt) ?_ fun d hd => ?_
  · rw [decide_eq_true_iff] at hforeign
    exact decide_eq_false (Nat.not_lt.mpr hforeign)
  · obtain ⟨k, hk, rfl⟩ := List.mem_take_iff_getElem.mp hd
    have hascii := hbefore k (Nat.lt_of_lt_of_le hk (Nat.min_le_left _ _))
    rw [decide_eq_true_iff, Nat.not_le] at hascii
    exact decide_eq_true hascii

/-- The first character that is not ASCII is looked for in the whole text. -/
theorem findIdx?_eq_none_iff_isAscii {s : List Char} :
    s.findIdx? (0x80 ≤ ·.toNat) = none ↔ ∀ c ∈ s, Ascii.isAscii c = true := by
  rw [List.findIdx?_eq_none_iff]
  simp [Ascii.isAscii]

/-- Exactly the texts that denote bytes are read, and as these bytes. -/
theorem decode_eq_ok_iff (s : String) (bytes : List UInt8) :
    decode s = .ok bytes ↔ Denotes s.toList bytes := by
  rw [decode]
  cases hforeign : s.toList.findIdx? (0x80 ≤ ·.toNat) with
  | none => exact decodeFrom_eq_ok_iff 0
  | some n =>
    refine iff_of_false (fun h => by cases h) fun h => ?_
    rw [findIdx?_eq_none_iff_isAscii.mpr h.isAscii] at hforeign
    cases hforeign

theorem refuses_of_decode {s : String} {n : Nat} (h : decode s = .error n) :
    Refuses s.toList n := by
  rw [decode] at h
  cases hforeign : s.toList.findIdx? (0x80 ≤ ·.toNat) with
  | some m =>
    rw [hforeign] at h
    rw [← Except.error.inj h]
    exact refuses_of_findIdx? hforeign
  | none =>
    rw [hforeign] at h
    obtain ⟨m, rfl, hstops⟩ := stopsAt_of_decodeFrom h
    refine .stopped (findIdx?_eq_none_iff_isAscii.mp hforeign) (fun bytes hbytes => ?_) ?_
    · cases h.symm.trans (hbytes.decodeFrom_eq 0)
    · rwa [Nat.zero_add]

/-- Any other text is refused where it is said to be. -/
theorem decode_eq_error_iff (s : String) (n : Nat) :
    decode s = .error n ↔ Refuses s.toList n := by
  refine ⟨refuses_of_decode, fun h => ?_⟩
  cases hread : decode s with
  | ok bytes => exact absurd ((decode_eq_ok_iff s bytes).mp hread) (h.not_denotes bytes)
  | error m => rw [h.unique (refuses_of_decode hread)]

end SignedHttp.Text.Hex
