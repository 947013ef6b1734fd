import SignedHttp.Proofs.Json.Scalars

/-!
# A rendered value is read back

The text of a value is read back as the value (`read?_render`), up to surrogate pairs in its
strings, which are put together (`joined`). Both passes of the reader are followed by induction on
the value, with one case for each way to build one: the first pass reads the characters of a value
as its tokens, whatever was read before (`lexes_chars`), and the second puts the value together
from them, whatever is open around it (`foldlM_tokens`). The text has
none but plain characters, whatever the strings of the value hold (`render_plain`).

Key definitions: `Json.joined`, `Json.isUnicode`, `Json.tokens`, `Json.isPlain`.
Key theorems: `Json.lexes_chars`, `Json.foldlM_tokens`, `Json.read?_render`,
`Json.render_plain`.
-/

namespace SignedHttp.Json

mutual

/-- The value with the surrogate pairs of its strings put together. -/
def joined : Json → Json
  | .null => .null
  | .bool b => .bool b
  | .number n => .number n
  | .string s => .string s
  | .points s => ofPoints (joinPairs s.codes)
  | .array items => .array (joinedItems items)
  | .object members => .object (joinedMembers members)

def joinedItems : List Json → List Json
  | [] => []
  | item :: items => joined item :: joinedItems items

def joinedMembers : List (String × Json) → List (String × Json)
  | [] => []
  | (name, value) :: members => (name, joined value) :: joinedMembers members

end

mutual

/-- Whether all strings of a value consist of code points. -/
def isUnicode : Json → Bool
  | .points s => s.codes.all (· < 0x110000)
  | .array items => areUnicode items
  | .object members => areMembersUnicode members
  | _ => true

def areUnicode : List Json → Bool
  | [] => true
  | item :: items => isUnicode item && areUnicode items

def areMembersUnicode : List (String × Json) → Bool
  | [] => true
  | (_, value) :: members => isUnicode value && areMembersUnicode members

end

mutual

def tokens : Json → List Token
  | .null => [.value .null]
  | .bool b => [.value (.bool b)]
  | .number n => [.value (.number n)]
  | .string s => [.value (.string s)]
  | .points s => [.value (ofPoints (joinPairs s.codes))]
  | .array [] => [.openArray, .closeArray]
  | .array (item :: items) => .openArray :: tokens item ++ itemTokens items ++ [.closeArray]
  | .object [] => [.openObject, .closeObject]
  | .object ((name, value) :: members) =>
    .openObject :: .value (.string name) :: .colon :: tokens value ++ memberTokens members ++
      [.closeObject]

def itemTokens : List Json → List Token
  | [] => []
  | item :: items => .comma :: tokens item ++ itemTokens items

def memberTokens : List (String × Json) → List Token
  | [] => []
  | (name, value) :: members =>
    .comma :: .value (.string name) :: .colon :: tokens value ++ memberTokens members

end

/-! ### The first pass -/

/-- What stands behind the first item of an array goes on with a mark. -/
theorem fresh_itemChars (items : List Json) : Fresh (itemChars items) := by
  cases items with
  | nil => exact fresh_nil
  | cons => exact fresh_cons rfl

theorem fresh_memberChars (members : List (String × Json)) : Fresh (memberChars members) := by
  cases members with
  | nil => exact fresh_nil
  | cons => exact fresh_cons rfl

/-- A mark begins a token of its own, and continues no word. -/
theorem start_of_mark? {c : Char} {token : Token} (h : mark? c = some token)
    (before : List Token) :
    Lexer.start before c = some ⟨before ++ [token], .between⟩ ∧ isWordChar c = false := by
  rw [mark?.eq_def] at h
  split at h
  all_goals cases h
  all_goals exact ⟨rfl, rfl⟩

namespace Lexes

variable {before middle after : List Token} {s : List Char} {token : Token}

theorem mark (c : Char) (hc : mark? c = some token) (h : Lexes (before ++ [token]) s after) :
    Lexes before (c :: s) after :=
  .cons (start_of_mark? hc before).1 h

theorem concat (h : Lexes before s middle) (c : Char) (hc : mark? c = some token) :
    Lexes before (s ++ [c]) (middle ++ [token]) :=
  h.append (fresh_cons (start_of_mark? hc middle).2) (.mark c hc .nil)

theorem spaced (c : Char) (hc : mark? c = some token) (h : Lexes (before ++ [token]) s after) :
    Lexes before (c :: ' ' :: s) after :=
  .mark c hc (.cons rfl h)

theorem name (name : String) (h : Lexes (before ++ [.value (.string name)] ++ [.colon]) s after) :
    Lexes before (quoted name ++ ':' :: ' ' :: s) after :=
  (lexes_string name before).append (fresh_cons rfl) (.spaced ':' rfl h)

end Lexes

mutual

/-- The characters of a value are read as its tokens. -/
theorem lexes_chars : ∀ (value : Json), value.isUnicode = true → ∀ before : List Token,
    Lexes before (chars value) (before ++ tokens value)
  | .null, _, before => by
    rw [chars, tokens]
    exact lexes_word rfl (List.all_eq_true.mp rfl) before
  | .bool true, _, before => by
    rw [chars, tokens]
    exact lexes_word rfl (List.all_eq_true.mp rfl) before
  | .bool false, _, before => by
    rw [chars, tokens]
    exact lexes_word rfl (List.all_eq_true.mp rfl) before
  | .number n, _, before => by
    rw [chars, tokens]
    exact lexes_numeral n before
  | .string s, _, before => by
    rw [chars, tokens]
    exact lexes_string s before
  | .points s, h, before => by
    rw [isUnicode, List.all_eq_true] at h
    rw [chars, tokens]
    exact lexes_points (fun n hn => of_decide_eq_true (h n hn)) before
  | .array [], _, before => by
    have hmarks : Lexes before ['[', ']'] (before ++ [.openArray] ++ [.closeArray]) :=
      .mark '[' rfl (.mark ']' rfl .nil)
    rw [chars, tokens]
    rwa [List.append_assoc] at hmarks
  | .array (item :: items), h, before => by
    rw [isUnicode, areUnicode, Bool.and_eq_true] at h
    have hitem := lexes_chars item h.1 (before ++ [.openArray])
    have hitems := lexes_itemChars items h.2 (before ++ [.openArray] ++ tokens item)
    have hall := (hitem.append (fresh_itemChars items) hitems).concat ']' rfl
    rw [chars, tokens]
    simpa only [List.append_assoc, List.cons_append, List.nil_append] using hall.mark '[' rfl
  | .object [], _, before => by
    have hmarks : Lexes before ['\x7b', '\x7d'] (before ++ [.openObject] ++ [.closeObject]) :=
      .mark '\x7b' rfl (.mark '\x7d' rfl .nil)
    rw [chars, tokens]
    rwa [List.append_assoc] at hmarks
  | .object ((name, value) :: members), h, before => by
    rw [isUnicode, areMembersUnicode, Bool.and_eq_true] at h
    have hvalue := lexes_chars value h.1
      (before ++ [.openObject] ++ [.value (.string name)] ++ [.colon])
    have hmembers := lexes_memberChars members h.2
      (before ++ [.openObject] ++ [.value (.string name)] ++ [.colon] ++ tokens value)
    have hall := ((Lexes.name name hvalue).append (fresh_memberChars members) hmembers).concat
      '\x7d' rfl
    rw [chars, tokens]
    simpa only [List.append_assoc, List.cons_append, List.nil_append] using hall.mark '\x7b' rfl

theorem lexes_itemChars : ∀ (items : List Json), areUnicode items = true → ∀ before : List Token,
    Lexes before (itemChars items) (before ++ itemTokens items)
  | [], _, before => by
    rw [itemChars, itemTokens, List.append_nil]
    exact .nil
  | item :: items, h, before => by
    rw [areUnicode, Bool.and_eq_true] at h
    have hitem := lexes_chars item h.1 (before ++ [.comma])
    have hitems := lexes_itemChars items h.2 (before ++ [.comma] ++ tokens item)
    have hall := (hitem.spaced ',' rfl).append (fresh_itemChars items) hitems
    rw [itemChars, itemTokens]
    simpa only [List.append_assoc, List.cons_append, List.nil_append] using hall

theorem lexes_memberChars : ∀ (members : List (String × Json)), areMembersUnicode members = true →
    ∀ before : List Token, Lexes before (memberChars members) (before ++ memberTokens members)
  | [], _, before => by
    rw [memberChars, memberTokens, List.append_nil]
    exact .nil
  | (name, value) :: members, h, before => by
    rw [areMembersUnicode, Bool.and_eq_true] at h
    have hvalue := lexes_chars value h.1
      (before ++ [.comma] ++ [.value (.string name)] ++ [.colon])
    have hmembers := lexes_memberChars members h.2
      (before ++ [.comma] ++ [.value (.string name)] ++ [.colon] ++ tokens value)
    have hall := ((Lexes.name name hvalue).spaced ',' rfl).append (fresh_memberChars members)
      hmembers
    rw [memberChars, memberTokens]
    simpa only [List.append_assoc, List.cons_append, List.nil_append] using hall

end

/-! ### The second pass -/

/-- A value may be the first item of an array. -/
theorem foldlM_tokens_firstItem (value : Json) (stack : List Frame) :
    (tokens value).foldlM Builder.step ⟨.firstItem, .array [] :: stack⟩ =
      (tokens value).foldlM Builder.step ⟨.value, .array [] :: stack⟩ := by
  rw [tokens.eq_def]
  split
  all_goals rfl

mutual

/-- The tokens of a value are put together to the value, whatever is open around it. -/
theorem foldlM_tokens : ∀ (value : Json) (stack : List Frame),
    (tokens value).foldlM Builder.step ⟨.value, stack⟩ = some ⟨.done value.joined, stack⟩
  | .null, _ => by
    rw [tokens, joined]
    rfl
  | .bool b, _ => by
    rw [tokens, joined]
    rfl
  | .number n, _ => by
    rw [tokens, joined]
    rfl
  | .string s, _ => by
    rw [tokens, joined]
    rfl
  | .points s, _ => by
    rw [tokens, joined]
    rfl
  | .array [], _ => by
    rw [tokens, joined, joinedItems]
    rfl
  | .array (item :: items), stack => by
    have hopen : Builder.step ⟨.value, stack⟩ .openArray =
      some ⟨.firstItem, .array [] :: stack⟩ := rfl
    have hitem := (foldlM_tokens_firstItem item stack).trans (foldlM_tokens item _)
    rw [tokens, joined, joinedItems, List.append_assoc, List.cons_append,
      foldlM_cons_of_step hopen, foldlM_append_of_foldlM hitem, foldlM_itemTokens]
    rfl
  | .object [], _ => by
    rw [tokens, joined, joinedMembers]
    rfl
  | .object ((name, value) :: members), stack => by
    have hopen : Builder.step ⟨.value, stack⟩ .openObject = some ⟨.firstName, stack⟩ := rfl
    have hname : Builder.step ⟨.firstName, stack⟩ (.value (.string name)) =
      some ⟨.colon [] name, stack⟩ := rfl
    have hcolon : Builder.step ⟨.colon [] name, stack⟩ .colon =
      some ⟨.value, .object [] name :: stack⟩ := rfl
    rw [tokens, joined, joinedMembers, List.append_assoc, List.cons_append, List.cons_append,
      List.cons_append, foldlM_cons_of_step hopen, foldlM_cons_of_step hname,
      foldlM_cons_of_step hcolon, foldlM_append_of_foldlM (foldlM_tokens value _),
      foldlM_memberTokens]
    rfl

theorem foldlM_itemTokens : ∀ (items before : List Json) (last : Json) (stack : List Frame),
    (itemTokens items ++ [Token.closeArray]).foldlM Builder.step
        ⟨.done last, .array before :: stack⟩ =
      some ⟨.done (.array (before ++ last :: joinedItems items)), stack⟩
  | [], before, last, stack => by
    rw [itemTokens, joinedItems]
    rfl
  | item :: items, before, last, stack => by
    have hcomma : Builder.step ⟨.done last, .array before :: stack⟩ .comma =
      some ⟨.value, .array (before ++ [last]) :: stack⟩ := rfl
    rw [itemTokens, joinedItems, List.append_assoc, List.cons_append, foldlM_cons_of_step hcomma,
      foldlM_append_of_foldlM (foldlM_tokens item _), foldlM_itemTokens, List.append_assoc]
    rfl

theorem foldlM_memberTokens : ∀ (members before : List (String × Json)) (name : String)
    (value : Json) (stack : List Frame),
    (memberTokens members ++ [Token.closeObject]).foldlM Builder.step
        ⟨.done value, .object before name :: stack⟩ =
      some ⟨.done (.object (before ++ (name, value) :: joinedMembers members)), stack⟩
  | [], before, name, value, stack => by
    rw [memberTokens, joinedMembers]
    rfl
  | (next, item) :: members, before, name, value, stack => by
    have hcomma : Builder.step ⟨.done value, .object before name :: stack⟩ .comma =
      some ⟨.name (before ++ [(name, value)]), stack⟩ := rfl
    have hname : Builder.step ⟨.name (before ++ [(name, value)]), stack⟩ (.value (.string next)) =
      some ⟨.colon (before ++ [(name, value)]) next, stack⟩ := rfl
    have hcolon : Builder.step ⟨.colon (before ++ [(name, value)]) next, stack⟩ .colon =
      some ⟨.value, .object (before ++ [(name, value)]) next :: stack⟩ := rfl
    rw [memberTokens, joinedMembers, List.append_assoc, List.cons_append, List.cons_append,
      List.cons_append, foldlM_cons_of_step hcomma, foldlM_cons_of_step hname,
      foldlM_cons_of_step hcolon, foldlM_append_of_foldlM (foldlM_tokens item _),
      foldlM_memberTokens, List.append_assoc]
    rfl

end

/-- The text of a value is read back as the value. -/
theorem read?_render {value : Json} (h : value.isUnicode = true) :
    read? value.render = some value.joined := by
  obtain ⟨lexer, hread, hsettle⟩ := lexes_chars value h []
  have htokens : tokens? value.render.toList = some value.tokens := by
    rw [render, String.toList_ofList, tokens?, hread]
    exact hsettle
  have hbuild : build? value.tokens = some value.joined := by
    rw [build?, foldlM_tokens value []]
    rfl
  rw [read?, htokens]
  exact hbuild

/-! ### What the text consists of -/

/-- Whether a character is one of those between the blank and the tilde. -/
def isPlain (c : Char) : Bool :=
  ' ' ≤ c && c ≤ '~'

theorem isPlain_of_isDigit {c : Char} (h : c.isDigit = true) : isPlain c = true := by
  rw [Char.isDigit, Bool.and_eq_true, decide_eq_true_iff, decide_eq_true_iff] at h
  have hfirst : ' ' ≤ c := Char.le_trans (by decide) h.1
  have hlast : c ≤ '~' := Char.le_trans h.2 (by decide)
  rw [isPlain, decide_eq_true hfirst, decide_eq_true hlast]
  rfl

theorem isPlain_digit : ∀ n < 16, isPlain (Text.Hex.digit n) = true := by decide

theorem escapeUnit_plain (n : Nat) : (escapeUnit n).all isPlain = true := by
  have hdigit : ∀ m, isPlain (Text.Hex.digit (m % 16)) = true := fun m =>
    isPlain_digit _ (Nat.mod_lt m (by decide))
  simp only [escapeUnit, List.all_cons, hdigit]
  rfl

theorem escapeChar_plain (c : Char) : (escapeChar c).all isPlain = true := by
  rw [escapeChar]
  iterate 7
    split
    · rfl
  split
  · rename_i hplain
    rw [List.all_cons, isPlain, hplain]
    rfl
  split
  · exact escapeUnit_plain _
  · rw [List.all_append, escapeUnit_plain, escapeUnit_plain]
    rfl

theorem escapePoint_plain (n : Nat) : (escapePoint n).all isPlain = true := by
  rw [escapePoint]
  split
  · exact escapeChar_plain _
  · exact escapeUnit_plain n

theorem quoted_plain (s : String) : (quoted s).all isPlain = true := by
  have hchars : (s.toList.flatMap escapeChar).all isPlain = true := by
    rw [List.all_flatMap]
    exact List.all_eq_true.mpr fun c _ => escapeChar_plain c
  rw [quoted, List.cons_append, List.all_cons, List.all_append, hchars]
  rfl

theorem numeral_plain (n : Int) : (Text.Decimal.numeral n).toList.all isPlain = true :=
  List.all_eq_true.mpr fun _ hc => (Text.Ascii.mem_numeral hc).elim (· ▸ rfl) isPlain_of_isDigit

mutual

/-- The text of a value has no other characters. -/
theorem chars_plain : ∀ value : Json, (chars value).all isPlain = true
  | .null => by
    rw [chars]
    rfl
  | .bool true => by
    rw [chars]
    rfl
  | .bool false => by
    rw [chars]
    rfl
  | .number n => by
    rw [chars]
    exact numeral_plain n
  | .string s => by
    rw [chars]
    exact quoted_plain s
  | .points s => by
    have hpoints : (s.codes.flatMap escapePoint).all isPlain = true := by
      rw [List.all_flatMap]
      exact List.all_eq_true.mpr fun n _ => escapePoint_plain n
    rw [chars, List.cons_append, List.all_cons, List.all_append, hpoints]
    rfl
  | .array [] => by
    rw [chars]
    rfl
  | .array (item :: items) => by
    rw [chars, List.cons_append, List.cons_append, List.all_cons, List.all_append, List.all_append,
      chars_plain item, itemChars_plain items]
    rfl
  | .object [] => by
    rw [chars]
    rfl
  | .object ((name, value) :: members) => by
    simp only [chars, List.cons_append, List.all_cons, List.all_append, quoted_plain name,
      chars_plain value, memberChars_plain members]
    rfl

theorem itemChars_plain : ∀ items : List Json, (itemChars items).all isPlain = true
  | [] => by
    rw [itemChars]
    rfl
  | item :: items => by
    simp only [itemChars, List.cons_append, List.all_cons, List.all_append, chars_plain item,
      itemChars_plain items]
    rfl

theorem memberChars_plain : ∀ members : List (String × Json),
    (memberChars members).all isPlain = true
  | [] => by
    rw [memberChars]
    rfl
  | (name, value) :: members => by
    simp only [memberChars, List.cons_append, List.all_cons, List.all_append, quoted_plain name,
      chars_plain value, memberChars_plain members]
    rfl

end

theorem render_plain (value : Json) : value.render.toList.all isPlain = true := by
  rw [render, String.toList_ofList, chars_plain]

end SignedHttp.Json
