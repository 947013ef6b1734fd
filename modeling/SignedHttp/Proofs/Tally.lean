import Mathlib.Data.List.Basic
import Mathlib.Data.List.Induction
import Mathlib.Data.List.TakeWhile
import SignedHttp.Proofs.Events
import SignedHttp.Proofs.Text.Decimal

/-!
# What a tally shows

A tally that counted outcomes one after the other has one entry for each that occurred, in the
order of their first occurrences, with the number of its occurrences (`counts_foldl_increment`).
The induction is on the outcomes from the end: the last one either adds to the entry that it has,
or has none yet and gets it behind the others. The exposition therefore shows just the outcomes
that were counted (`exposition_foldl_increment`), and a sample says of one outcome how often it was
(`sample_inj`): also in long form, where zeros at the end are left out, the exponent tells how many
digits there are.

Key theorems: `Tally.counts_foldl_increment`, `Tally.exposition_foldl_increment`,
`Tally.sample_inj`, `Tally.sample_mem_exposition_iff`.
-/

namespace SignedHttp

/-! ### First occurrences -/

theorem eraseDups_concat (outcomes : List Outcome) (outcome : Outcome) :
    (outcomes ++ [outcome]).eraseDups =
      if outcome ∈ outcomes then outcomes.eraseDups else outcomes.eraseDups ++ [outcome] := by
  rw [List.eraseDups_append, List.removeAll]
  split
  · rename_i h
    simp [h]
  · rename_i h
    simp [h, List.eraseDups_cons]

theorem nodup_eraseDups (outcomes : List Outcome) : outcomes.eraseDups.Nodup := by
  induction outcomes using List.reverseRecOn with
  | nil => exact List.nodup_nil
  | append_singleton outcomes outcome ih =>
    rw [eraseDups_concat]
    split
    · exact ih
    · rename_i h
      refine List.nodup_append.mpr ⟨ih, List.pairwise_singleton _ _, fun a ha b hb => ?_⟩
      rw [List.mem_singleton.mp hb]
      rintro rfl
      exact h (List.mem_eraseDups.mp ha)

namespace Tally

/-- One more of an outcome adds to its entry, or makes one behind the others. -/
theorem incrementIn_map (outcome : Outcome) (number : Outcome → Nat) :
    ∀ {order : List Outcome}, order.Nodup →
      incrementIn outcome (order.map fun o => (o, number o)) =
        (order.map fun o => (o, number o + if o = outcome then 1 else 0)) ++
          if outcome ∈ order then [] else [(outcome, 1)]
  | [], _ => rfl
  | o :: order, h => by
    obtain ⟨ho, horder⟩ := List.nodup_cons.mp h
    rw [List.map_cons, incrementIn]
    by_cases hsame : o = outcome
    · subst hsame
      have hothers : (order.map fun a => (a, number a + if a = o then 1 else 0)) =
          order.map fun a => (a, number a) := by
        refine List.map_congr_left fun a ha => ?_
        rw [if_neg fun e : a = o => ho (e ▸ ha), Nat.add_zero]
      simp [hothers]
    · have hmem : outcome ∈ o :: order ↔ outcome ∈ order := by
        simp [Ne.symm hsame]
      rw [if_neg hsame, incrementIn_map outcome number horder]
      simp only [List.map_cons, hsame, hmem, if_false, Nat.add_zero, List.cons_append]

/-- The entries are the outcomes that occurred, in the order of their first occurrences, with the
numbers of their occurrences. -/
theorem counts_foldl_increment (outcomes : List Outcome) :
    (outcomes.foldl increment empty).counts =
      outcomes.eraseDups.map fun o => (o, outcomes.count o) := by
  induction outcomes using List.reverseRecOn with
  | nil => rfl
  | append_singleton outcomes outcome ih =>
    have hcount : ∀ o, (outcomes ++ [outcome]).count o =
        outcomes.count o + if o = outcome then 1 else 0 := by
      intro o
      rw [List.count_append, List.count_singleton]
      by_cases h : o = outcome
      · simp [h]
      · simp [h, Ne.symm h]
    rw [List.foldl_append, List.foldl_cons, List.foldl_nil, increment, ih,
      incrementIn_map outcome _ (nodup_eraseDups _), eraseDups_concat]
    simp only [hcount, List.mem_eraseDups]
    by_cases h : outcome ∈ outcomes
    · rw [if_pos h, if_pos h, List.append_nil]
    · have hzero : outcomes.count outcome = 0 := List.count_eq_zero.mpr h
      rw [if_neg h, if_neg h, List.map_append, List.map_singleton, hzero, if_pos rfl]

/-! ### What a sample shows -/

/-- The digits that a sample shows: those of the count, without zeros at the end. -/
def significant (digits : List Char) : List Char :=
  (digits.reverse.dropWhile (· = '0')).reverse

/-- Digits with a point behind the first one, unless that is the only one. -/
def pointed : List Char → List Char
  | d :: e :: rest => d :: '.' :: e :: rest
  | short => short

theorem sampleValue_eq (n : Nat) :
    sampleValue n = if (Text.Decimal.digits n).length ≤ 6 then
        .ofList (Text.Decimal.digits n ++ ['.', '0'])
      else .ofList (pointed (significant (Text.Decimal.digits n)) ++
        'e' :: '+' :: '0' :: Text.Decimal.digits ((Text.Decimal.digits n).length - 1)) := by
  rw [sampleValue]
  split
  · rfl
  · dsimp only [significant]
    rw [List.append_assoc]
    generalize (List.dropWhile _ (Text.Decimal.digits n).reverse).reverse = shown
    match shown with
    | [] => rfl
    | [_] => rfl
    | _ :: _ :: _ => rfl

theorem mem_of_mem_significant {digits : List Char} {c : Char} (h : c ∈ significant digits) :
    c ∈ digits :=
  List.mem_reverse.mp ((List.dropWhile_suffix _).subset (List.mem_reverse.mp h))

/-- Zeros at the end can be told from the number of digits. -/
theorem eq_of_significant_eq {s t : List Char} (hlength : s.length = t.length)
    (h : significant s = significant t) : s = t := by
  have hzeros : ∀ l : List Char, l.takeWhile (· = '0') =
      .replicate (l.takeWhile (· = '0')).length '0' := fun l =>
    List.eq_replicate_iff.mpr ⟨rfl, fun c hc => by simpa using List.mem_takeWhile_imp hc⟩
  have hparts : ∀ l : List Char, l.reverse =
      .replicate (l.reverse.takeWhile (· = '0')).length '0' ++
        l.reverse.dropWhile (· = '0') := fun l => by
    rw [← hzeros, List.takeWhile_append_dropWhile]
  have hdrop : s.reverse.dropWhile (· = '0') = t.reverse.dropWhile (· = '0') :=
    List.reverse_injective h
  have hlengths := congrArg List.length (hparts s)
  have hlengtht := congrArg List.length (hparts t)
  rw [List.length_append, List.length_replicate, List.length_reverse] at hlengths hlengtht
  have htake : (s.reverse.takeWhile (· = '0')).length =
      (t.reverse.takeWhile (· = '0')).length := by
    rw [hdrop] at hlengths
    omega
  refine List.reverse_injective ?_
  rw [hparts s, hparts t, htake, hdrop]

theorem pointed_inj {s t : List Char} (hs : ∀ c ∈ s, c.isDigit = true)
    (ht : ∀ c ∈ t, c.isDigit = true) (h : pointed s = pointed t) : s = t := by
  have hfilter : ∀ {l : List Char}, (∀ c ∈ l, c.isDigit = true) →
      (pointed l).filter Char.isDigit = l := by
    intro l hl
    rw [pointed.eq_def]
    split
    · obtain ⟨hd, hrest⟩ := List.forall_mem_cons.mp hl
      rw [List.filter_cons_of_pos hd, List.filter_cons_of_neg (by decide),
        List.filter_eq_self.mpr hrest]
    · exact List.filter_eq_self.mpr hl
  rw [← hfilter hs, h, hfilter ht]

theorem mem_pointed {l : List Char} {c : Char} (h : c ∈ pointed l) : c = '.' ∨ c ∈ l := by
  rw [pointed.eq_def] at h
  split at h
  · simp only [List.mem_cons] at h ⊢
    tauto
  · exact .inr h

theorem sampleValue_inj {n m : Nat} (h : sampleValue n = sampleValue m) : n = m := by
  -- the letter in front of the exponent is none of a count in short form
  have hletter : ∀ k, 'e' ∉ Text.Decimal.digits k := fun k hmem => by
    cases Text.Decimal.isDigit_of_mem_digits hmem
  have hshort : ∀ k, 'e' ∉ Text.Decimal.digits k ++ ['.', '0'] := fun k => by
    simpa using hletter k
  have hlong : ∀ k, 'e' ∉ pointed (significant (Text.Decimal.digits k)) := fun k hmem => by
    rcases mem_pointed hmem with hpoint | hmem
    · cases hpoint
    · exact hletter k (mem_of_mem_significant hmem)
  rw [sampleValue_eq, sampleValue_eq] at h
  split at h
  · split at h
    · exact Text.Decimal.digits_inj (List.append_cancel_right (String.ofList_injective h))
    · exact absurd (String.ofList_injective h ▸ List.mem_append_right _ List.mem_cons_self)
        (hshort n)
  · split at h
    · exact absurd (String.ofList_injective h ▸ List.mem_append_right _ List.mem_cons_self)
        (hshort m)
    · have htail : 'e' ∉ '+' :: '0' ::
          Text.Decimal.digits ((Text.Decimal.digits n).length - 1) := by
        simpa using hletter _
      obtain ⟨hpointed, -, hexponent⟩ := (List.append_cons_inj_of_notMem (hlong n) htail).mp
        (String.ofList_injective h)
      have hlengths := Text.Decimal.digits_inj (List.cons.inj (List.cons.inj hexponent).2).2
      have hlength : (Text.Decimal.digits n).length = (Text.Decimal.digits m).length := by omega
      refine Text.Decimal.digits_inj (eq_of_significant_eq hlength (pointed_inj ?_ ?_ hpointed))
      · exact fun c hc => Text.Decimal.isDigit_of_mem_digits (mem_of_mem_significant hc)
      · exact fun c hc => Text.Decimal.isDigit_of_mem_digits (mem_of_mem_significant hc)

theorem sample_inj {outcome other : Outcome} {n m : Nat}
    (h : sample outcome n = sample other m) : outcome = other ∧ n = m := by
  have hlabel : ∀ o : Outcome, '"' ∉ o.label.toList := fun o => by cases o <;> decide
  have hshown : ∀ (o : Outcome) (k : Nat), (sample o k).toList =
      (metricName ++ "\x7bresult=\"").toList ++
        (o.label.toList ++ '"' :: '}' :: ' ' :: (sampleValue k).toList) := fun o k => by
    rw [sample, String.toList_append, String.toList_append, String.toList_append,
      List.append_assoc, List.append_assoc]
    rfl
  have hlists := congrArg String.toList h
  rw [hshown, hshown] at hlists
  have htails := List.append_cancel_left hlists
  -- the label ends where the first quotation mark stands
  have hlabels := congrArg (List.takeWhile (· ≠ '"')) htails
  have hcut : ∀ (o : Outcome) (tail : List Char),
      (o.label.toList ++ '"' :: tail).takeWhile (· ≠ '"') = o.label.toList := fun o tail => by
    have hmarks : ∀ c ∈ o.label.toList, decide (c ≠ '"') = true := fun c hc =>
      decide_eq_true fun e => hlabel o (e ▸ hc)
    rw [List.takeWhile_append_of_pos hmarks]
    simp
  rw [hcut, hcut, String.toList_inj] at hlabels
  have houtcome : outcome = other := by
    revert hlabels
    cases outcome <;> cases other <;> decide
  subst houtcome
  refine ⟨rfl, sampleValue_inj (String.toList_injective ?_)⟩
  simpa using List.append_cancel_left htails

/-- The samples are those of the outcomes that occurred, in the order of their first occurrences,
and each shows how often its outcome did. -/
theorem exposition_foldl_increment (outcomes : List Outcome) :
    (outcomes.foldl increment empty).exposition =
      empty.exposition ++ outcomes.eraseDups.map fun o => sample o (outcomes.count o) := by
  rw [exposition, counts_foldl_increment, List.map_map]
  rfl

theorem sample_not_mem_exposition_empty (outcome : Outcome) (n : Nat) :
    sample outcome n ∉ empty.exposition := fun h => by
  have hfirst : (sample outcome n).toList.head? = some 's' := by
    rw [sample, String.toList_append, String.toList_append, String.toList_append]
    rfl
  have hlines : ∀ line ∈ empty.exposition, line.toList.head? = some '#' := by decide
  rw [hlines _ h] at hfirst
  cases hfirst

/-- A sample is there exactly if its outcome was counted, as often as it shows. -/
theorem sample_mem_exposition_iff (outcomes : List Outcome) (outcome : Outcome) (n : Nat) :
    sample outcome n ∈ (outcomes.foldl increment empty).exposition ↔
      1 ≤ n ∧ outcomes.count outcome = n := by
  rw [exposition_foldl_increment, List.mem_append,
    or_iff_right (sample_not_mem_exposition_empty outcome n), List.mem_map]
  constructor
  · rintro ⟨other, hother, hsample⟩
    obtain ⟨rfl, rfl⟩ := sample_inj hsample
    exact ⟨List.one_le_count_iff.mpr (List.mem_eraseDups.mp hother), rfl⟩
  · rintro ⟨hpos, rfl⟩
    exact ⟨outcome, List.mem_eraseDups.mpr (List.one_le_count_iff.mp hpos), rfl⟩

end Tally

end SignedHttp
