import Fieldbook.Text.Order
import Mathlib.Data.List.Infix

/-!
# The lower case of a part of a text

Every character but one is put into lower case by itself.  The capital sigma looks at what stands around
it, and so a part of a text may be put into lower case in another way than the part alone: `Σ` alone is
`σ`, and at the end of a word it is `ς`.  `lowerBetween` is the lower case of a part where it stands.
It is the lower case of the part alone exactly if every capital sigma ends a word in both or in neither
(`lowerBetween_eq_lower_iff`); so it is where the part has no capital sigma, and where no letter stands
next to the part (`sigmasAlike_of_notMem`, `sigmasAlike_of_apart`).

Folding looks at one character at a time, and folds every part as it folds the part alone
(`fold_infix_fold`).
-/

namespace Fieldbook.Text

/-! ### Parts -/

theorem occursIn_iff_infix (needle text : List Char) :
    occursIn needle text = true ↔ needle <:+: text := by
  induction text with
  | nil => rw [occursIn, List.isEmpty_iff, List.infix_nil]
  | cons c rest ih =>
    rw [occursIn, Bool.or_eq_true, List.isPrefixOf_iff_prefix, ih, List.infix_cons_iff]

/-- **The lower case of a part of a text**, between the text in front of it, given backwards, and the
text behind it. -/
def lowerBetween (before : List Char) : List Char → List Char → List Char
  | [], _ => []
  | c :: part, after =>
    (if c = 'Σ' then (if endsWord before (part ++ after) then ['ς'] else ['σ']) else lowerChar c)
      ++ lowerBetween (c :: before) part after

/-- **A text is put into lower case part by part**, each where it stands. -/
theorem lowerAfter_append (before part after : List Char) :
    lowerAfter before (part ++ after)
      = lowerBetween before part after ++ lowerAfter (part.reverse ++ before) after := by
  induction part generalizing before with
  | nil => rfl
  | cons c part ih =>
    rw [List.cons_append, lowerAfter, lowerBetween, ih, List.append_assoc, List.reverse_cons,
      List.append_assoc, List.singleton_append]

theorem lowerAfter_eq_lowerBetween (before part : List Char) :
    lowerAfter before part = lowerBetween before part [] := by
  have hwhole := lowerAfter_append before part []
  rwa [List.append_nil, lowerAfter, List.append_nil] at hwhole

theorem lowerBetween_infix_lower (front part back : List Char) :
    lowerBetween front.reverse part back <:+: lower (front ++ part ++ back) := by
  rw [lower, List.append_assoc, lowerAfter_append, List.append_nil, lowerAfter_append,
    ← List.append_assoc]
  exact List.infix_append _ _ _

/-! ### Sigmas -/

/-- **Sigmas alike**: every capital sigma of the part ends a word of the text around it if it ends a word
of the part alone, and only then. -/
def SigmasAlike (front part back : List Char) : Prop :=
  ∀ u v, part = u ++ 'Σ' :: v →
    endsWord (u.reverse ++ front.reverse) (v ++ back) = endsWord u.reverse v

theorem lowerBetween_cons_eq_iff (c : Char) (part before before' after after' : List Char) :
    lowerBetween before (c :: part) after = lowerBetween before' (c :: part) after'
      ↔ (c = 'Σ' → endsWord before (part ++ after) = endsWord before' (part ++ after'))
        ∧ lowerBetween (c :: before) part after = lowerBetween (c :: before') part after' := by
  rw [lowerBetween, lowerBetween]
  by_cases hc : c = 'Σ'
  · simp only [hc, if_true, forall_const]
    cases endsWord before (part ++ after) <;> cases endsWord before' (part ++ after') <;> simp
  · simp only [hc, if_false, List.append_cancel_left_eq, false_implies, true_and]

/-- **What stands around a part shows in its sigmas only.** -/
theorem lowerBetween_eq_iff {part : List Char} {before before' after after' : List Char} :
    lowerBetween before part after = lowerBetween before' part after'
      ↔ ∀ u v, part = u ++ 'Σ' :: v →
        endsWord (u.reverse ++ before) (v ++ after) = endsWord (u.reverse ++ before') (v ++ after') := by
  induction part generalizing before before' with
  | nil => simp [lowerBetween]
  | cons c part ih =>
    rw [lowerBetween_cons_eq_iff, ih]
    constructor
    · rintro ⟨hfirst, hrest⟩ u v hpart
      cases u with
      | nil =>
        obtain ⟨rfl, rfl⟩ := List.cons.inj hpart
        exact hfirst rfl
      | cons c' u =>
        obtain ⟨rfl, rfl⟩ := List.cons.inj hpart
        rw [List.reverse_cons, List.append_assoc, List.append_assoc]
        exact hrest u v rfl
    · intro h
      refine ⟨fun hc => h [] part (by rw [hc, List.nil_append]), fun u v hpart => ?_⟩
      have hlonger := h (c :: u) v (by rw [hpart, List.cons_append])
      rwa [List.reverse_cons, List.append_assoc, List.append_assoc] at hlonger

/-- **A part is put into lower case as it would be alone exactly if its sigmas are alike.** -/
theorem lowerBetween_eq_lower_iff {front part back : List Char} :
    lowerBetween front.reverse part back = lower part ↔ SigmasAlike front part back := by
  rw [lower, lowerAfter_eq_lowerBetween, lowerBetween_eq_iff]
  simp only [List.append_nil]
  rfl

theorem lower_infix_lower {front part back : List Char} (h : SigmasAlike front part back) :
    lower part <:+: lower (front ++ part ++ back) := by
  rw [← lowerBetween_eq_lower_iff.2 h]
  exact lowerBetween_infix_lower front part back

theorem sigmasAlike_of_notMem {part : List Char} (h : 'Σ' ∉ part) (front back : List Char) :
    SigmasAlike front part back := by
  rintro u v rfl
  exact absurd (List.mem_append_right u List.mem_cons_self) h

theorem casedNext_append {cs rest : List Char} (h : casedNext rest = false) :
    casedNext (cs ++ rest) = casedNext cs := by
  cases hcs : cs.dropWhile (inRanges caseIgnorableRanges) with
  | nil =>
    have hdrop : (cs ++ rest).dropWhile (inRanges caseIgnorableRanges)
        = rest.dropWhile (inRanges caseIgnorableRanges) := by
      rw [List.dropWhile_append, hcs]
      rfl
    have hnone : casedNext cs = false := by
      rw [casedNext, hcs]
    rw [hnone, casedNext, hdrop]
    exact h
  | cons c stop =>
    have hdrop : (cs ++ rest).dropWhile (inRanges caseIgnorableRanges) = c :: (stop ++ rest) := by
      rw [List.dropWhile_append, hcs]
      rfl
    rw [casedNext, casedNext, hdrop, hcs]

/-- **Whole words**: no letter stands next to the part on either side. -/
theorem sigmasAlike_of_apart {front back : List Char} (hfront : casedNext front.reverse = false)
    (hback : casedNext back = false) (part : List Char) : SigmasAlike front part back := by
  intro u v _
  rw [endsWord, endsWord, casedNext_append hfront, casedNext_append hback]

/-! ### Folding -/

/-- **Folding folds every part as it folds the part alone.** -/
theorem fold_infix_fold {part text : List Char} (h : part <:+: text) : fold part <:+: fold text := by
  obtain ⟨front, back, rfl⟩ := h
  unfold fold
  rw [List.flatMap_append, List.flatMap_append]
  exact List.infix_append _ _ _

end Fieldbook.Text
