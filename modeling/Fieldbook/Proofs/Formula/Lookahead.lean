import Fieldbook.Formula.Scan
import Fieldbook.Proofs.Number.Written

/-!
# One character of lookahead

How far a token goes is settled by its own characters and by the one that follows it.  So what follows
may be exchanged for any text that begins alike, or for one that begins with a blank, or for nothing
(`Token.scanOne_lookahead`): the token stays what it was and ends where it did.

Each kind of token has one lemma for what it is made of, with what stands behind it in plain sight, and
one lemma for the exchange.
-/

namespace Fieldbook

namespace Text

theorem inRanges_eq_false {ranges others : List (Nat × Nat)}
    (h : (ranges.all fun a => others.all fun b => a.2 < b.1 || b.2 < a.1) = true) {c : Char}
    (hc : inRanges ranges c = true) : inRanges others c = false := by
  rw [Bool.eq_false_iff]
  intro hother
  obtain ⟨a, ha, hbounds⟩ := List.any_eq_true.1 hc
  obtain ⟨b, hb, hbounds'⟩ := List.any_eq_true.1 hother
  have hapart := List.all_eq_true.1 (List.all_eq_true.1 h a ha) b hb
  simp only [Bool.and_eq_true, decide_eq_true_eq] at hbounds hbounds'
  simp only [Bool.or_eq_true, decide_eq_true_eq] at hapart
  omega

theorem ne_of_isBlank {c d : Char} (hc : isBlank c = true) (hd : isBlank d = false) : c ≠ d := by
  rintro rfl
  rw [hc] at hd
  cases hd

theorem isDigit_of_isBlank {c : Char} (h : isBlank c = true) : c.isDigit = false := by
  rw [Bool.eq_false_iff]
  intro hdigit
  rw [isBlank_of_isDigit hdigit] at h
  cases h

end Text

namespace Token

/-! ### What may stand next -/

/-- **A text may take the place of another** behind a token: it begins with the same character, or
with a blank, or it is empty. -/
def SameNext (rest other : List Char) : Prop :=
  other.head? = rest.head? ∨ ∀ c ∈ other.head?, Text.isBlank c = true

theorem SameNext.refl (rest : List Char) : SameNext rest rest := .inl rfl

theorem SameNext.of_nil (rest : List Char) : SameNext rest [] := .inr nofun

theorem SameNext.append {rest other : List Char} (h : SameNext rest other) (front : List Char) :
    SameNext (front ++ rest) (front ++ other) := by
  cases front with
  | nil => exact h
  | cons c front => exact .inl rfl

theorem SameNext.stops {rest other : List Char} (h : SameNext rest other) {p : Char → Bool}
    (hblank : ∀ c, Text.isBlank c = true → p c = false)
    (hrest : ∀ c ∈ rest.head?, p c = false) : ∀ c ∈ other.head?, p c = false := by
  intro c hc
  rcases h with hsame | hother
  · rw [hsame] at hc
    exact hrest c hc
  · exact hblank c (hother c hc)

theorem SameNext.ne {rest other : List Char} (h : SameNext rest other) {d : Char}
    (hd : Text.isBlank d = false) (hrest : ∀ c ∈ rest.head?, c ≠ d) : ∀ c ∈ other.head?, c ≠ d := by
  intro c hc
  rcases h with hsame | hother
  · rw [hsame] at hc
    exact hrest c hc
  · exact Text.ne_of_isBlank (hother c hc) hd

/-! ### Numbers -/

theorem isNumberStart_eq_false {c : Char} (hdigit : c.isDigit = false) (hpoint : c ≠ '.')
    (rest : List Char) : isNumberStart c rest = false := by
  simp [isNumberStart, hdigit, hpoint]

theorem isNumberStart_of_isDigit {c : Char} (h : c.isDigit = true) (rest : List Char) :
    isNumberStart c rest = true := by
  simp [isNumberStart, h]

theorem isNumberStart_point (rest : List Char) :
    isNumberStart '.' rest = rest.head?.any Char.isDigit := by
  simp [isNumberStart]

theorem isNumberStart_point_eq_false {rest : List Char}
    (h : ∀ d ∈ rest.head?, d.isDigit = false) : isNumberStart '.' rest = false := by
  rw [isNumberStart_point]
  cases hhead : rest.head? with
  | none => rfl
  | some d => exact h d hhead

theorem isNumberStart_sameNext {c : Char} {rest other : List Char} (hnext : SameNext rest other)
    (h : isNumberStart c rest = false) : isNumberStart c other = false := by
  rw [isNumberStart, Bool.or_eq_false_iff] at h
  obtain ⟨hdigit, hpoint⟩ := h
  by_cases hc : c = '.'
  · subst hc
    have hrest : ∀ d ∈ rest.head?, d.isDigit = false := by
      intro d hd
      rw [hd] at hpoint
      simpa using hpoint
    exact isNumberStart_point_eq_false (hnext.stops (fun _ => Text.isDigit_of_isBlank) hrest)
  · exact isNumberStart_eq_false hdigit hc other

/-- **A number ends alike.**  Its own characters say that it is one, and what it is worth. -/
theorem scanNumber_lookahead {c : Char} {used after other : List Char} {t : Token}
    (hstart : isNumberStart c (used ++ after) = true)
    (h : scanNumber (c :: (used ++ after)) = (t, after)) (hnext : SameNext after other) :
    isNumberStart c (used ++ other) = true ∧ scanNumber (c :: (used ++ other)) = (t, other) := by
  rcases hsplit : splitDigits (c :: (used ++ after)) with ⟨front, back, rest⟩
  rw [scanNumber, hsplit] at h
  obtain ⟨hvalue, rfl⟩ := Prod.mk.inj h
  obtain ⟨hfront, hback, hstop, hform⟩ := eq_of_splitDigits hsplit
  have hother := hnext.stops (fun _ => Text.isDigit_of_isBlank) hstop
  rcases hform with hform | ⟨rfl, hform, hpoint⟩
  · -- The token is all that stands before the rest, so it is the digits and the point.
    have hcancel : (c :: used) ++ rest = (front ++ '.' :: back) ++ rest := by simpa using hform
    have hused : c :: used = front ++ '.' :: back := List.append_cancel_right hcancel
    have hsplit' : splitDigits (c :: (used ++ other)) = (front, back, other) := by
      have hcs : c :: (used ++ other) = front ++ '.' :: (back ++ other) := by
        rw [← List.cons_append, hused]
        simp
      rw [hcs]
      exact splitDigits_point hfront hback hother
    refine ⟨?_, by rw [scanNumber, hsplit', ← hvalue]⟩
    cases front with
    | cons d front =>
      obtain ⟨rfl, -⟩ := List.cons.inj hused
      exact isNumberStart_of_isDigit (hfront c List.mem_cons_self) _
    | nil =>
      obtain ⟨rfl, rfl⟩ := List.cons.inj hused
      -- A point alone is no number, since no digit follows the number.
      cases used with
      | nil =>
        rw [List.nil_append, isNumberStart_point_eq_false hstop] at hstart
        cases hstart
      | cons d used =>
        rw [isNumberStart_point]
        simpa using hback d List.mem_cons_self
  · have hcancel : (c :: used) ++ rest = front ++ rest := hform
    have hused : c :: used = front := List.append_cancel_right hcancel
    have hother' := hnext.ne (by decide) hpoint
    subst hused
    have hsplit' : splitDigits (c :: (used ++ other)) = (c :: used, [], other) :=
      splitDigits_whole hfront hother hother'
    exact ⟨isNumberStart_of_isDigit (hfront c List.mem_cons_self) _,
      by rw [scanNumber, hsplit', ← hvalue]⟩

/-! ### Closing marks -/

theorem scanUntil_mark {mark : Char} {inner : List Char} (hfree : mark ∉ inner)
    (missing : FormulaError) (rest : List Char) :
    scanUntil mark missing (inner ++ mark :: rest) = .ok (String.ofList inner, rest) := by
  have hinner : ∀ c ∈ inner, (c != mark) = true := by
    intro c hc
    exact bne_iff_ne.2 fun h => hfree (h ▸ hc)
  have hmark : ∀ c ∈ (mark :: rest).head?, (c != mark) = false := by
    intro c hc
    obtain rfl : c = mark := by simpa using hc.symm
    exact bne_self_eq_false c
  rw [scanUntil, dropWhile_run hinner hmark, takeWhile_run hinner hmark]

/-- **A text up to a mark** holds none, and the mark follows it. -/
theorem eq_of_scanUntil {mark : Char} {missing : FormulaError} {cs after : List Char} {s : String}
    (h : scanUntil mark missing cs = .ok (s, after)) :
    mark ∉ s.toList ∧ cs = s.toList ++ mark :: after := by
  have hsplit := List.takeWhile_append_dropWhile (p := (· != mark)) (l := cs)
  have hhead := List.head?_dropWhile_not (· != mark) cs
  unfold scanUntil at h
  split at h
  · rename_i m rest hdrop
    cases h
    rw [hdrop] at hsplit hhead
    obtain rfl : m = mark := by simpa using hhead
    rw [String.toList_ofList]
    refine ⟨fun hmem => ?_, hsplit.symm⟩
    have hall := List.all_eq_true.1 List.all_takeWhile m hmem
    simp at hall
  · cases h

theorem scanUntil_eq_error_iff {mark : Char} {missing e : FormulaError} {cs : List Char} :
    scanUntil mark missing cs = .error e ↔ e = missing ∧ mark ∉ cs := by
  constructor
  · intro h
    unfold scanUntil at h
    split at h
    · cases h
    · rename_i hdrop
      cases h
      have hsplit := List.takeWhile_append_dropWhile (p := (· != mark)) (l := cs)
      rw [hdrop, List.append_nil] at hsplit
      refine ⟨rfl, fun hmem => ?_⟩
      rw [← hsplit] at hmem
      have hall := List.all_eq_true.1 List.all_takeWhile mark hmem
      simp at hall
  · rintro ⟨rfl, hfree⟩
    have hcs : ∀ c ∈ cs, (c != mark) = true := by
      intro c hc
      exact bne_iff_ne.2 fun h => hfree (h ▸ hc)
    have hdrop : (cs ++ []).dropWhile (· != mark) = [] := dropWhile_run hcs nofun
    rw [List.append_nil] at hdrop
    rw [scanUntil, hdrop]

theorem scanUntil_lookahead {mark : Char} {missing : FormulaError} {used after : List Char}
    {s : String} (h : scanUntil mark missing (used ++ after) = .ok (s, after))
    (other : List Char) : scanUntil mark missing (used ++ other) = .ok (s, other) := by
  obtain ⟨hfree, hcs⟩ := eq_of_scanUntil h
  have hcancel : used ++ after = (s.toList ++ [mark]) ++ after := by simpa using hcs
  have hused : used = s.toList ++ [mark] := List.append_cancel_right hcancel
  have hmark := scanUntil_mark hfree missing other
  rw [String.ofList_toList] at hmark
  rw [hused, List.append_assoc]
  exact hmark

/-! ### Words -/

theorem isWordChar_of_isWordStart {c : Char} (h : isWordStart c = true) : isWordChar c = true := by
  rw [isWordStart, Bool.or_eq_true] at h
  rw [isWordChar, Text.isAlphanumeric, Bool.or_eq_true, Bool.or_eq_true]
  exact h.imp_left .inl

theorem isWordChar_of_isBlank {c : Char} (h : Text.isBlank c = true) : isWordChar c = false := by
  have halpha : c.isAlpha = false := by
    rw [Bool.eq_false_iff]
    intro halpha
    have hbounds : 65 ≤ c.toNat ∧ c.toNat ≤ 90 ∨ 97 ≤ c.toNat ∧ c.toNat ≤ 122 := by
      have hletter : (decide (65 ≤ c.val ∧ c.val ≤ 90)
        || (decide (97 ≤ c.val) && decide (c.val ≤ 122))) = true := halpha
      simpa [UInt32.le_iff_toNat_le] using hletter
    rw [Text.isBlank_eq_false (by omega) (by omega)] at h
    cases h
  have hdigit := Text.isDigit_of_isBlank h
  have hblank : Text.inRanges Text.blankRanges c = true := h
  have hletters : Text.inRanges Text.alphabeticRanges c = false :=
    Text.inRanges_eq_false (by decide +kernel) hblank
  have hnumbers : Text.inRanges Text.numericRanges c = false :=
    Text.inRanges_eq_false (by decide +kernel) hblank
  have hunderscore : c ≠ '_' := Text.ne_of_isBlank h (by decide)
  simp [isWordChar, Text.isAlphanumeric, Text.isAlphabetic, Text.isNumeric, halpha, hdigit, hletters,
    hnumbers, hunderscore]

/-- **A run ends alike.** -/
theorem run_lookahead {p : Char → Bool} (hblank : ∀ c, Text.isBlank c = true → p c = false)
    {used after other : List Char} (h : (used ++ after).dropWhile p = after)
    (hnext : SameNext after other) :
    (used ++ after).takeWhile p = used ∧ (used ++ other).takeWhile p = used ∧
      (used ++ other).dropWhile p = other := by
  have hused : (used ++ after).takeWhile p = used := by
    have hsplit := List.takeWhile_append_dropWhile (p := p) (l := used ++ after)
    rw [h] at hsplit
    exact List.append_cancel_right hsplit
  have hall : ∀ c ∈ used, p c = true := by
    rw [← hused]
    exact List.all_eq_true.1 List.all_takeWhile
  have hstop : ∀ c ∈ after.head?, p c = false := by
    intro c hc
    have hhead := List.head?_dropWhile_not p (used ++ after)
    rw [h, hc] at hhead
    simpa using hhead
  have hother := hnext.stops hblank hstop
  exact ⟨hused, takeWhile_run hall hother, dropWhile_run hall hother⟩

/-! ### Operators -/

/-- An operator that goes on with an equals sign is another one. -/
def growsWithEquals : Operator → Bool
  | .greaterThan | .lessThan => true
  | _ => false

/-- **The operator at the front of a text** is the longest. -/
theorem split?_eq_some_iff {cs after : List Char} {op : Operator} :
    Operator.split? cs = some (op, after) ↔
      cs = op.symbol.toList ++ after ∧
        (growsWithEquals op = true → ∀ c ∈ after.head?, c ≠ '=') := by
  constructor
  · intro h
    unfold Operator.split? at h
    split at h
    all_goals cases h
    case h_10 rest hlonger =>
      refine ⟨rfl, fun _ => ?_⟩
      rintro c hc rfl
      obtain ⟨tail, rfl⟩ := List.head?_eq_some_iff.1 hc
      exact hlonger tail rfl
    case h_11 rest hlonger =>
      refine ⟨rfl, fun _ => ?_⟩
      rintro c hc rfl
      obtain ⟨tail, rfl⟩ := List.head?_eq_some_iff.1 hc
      exact hlonger tail rfl
    all_goals exact ⟨rfl, nofun⟩
  · rintro ⟨rfl, hnext⟩
    cases op
    case greaterThan =>
      have hequals := hnext rfl
      show Operator.split? ('>' :: after) = _
      unfold Operator.split?
      split <;> simp_all
    case lessThan =>
      have hequals := hnext rfl
      show Operator.split? ('<' :: after) = _
      unfold Operator.split?
      split <;> simp_all
    all_goals rfl

theorem split?_lookahead {c : Char} {used after other : List Char} {op : Operator}
    (h : Operator.split? (c :: (used ++ after)) = some (op, after)) (hnext : SameNext after other) :
    Operator.split? (c :: (used ++ other)) = some (op, other) := by
  obtain ⟨hsymbol, hgrows⟩ := split?_eq_some_iff.1 h
  have hused : c :: used = op.symbol.toList := List.append_cancel_right hsymbol
  rw [← List.cons_append, hused, split?_eq_some_iff]
  exact ⟨rfl, fun hop => hnext.ne (by decide) (hgrows hop)⟩

theorem split?_of_ofMark? {c : Char} {mark : Token} (h : ofMark? c = some mark)
    (rest : List Char) : Operator.split? (c :: rest) = none := by
  unfold ofMark? at h
  split at h
  · rename_i hc
    subst hc
    rfl
  · split at h
    · rename_i hc
      subst hc
      rfl
    · split at h
      · rename_i hc
        subst hc
        rfl
      · cases h

/-! ### One token -/

theorem suffix_of_scanOne {size : Nat} {c : Char} {rest after : List Char} {t : Token}
    (h : scanOne size c rest = .ok (t, after)) : after <:+ rest := by
  unfold scanOne at h
  split at h
  · rename_i hstart
    rcases hsplit : splitDigits (c :: rest) with ⟨front, back, last⟩
    rw [scanNumber, hsplit] at h
    cases h
    obtain ⟨-, -, -, hform⟩ := eq_of_splitDigits hsplit
    have hlonger := length_scanNumber hstart
    rw [scanNumber, hsplit] at hlonger
    -- The rest of the number is the end of the text with its first character, and it is shorter.
    have hsuffix : after <:+ c :: rest := by
      rcases hform with hform | ⟨-, hform, -⟩
      · exact ⟨front ++ '.' :: back, by simp [hform]⟩
      · exact ⟨front, hform.symm⟩
    rcases List.suffix_cons_iff.1 hsuffix with rfl | hsuffix
    · exact absurd hlonger (by simp)
    · exact hsuffix
  · split at h
    · cases hs : scanUntil c .unterminatedString rest with
      | error e => rw [hs] at h; cases h
      | ok r =>
        rw [hs] at h
        cases h
        obtain ⟨-, hrest⟩ := eq_of_scanUntil hs
        exact ⟨r.1.toList ++ [c], by simp [hrest]⟩
    · split at h
      · cases hs : scanUntil '}' .unterminatedFieldRef rest with
        | error e => rw [hs] at h; cases h
        | ok r =>
          rw [hs] at h
          cases h
          obtain ⟨-, hrest⟩ := eq_of_scanUntil hs
          exact ⟨r.1.toList ++ ['}'], by simp [hrest]⟩
      · split at h
        · cases h
          exact List.dropWhile_suffix _
        · split at h
          · rename_i op last hop
            cases h
            obtain ⟨hsymbol, -⟩ := split?_eq_some_iff.1 hop
            have hsuffix : after <:+ c :: rest := ⟨op.symbol.toList, hsymbol.symm⟩
            have hlonger := length_split? hop
            rcases List.suffix_cons_iff.1 hsuffix with rfl | hsuffix
            · exact absurd hlonger (Nat.lt_irrefl _)
            · exact hsuffix
          · split at h
            · cases h
              exact List.suffix_refl _
            · cases h

/-- **One character of lookahead.**  A token stays the same, and ends at the same place, when what
follows it is exchanged for a text that begins alike or with a blank, or for nothing.  Nor does it depend
on the size of the formula. -/
theorem scanOne_lookahead {size : Nat} {c : Char} {used after other : List Char} {t : Token}
    (h : scanOne size c (used ++ after) = .ok (t, after)) (hnext : SameNext after other)
    (size' : Nat) : scanOne size' c (used ++ other) = .ok (t, other) := by
  unfold scanOne at h
  split at h
  · rename_i hstart
    obtain ⟨hstart', hnumber⟩ := scanNumber_lookahead hstart (Except.ok.inj h) hnext
    rw [scanOne, if_pos hstart', hnumber]
  · rename_i hstart
    have hstart' : ¬ isNumberStart c (used ++ other) = true := by
      rw [Bool.not_eq_true] at hstart ⊢
      exact isNumberStart_sameNext (hnext.append used) hstart
    rw [scanOne, if_neg hstart']
    split at h
    · rename_i hquote
      rw [if_pos hquote]
      cases hs : scanUntil c .unterminatedString (used ++ after) with
      | error e => rw [hs] at h; cases h
      | ok r =>
        rw [hs] at h
        cases h
        rw [scanUntil_lookahead hs]
        rfl
    · rename_i hquote
      rw [if_neg hquote]
      split at h
      · rename_i hbrace
        rw [if_pos hbrace]
        cases hs : scanUntil '}' .unterminatedFieldRef (used ++ after) with
        | error e => rw [hs] at h; cases h
        | ok r =>
          rw [hs] at h
          cases h
          rw [scanUntil_lookahead hs]
          rfl
      · rename_i hbrace
        rw [if_neg hbrace]
        split at h
        · rename_i hword
          rw [if_pos hword]
          obtain ⟨rfl, hdrop⟩ := Prod.mk.inj (Except.ok.inj h)
          obtain ⟨htake, htake', hdrop'⟩ :=
            run_lookahead (fun _ => isWordChar_of_isBlank) hdrop hnext
          rw [htake, htake', hdrop']
        · rename_i hword
          rw [if_neg hword]
          split at h
          · rename_i hop
            cases h
            rw [split?_lookahead hop hnext]
          · split at h
            · rename_i mark hmark
              obtain ⟨rfl, hused⟩ := Prod.mk.inj (Except.ok.inj h)
              obtain rfl : used = [] := List.append_left_eq_self.1 hused
              rw [split?_of_ofMark? hmark]
              rfl
            · cases h

end Token

end Fieldbook
