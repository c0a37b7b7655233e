import Fieldbook.Proofs.Formula.Lookahead
import Fieldbook.Proofs.Text.Bytes

/-!
# Scanning a text in parts

`Token.Scans` says of tokens that they stand at the front of a text.  They can be read again before
another rest (`Token.Scans.exists_lexeme`), since a token looks ahead by one character only, and scanning
goes on behind them (`Token.Scans.scanFrom_eq`).  Every scan is of this form: it reads the whole text, or
tokens up to a character at which none begins (`Token.scanFrom_cases`).

So texts with a blank between them are scanned apart (`Token.scan_append_blank`).  Of an error only the
position that it names is another one in the longer text (`FormulaError.shift`).
-/

namespace Fieldbook

/-- An error with the position that it names, if it names one, so many bytes further on. -/
def FormulaError.shift (bytes : Nat) : FormulaError → FormulaError
  | unexpectedCharacter c position => unexpectedCharacter c (bytes + position)
  | e => e

namespace Token

/-! ### Tokens at the front of a text -/

/-- **Tokens stand at the front of a text**, blanks between them, and the rest follows. -/
inductive Scans : List Char → List Token → List Char → Prop
  | done (rest : List Char) : Scans rest [] rest
  | blank {c : Char} {cs rest : List Char} {tokens : List Token} (hblank : Text.isBlank c = true)
      (hrest : Scans cs tokens rest) : Scans (c :: cs) tokens rest
  | token {c : Char} {cs after rest : List Char} {t : Token} {tokens : List Token}
      (hblank : Text.isBlank c = false) (hone : ∀ size, scanOne size c cs = .ok (t, after))
      (hrest : Scans after tokens rest) : Scans (c :: cs) (t :: tokens) rest

namespace Scans

variable {cs rest : List Char} {tokens : List Token}

/-- What has been read may be read again before any text that begins as the rest does, or with a blank,
or that is empty. -/
theorem exists_lexeme (h : Scans cs tokens rest) :
    ∃ lexeme, cs = lexeme ++ rest ∧
      ∀ other, SameNext rest other → Scans (lexeme ++ other) tokens other := by
  induction h with
  | done rest => exact ⟨[], rfl, fun other _ => .done other⟩
  | @blank c cs rest tokens hblank _ ih =>
    obtain ⟨lexeme, rfl, hexchange⟩ := ih
    exact ⟨c :: lexeme, rfl, fun other hnext => .blank hblank (hexchange other hnext)⟩
  | @token c cs after rest t tokens hblank hone _ ih =>
    obtain ⟨lexeme, rfl, hexchange⟩ := ih
    obtain ⟨used, rfl⟩ := suffix_of_scanOne (hone 0)
    refine ⟨c :: (used ++ lexeme), by simp, fun other hnext => ?_⟩
    -- Behind this token stand the others, or the rest itself where it is the last.
    have hone' : ∀ size, scanOne size c (used ++ (lexeme ++ other)) = .ok (t, lexeme ++ other) :=
      fun size => scanOne_lookahead (hone 0) (hnext.append lexeme) size
    rw [List.cons_append, List.append_assoc]
    exact .token hblank hone' (hexchange other hnext)

theorem of_isBlank {blanks : List Char} (hblank : ∀ c ∈ blanks, Text.isBlank c = true)
    (rest : List Char) : Scans (blanks ++ rest) [] rest := by
  induction blanks with
  | nil => exact .done rest
  | cons c blanks ih =>
    exact .blank (hblank c List.mem_cons_self) (ih fun d hd => hblank d (List.mem_cons_of_mem c hd))

theorem append {middle : List Char} {more : List Token} (h : Scans cs tokens middle)
    (h' : Scans middle more rest) : Scans cs (tokens ++ more) rest := by
  induction h with
  | done => exact h'
  | blank hblank _ ih => exact .blank hblank (ih h')
  | token hblank hone _ ih => exact .token hblank hone (ih h')

end Scans

theorem scanFrom_cons_blank (size : Nat) {c : Char} (hblank : Text.isBlank c = true)
    (rest : List Char) : scanFrom size (c :: rest) = scanFrom size rest := by
  rw [scanFrom, if_pos hblank]

theorem scanFrom_cons_ok {size : Nat} {c : Char} {rest after : List Char} {t : Token}
    (hblank : Text.isBlank c = false) (hone : scanOne size c rest = .ok (t, after)) :
    scanFrom size (c :: rest) = (scanFrom size after).map (t :: ·) := by
  rw [scanFrom, hblank, if_neg Bool.false_ne_true]
  split
  · rename_i hfail
    rw [hone] at hfail
    cases hfail
  · rename_i hok
    rw [hone] at hok
    cases hok
    rfl

theorem scanFrom_cons_error {size : Nat} {c : Char} {rest : List Char} {e : FormulaError}
    (hblank : Text.isBlank c = false) (hone : scanOne size c rest = .error e) :
    scanFrom size (c :: rest) = .error e := by
  rw [scanFrom, hblank, if_neg Bool.false_ne_true]
  split
  · rename_i hfail
    rw [hone] at hfail
    cases hfail
    rfl
  · rename_i hok
    rw [hone] at hok
    cases hok

/-- **Scanning goes on behind the tokens at the front.** -/
theorem Scans.scanFrom_eq {cs rest : List Char} {tokens : List Token} (h : Scans cs tokens rest)
    (size : Nat) : scanFrom size cs = (scanFrom size rest).map (tokens ++ ·) := by
  induction h with
  | done rest =>
    cases scanFrom size rest with
    | error e => rfl
    | ok more => rfl
  | blank hblank _ ih => rw [scanFrom_cons_blank size hblank, ih]
  | @token c cs after rest t tokens hblank hone _ ih =>
    rw [scanFrom_cons_ok hblank (hone size), ih]
    cases scanFrom size rest with
    | error e => rfl
    | ok more => rfl

theorem scanOne_of_ok {size : Nat} {c : Char} {rest after : List Char} {t : Token}
    (h : scanOne size c rest = .ok (t, after)) (size' : Nat) :
    scanOne size' c rest = .ok (t, after) := by
  obtain ⟨used, rfl⟩ := suffix_of_scanOne h
  exact scanOne_lookahead h (.refl after) size'

/-- **A scan either reads all of the text or stops at a character**, tokens having been read before
it. -/
theorem scanFrom_cases (size : Nat) (cs : List Char) :
    (∃ tokens, scanFrom size cs = .ok tokens ∧ Scans cs tokens []) ∨
      ∃ tokens c rest e, scanFrom size cs = .error e ∧ Scans cs tokens (c :: rest) ∧
        Text.isBlank c = false ∧ scanOne size c rest = .error e := by
  fun_induction scanFrom size cs with
  | case1 => exact .inl ⟨[], rfl, .done []⟩
  | case2 c rest hblank ih =>
    rcases ih with ⟨tokens, hscan, hread⟩ | ⟨tokens, d, tail, e, hscan, hread, hstop⟩
    · exact .inl ⟨tokens, hscan, .blank hblank hread⟩
    · exact .inr ⟨tokens, d, tail, e, hscan, .blank hblank hread, hstop⟩
  | case3 c rest hblank e hone =>
    rw [Bool.not_eq_true] at hblank
    exact .inr ⟨[], c, rest, e, rfl, .done _, hblank, hone⟩
  | case4 c rest hblank t after hone ih =>
    rw [Bool.not_eq_true] at hblank
    have hone' := scanOne_of_ok hone
    rcases ih with ⟨tokens, hscan, hread⟩ | ⟨tokens, d, tail, e, hscan, hread, hstop⟩
    · refine .inl ⟨t :: tokens, ?_, .token hblank hone' hread⟩
      rw [hscan]
      rfl
    · refine .inr ⟨t :: tokens, d, tail, e, ?_, .token hblank hone' hread, hstop⟩
      rw [hscan]
      rfl

theorem scans_of_scanFrom {size : Nat} {cs : List Char} {tokens : List Token}
    (h : scanFrom size cs = .ok tokens) : Scans cs tokens [] := by
  rcases scanFrom_cases size cs with ⟨read, hscan, hread⟩ | ⟨_, _, _, e, hscan, -⟩
  · rw [h] at hscan
    cases hscan
    exact hread
  · rw [h] at hscan
    cases hscan

/-! ### Where no token begins -/

/-- **Why no token begins at a character**, which stands so many bytes behind the beginning: a quote
that does not occur again, a brace that is not closed, or a character that begins nothing. -/
inductive NoToken (c : Char) (rest : List Char) (position : Nat) : FormulaError → Prop
  | string (hquote : c = '"' ∨ c = '\'') (hfree : c ∉ rest) :
      NoToken c rest position .unterminatedString
  | field (hbrace : c = '{') (hfree : '}' ∉ rest) : NoToken c rest position .unterminatedFieldRef
  | character (hnumber : isNumberStart c rest = false) (hquote : ¬ (c = '"' ∨ c = '\''))
      (hbrace : c ≠ '{') (hword : isWordStart c = false)
      (hoperator : Operator.split? (c :: rest) = none) (hmark : ofMark? c = none) :
      NoToken c rest position (.unexpectedCharacter c position)

theorem noToken_of_scanOne {size : Nat} {c : Char} {rest : List Char} {e : FormulaError}
    (h : scanOne size c rest = .error e) :
    NoToken c rest (size - Text.byteLength (c :: rest)) e := by
  unfold scanOne at h
  split at h
  · cases h
  · rename_i hnumber
    split at h
    · rename_i hquote
      cases hs : scanUntil c .unterminatedString rest with
      | error e' =>
        rw [hs] at h
        cases h
        obtain ⟨rfl, hfree⟩ := scanUntil_eq_error_iff.1 hs
        exact .string hquote hfree
      | ok r => rw [hs] at h; cases h
    · rename_i hquote
      split at h
      · rename_i hbrace
        cases hs : scanUntil '}' .unterminatedFieldRef rest with
        | error e' =>
          rw [hs] at h
          cases h
          obtain ⟨rfl, hfree⟩ := scanUntil_eq_error_iff.1 hs
          exact .field hbrace hfree
        | ok r => rw [hs] at h; cases h
      · rename_i hbrace
        split at h
        · cases h
        · rename_i hword
          split at h
          · cases h
          · rename_i hoperator
            split at h
            · cases h
            · rename_i hmark
              cases h
              exact .character (eq_false_of_ne_true hnumber) hquote hbrace
                (eq_false_of_ne_true hword) hoperator hmark

theorem scanOne_of_noToken {size : Nat} {c : Char} {rest : List Char} {e : FormulaError}
    (h : NoToken c rest (size - Text.byteLength (c :: rest)) e) :
    scanOne size c rest = .error e := by
  cases h with
  | string hquote hfree =>
    have hkind : c.isDigit = false ∧ c ≠ '.' := by
      rcases hquote with rfl | rfl <;> decide
    rw [scanOne, isNumberStart_eq_false hkind.1 hkind.2, if_neg Bool.false_ne_true, if_pos hquote,
      scanUntil_eq_error_iff.2 ⟨rfl, hfree⟩]
    rfl
  | field hbrace hfree =>
    subst hbrace
    rw [scanOne, isNumberStart_eq_false rfl (by decide), if_neg Bool.false_ne_true,
      if_neg (by decide), if_pos rfl, scanUntil_eq_error_iff.2 ⟨rfl, hfree⟩]
    rfl
  | character hnumber hquote hbrace hword hoperator hmark =>
    rw [scanOne, hnumber, if_neg Bool.false_ne_true, if_neg hquote, if_neg hbrace, hword,
      if_neg Bool.false_ne_true, hoperator, hmark]

theorem NoToken.shift {c : Char} {rest : List Char} {position : Nat} {e : FormulaError}
    (h : NoToken c rest position e) (bytes : Nat) :
    NoToken c rest (bytes + position) (e.shift bytes) := by
  cases h with
  | string hquote hfree => exact .string hquote hfree
  | field hbrace hfree => exact .field hbrace hfree
  | character hnumber hquote hbrace hword hoperator hmark =>
    exact .character hnumber hquote hbrace hword hoperator hmark

/-- In a longer formula the same character begins no token, further on. -/
theorem scanOne_shift {size : Nat} {c : Char} {rest : List Char} {e : FormulaError}
    (h : scanOne size c rest = .error e) (hsize : Text.byteLength (c :: rest) ≤ size)
    (bytes : Nat) : scanOne (bytes + size) c rest = .error (e.shift bytes) := by
  apply scanOne_of_noToken
  rw [Nat.add_sub_assoc hsize]
  exact (noToken_of_scanOne h).shift bytes

/-! ### Scanning apart -/

/-- **The end of a formula in a longer one.** -/
theorem scanFrom_shift {size : Nat} {cs : List Char} (hsize : Text.byteLength cs ≤ size)
    (bytes : Nat) :
    scanFrom (bytes + size) cs = (scanFrom size cs).mapError (FormulaError.shift bytes) := by
  rcases scanFrom_cases size cs with ⟨tokens, hscan, hread⟩ |
    ⟨tokens, c, rest, e, hscan, hread, hblank, hone⟩
  · rw [hscan, hread.scanFrom_eq, scanFrom]
    show Except.ok (tokens ++ []) = .ok tokens
    rw [List.append_nil]
  · obtain ⟨lexeme, rfl, -⟩ := hread.exists_lexeme
    have hrest : Text.byteLength (c :: rest) ≤ size := by
      rw [Text.byteLength_append] at hsize
      omega
    rw [hscan, hread.scanFrom_eq, scanFrom_cons_error hblank (scanOne_shift hone hrest bytes)]
    rfl

/-- **Texts with blanks between them are scanned apart.**  Behind a text that has tokens, and at least
one blank, another text has the tokens that it has alone, or fails as it does alone. -/
theorem scan_append_blank {first blanks : String} {tokens : List Token}
    (hfirst : scan first = .ok tokens) (hne : blanks ≠ "")
    (hblank : ∀ c ∈ blanks.toList, Text.isBlank c = true) (second : String) :
    (∀ more, scan second = .ok more →
        scan (first ++ blanks ++ second) = .ok (tokens ++ more)) ∧
      ∀ e, scan second = .error e →
        scan (first ++ blanks ++ second) = .error (e.shift (first ++ blanks).utf8ByteSize) := by
  have hread : Scans first.toList tokens [] := scans_of_scanFrom hfirst
  obtain ⟨lexeme, hlexeme, hexchange⟩ := hread.exists_lexeme
  rw [List.append_nil] at hlexeme
  subst hlexeme
  have hnext : SameNext [] (blanks.toList ++ second.toList) := by
    obtain ⟨c, rest, hchars⟩ := List.exists_cons_of_ne_nil (mt String.toList_eq_nil_iff.1 hne)
    rw [hchars]
    refine .inr fun d hd => ?_
    obtain rfl : c = d := by simpa using hd
    exact hblank c (by simp [hchars])
  have hfront : Scans (first ++ blanks ++ second).toList (tokens ++ []) second.toList := by
    rw [String.toList_append, String.toList_append, List.append_assoc]
    exact (hexchange _ hnext).append (.of_isBlank hblank _)
  rw [List.append_nil] at hfront
  have hscan : scan (first ++ blanks ++ second)
      = ((scan second).mapError (FormulaError.shift (first ++ blanks).utf8ByteSize)).map
          (tokens ++ ·) := by
    have hbytes : Text.byteLength (first ++ blanks ++ second).toList
        = (first ++ blanks).utf8ByteSize + Text.byteLength second.toList := by
      rw [String.toList_append, Text.byteLength_append, Text.byteLength_toList]
    show scanFrom _ _ = _
    rw [hfront.scanFrom_eq, hbytes, scanFrom_shift (Nat.le_refl _)]
    rfl
  refine ⟨fun more hsecond => ?_, fun e hsecond => ?_⟩
  · rw [hscan, hsecond]
    rfl
  · rw [hscan, hsecond]
    rfl

set_option maxRecDepth 20000 in
/-- An em space behind `é >` leaves `5` what it is.  An equals sign there is no part of `>=`, and stands
seven bytes further on than alone. -/
theorem scan_append_blank_em_space :
    scan "é >" = .ok [text "é", operator .greaterThan] ∧
      (∀ c ∈ "\u2003".toList, Text.isBlank c = true) ∧
      scan ("é >" ++ "\u2003" ++ "5")
        = .ok ([text "é", operator .greaterThan] ++ [number (.signed false (.ofDigits ['5'] [] 0))]) ∧
      scan ("é >" ++ "\u2003" ++ "= 5") = .error (.unexpectedCharacter '=' 7) := by
  have hfirst : scan "é >" = .ok [text "é", operator .greaterThan] := by with_unfolding_all rfl
  have hblank : ∀ c ∈ "\u2003".toList, Text.isBlank c = true := by
    intro c hc
    obtain rfl : c = '\u2003' := by simpa using hc
    decide
  have hfive : scan "5" = .ok [number (.signed false (.ofDigits ['5'] [] 0))] := by
    with_unfolding_all rfl
  have hequals : scan "= 5" = .error (.unexpectedCharacter '=' 0) := by with_unfolding_all rfl
  have hok := (scan_append_blank hfirst (by decide) hblank "5").1 _ hfive
  have herror := (scan_append_blank hfirst (by decide) hblank "= 5").2 _ hequals
  exact ⟨hfirst, hblank, hok, herror⟩

end Token

end Fieldbook
