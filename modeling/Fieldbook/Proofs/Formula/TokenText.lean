import Mathlib.Data.List.Forall2
import Fieldbook.Proofs.Formula.ScanParts
import Fieldbook.Proofs.Number.Written

/-!
# Tokens written and scanned again

Tokens that were scanned can be written down again: each as it is shown, a text between two quotes that
do not stand in it, and a space between any two.  The result is scanned as the same tokens
(`Token.scan_written`), whatever the formula was that they came from.

Two facts carry this.  What the scanner gives out is never beyond writing (`Token.writable_scanFrom`): a
text that was quoted holds no quote of its kind, and a bare word holds none at all.  And what is written
for one token is scanned as that token where a space or nothing follows (`Token.scansTo_of_written`),
since then no token can go on.
-/

namespace Fieldbook

namespace Token

/-- **How a token is written**: a text between two quotes that do not stand in it, anything else as it
is shown. -/
inductive Written : Token → String → Prop where
  | quoted {s : String} {quote : Char} (hquote : quote = '"' ∨ quote = '\'')
      (hfree : quote ∉ s.toList) :
      Written (text s) (String.singleton quote ++ s ++ String.singleton quote)
  | shown {t : Token} (htext : ∀ s, t ≠ text s) : Written t t.display

/-! ### What is written is scanned -/

/-- Nothing follows, or a space. -/
def AtGap (rest : List Char) : Prop := ∀ c ∈ rest.head?, c = ' '

/-- **What is scanned as one token where a gap follows.** -/
def ScansTo (t : Token) (lexeme : List Char) : Prop :=
  ∃ c cs, lexeme = c :: cs ∧ Text.isBlank c = false ∧
    ∀ size rest, AtGap rest → scanOne size c (cs ++ rest) = .ok (t, rest)

theorem atGap_nil : AtGap [] := fun _ hc => by cases hc

theorem atGap_space (rest : List Char) : AtGap (' ' :: rest) := fun _ hc => (Option.some.inj hc).symm

theorem AtGap.stops {rest : List Char} (h : AtGap rest) {p : Char → Bool} (hspace : p ' ' = false) :
    ∀ c ∈ rest.head?, p c = false := by
  intro c hc
  rw [h c hc]
  exact hspace

theorem scansTo_number {m : Magnitude} (hfinite : m.isFinite = true) :
    ScansTo (number (.signed false m)) (Number.signed false m).chars := by
  obtain ⟨front, back, hchars, hreads⟩ := Magnitude.exists_reads hfinite
  obtain ⟨c, front, rfl⟩ := List.exists_cons_of_ne_nil hreads.front_ne_nil
  have hdigit : c.isDigit = true := hreads.isDigit_front c List.mem_cons_self
  refine ⟨c, pointed front back, hchars, Text.isBlank_of_isDigit hdigit, fun size rest hrest => ?_⟩
  have hsplit : splitDigits (c :: (pointed front back ++ rest)) = (c :: front, back, rest) := by
    refine splitDigits_pointed hreads.isDigit_front hreads.isDigit_back fun c hc => ?_
    rw [hrest c hc]
    exact ⟨rfl, by decide⟩
  have hstart : isNumberStart c (pointed front back ++ rest) = true := by
    rw [isNumberStart, hdigit]
    rfl
  rw [scanOne, if_pos hstart, scanNumber, hsplit]
  show Except.ok (number (.signed false (.ofDigits (c :: front) back 0)), rest) = _
  rw [hreads.ofDigits_eq]

theorem scansTo_quoted {s : String} {quote : Char} (hquote : quote = '"' ∨ quote = '\'')
    (hfree : quote ∉ s.toList) : ScansTo (text s) (quote :: (s.toList ++ [quote])) := by
  have hkind : Text.isBlank quote = false ∧ quote.isDigit = false ∧ quote ≠ '.' := by
    rcases hquote with rfl | rfl <;> decide
  refine ⟨quote, _, rfl, hkind.1, fun size rest _ => ?_⟩
  rw [scanOne, isNumberStart_eq_false hkind.2.1 hkind.2.2, if_neg Bool.false_ne_true, if_pos hquote,
    List.append_assoc, List.singleton_append, scanUntil_mark hfree, String.ofList_toList]
  rfl

theorem scansTo_field {name : String} (hfree : '}' ∉ name.toList) :
    ScansTo (field name) ('{' :: (name.toList ++ ['}'])) := by
  refine ⟨'{', _, rfl, by decide, fun size rest _ => ?_⟩
  rw [scanOne, isNumberStart_eq_false rfl (by decide), if_neg Bool.false_ne_true,
    if_neg (by decide), if_pos rfl, List.append_assoc, List.singleton_append, scanUntil_mark hfree,
    String.ofList_toList]
  rfl

/-! Words of ASCII letters: truth values and functions. -/

theorem isWordChar_of_isAlpha {c : Char} (h : c.isAlpha = true) : isWordChar c = true := by
  simp [isWordChar, Text.isAlphanumeric, Text.isAlphabetic, h]

theorem isWordStart_of_isAlpha {c : Char} (h : c.isAlpha = true) : isWordStart c = true := by
  simp [isWordStart, Text.isAlphabetic, h]

theorem notStart_of_isAlpha {c : Char} (h : c.isAlpha = true) :
    Text.isBlank c = false ∧ c.isDigit = false ∧ c ≠ '.' ∧ ¬ (c = '"' ∨ c = '\'') ∧ c ≠ '{' := by
  have hbounds : 65 ≤ c.toNat ∧ c.toNat ≤ 90 ∨ 97 ≤ c.toNat ∧ c.toNat ≤ 122 := by
    have hletter : (decide (65 ≤ c.val ∧ c.val ≤ 90)
      || (decide (97 ≤ c.val) && decide (c.val ≤ 122))) = true := h
    simpa [UInt32.le_iff_toNat_le] using hletter
  have hother : ∀ d : Char, d.isAlpha = false → c ≠ d := by
    rintro d hd rfl
    rw [h] at hd
    cases hd
  refine ⟨Text.isBlank_eq_false (by omega) (by omega), ?_, hother _ rfl, ?_, hother _ rfl⟩
  · rw [Bool.eq_false_iff]
    intro hdigit
    simp [Char.isDigit, UInt32.le_iff_toNat_le] at hdigit
    omega
  · rintro (hquote | hquote)
    · exact hother _ rfl hquote
    · exact hother _ rfl hquote

theorem scansTo_word {word : List Char} (hne : word ≠ []) (hword : ∀ c ∈ word, c.isAlpha = true) :
    ScansTo (ofWord word) word := by
  obtain ⟨c, cs, rfl⟩ := List.exists_cons_of_ne_nil hne
  have hfirst := hword c List.mem_cons_self
  obtain ⟨hblank, hdigit, hpoint, hquote, hbrace⟩ := notStart_of_isAlpha hfirst
  refine ⟨c, cs, rfl, hblank, fun size rest hrest => ?_⟩
  have hcs : ∀ c ∈ cs, isWordChar c = true := fun c hc =>
    isWordChar_of_isAlpha (hword c (List.mem_cons_of_mem _ hc))
  have hstop := hrest.stops (p := isWordChar) (by decide +kernel)
  rw [scanOne, isNumberStart_eq_false hdigit hpoint, if_neg Bool.false_ne_true, if_neg hquote,
    if_neg hbrace, if_pos (isWordStart_of_isAlpha hfirst), takeWhile_run hcs hstop,
    dropWhile_run hcs hstop]

theorem scansTo_bool (b : Bool) : ScansTo (bool b) (bool b).display.toList := by
  have hword : ofWord (bool b).display.toList = bool b := by cases b <;> rfl
  have hscan : ScansTo (ofWord (bool b).display.toList) (bool b).display.toList :=
    scansTo_word (by cases b <;> decide) (List.all_eq_true.1 (by cases b <;> decide))
  rwa [hword] at hscan

theorem scansTo_function (f : Builtin) : ScansTo (function f) f.name.toList := by
  have hword : ofWord f.name.toList = function f := by cases f <;> rfl
  have hscan : ScansTo (ofWord f.name.toList) f.name.toList :=
    scansTo_word (by cases f <;> decide) (List.all_eq_true.1 (by cases f <;> decide))
  rwa [hword] at hscan

/-! Operators and marks. -/

def symbolChars : List Char := "+-*/%<>=!(),".toList

theorem notStart_of_mem_symbolChars : ∀ c ∈ symbolChars,
    Text.isBlank c = false ∧ c.isDigit = false ∧ c ≠ '.' ∧ ¬ (c = '"' ∨ c = '\'') ∧ c ≠ '{' ∧
      isWordStart c = false := by
  have hall : symbolChars.all (fun c => !Text.isBlank c && !c.isDigit && c != '.' &&
      (c != '"' && c != '\'') && c != '{' && !isWordStart c) = true := by decide +kernel
  intro c hc
  simpa [and_assoc] using List.all_eq_true.1 hall c hc

theorem scanOne_symbol {c : Char} (h : c ∈ symbolChars) (size : Nat) (rest : List Char) :
    scanOne size c rest = match Operator.split? (c :: rest) with
      | some (op, rest) => .ok (operator op, rest)
      | none =>
        match ofMark? c with
        | some mark => .ok (mark, rest)
        | none => .error (.unexpectedCharacter c (size - Text.byteLength (c :: rest))) := by
  obtain ⟨-, hdigit, hpoint, hquote, hbrace, hstart⟩ := notStart_of_mem_symbolChars c h
  have hnumber : ¬ isNumberStart c rest = true := by simp [isNumberStart_eq_false hdigit hpoint]
  have hword : ¬ isWordStart c = true := by simp [hstart]
  unfold scanOne
  exact (if_neg hnumber).trans ((if_neg hquote).trans ((if_neg hbrace).trans (if_neg hword)))

/-- An operator is split off where a gap follows, since no operator goes on with a space. -/
theorem split?_symbol (op : Operator) : ∃ c cs, op.symbol.toList = c :: cs ∧ c ∈ symbolChars ∧
    ∀ rest, AtGap rest → Operator.split? (c :: (cs ++ rest)) = some (op, rest) := by
  cases op
  all_goals
    refine ⟨_, _, rfl, by decide, fun rest hrest => ?_⟩
    cases rest with
    | nil => rfl
    | cons c rest =>
      obtain rfl := hrest c rfl
      rfl

theorem scansTo_operator (op : Operator) : ScansTo (operator op) op.symbol.toList := by
  obtain ⟨c, cs, hsymbol, hc, hsplit⟩ := split?_symbol op
  refine ⟨c, cs, hsymbol, (notStart_of_mem_symbolChars c hc).1, fun size rest hrest => ?_⟩
  rw [scanOne_symbol hc, hsplit rest hrest]

theorem scansTo_mark {c : Char} {mark : Token} (hc : c ∈ symbolChars) (hmark : ofMark? c = some mark)
    (hsplit : ∀ rest, Operator.split? (c :: rest) = none) : ScansTo mark [c] := by
  refine ⟨c, [], rfl, (notStart_of_mem_symbolChars c hc).1, fun size rest _ => ?_⟩
  rw [scanOne_symbol hc, hsplit, hmark]
  rfl

/-! ### What is scanned can be written -/

/-- **What the scanner gives out**: a number without sign, a text that leaves a kind of quotes free,
a name without a closing brace. -/
def Writable : Token → Prop
  | number n => ∃ m, n = .signed false m
  | text s => '"' ∉ s.toList ∨ '\'' ∉ s.toList
  | field name => '}' ∉ name.toList
  | _ => True

theorem writable_ofWord {word : List Char} (hword : ∀ c ∈ word, isWordChar c = true) :
    Writable (ofWord word) := by
  unfold ofWord
  dsimp only
  split
  · trivial
  · split
    · trivial
    · split
      · trivial
      · refine .inl fun hmem => ?_
        rw [String.toList_ofList] at hmem
        have := hword _ hmem
        exact absurd this (by decide +kernel)

theorem writable_of_ofMark? {c : Char} {mark : Token} (h : ofMark? c = some mark) :
    Writable mark := by
  unfold ofMark? at h
  split at h
  · cases h
    trivial
  · split at h
    · cases h
      trivial
    · split at h
      · cases h
        trivial
      · cases h

theorem writable_scanOne {size : Nat} {c : Char} {rest after : List Char} {t : Token}
    (h : scanOne size c rest = .ok (t, after)) : Writable t := by
  unfold scanOne at h
  split at h
  · cases h
    exact ⟨_, rfl⟩
  · split at h
    · rename_i hquote
      cases hs : scanUntil c .unterminatedString rest with
      | error e => rw [hs] at h; cases h
      | ok r =>
        rw [hs] at h
        cases h
        have hfree := (eq_of_scanUntil hs).1
        rcases hquote with rfl | rfl
        · exact .inl hfree
        · exact .inr hfree
    · split at h
      · cases hs : scanUntil '}' .unterminatedFieldRef rest with
        | error e => rw [hs] at h; cases h
        | ok r =>
          rw [hs] at h
          cases h
          have hfree := (eq_of_scanUntil hs).1
          exact hfree
      · split at h
        · rename_i hstart
          cases h
          refine writable_ofWord fun d hd => ?_
          rcases List.mem_cons.1 hd with rfl | hd
          · exact isWordChar_of_isWordStart hstart
          · exact List.all_eq_true.1 List.all_takeWhile d hd
        · split at h
          · cases h
            trivial
          · split at h
            · rename_i mark hmark
              cases h
              exact writable_of_ofMark? hmark
            · cases h

theorem writable_scanFrom {size : Nat} {cs : List Char} {tokens : List Token}
    (h : scanFrom size cs = .ok tokens) : ∀ t ∈ tokens, Writable t := by
  fun_induction scanFrom size cs generalizing tokens with
  | case1 => cases h; intro t ht; cases ht
  | case2 c rest hblank ih => exact ih h
  | case3 => cases h
  | case4 c rest hblank t after hone ih =>
    cases hrest : scanFrom size after with
    | error e => rw [hrest] at h; cases h
    | ok later =>
      rw [hrest] at h
      cases h
      intro u hu
      rcases List.mem_cons.1 hu with rfl | hu
      · exact writable_scanOne hone
      · exact ih hrest u hu

/-! ### The tokens of a formula -/

theorem exists_written {t : Token} (h : Writable t) : ∃ lexeme, Written t lexeme := by
  cases t with
  | text s =>
    rcases h with hfree | hfree
    · exact ⟨_, .quoted (.inl rfl) hfree⟩
    · exact ⟨_, .quoted (.inr rfl) hfree⟩
  | _ => exact ⟨_, .shown fun _ => Token.noConfusion⟩

theorem exists_forall₂_written {tokens : List Token} (h : ∀ t ∈ tokens, Writable t) :
    ∃ lexemes, List.Forall₂ Written tokens lexemes := by
  induction tokens with
  | nil => exact ⟨[], .nil⟩
  | cons t tokens ih =>
    obtain ⟨lexeme, hlexeme⟩ := exists_written (h t List.mem_cons_self)
    obtain ⟨lexemes, hlexemes⟩ := ih fun u hu => h u (List.mem_cons_of_mem _ hu)
    exact ⟨lexeme :: lexemes, .cons hlexeme hlexemes⟩

/-- **A written token is scanned as that token.** -/
theorem scansTo_of_written {t : Token} {lexeme : String} (h : Written t lexeme) (ht : Writable t)
    (hfinite : ∀ n, t = number n → n.isFinite = true) : ScansTo t lexeme.toList := by
  cases h with
  | @quoted s quote hquote hfree =>
    have hchars : (String.singleton quote ++ s ++ String.singleton quote).toList
        = quote :: (s.toList ++ [quote]) := by
      simp
    rw [hchars]
    exact scansTo_quoted hquote hfree
  | shown htext =>
    cases t with
    | number n =>
      obtain ⟨m, rfl⟩ := ht
      show ScansTo _ (String.ofList (Number.signed false m).chars).toList
      rw [String.toList_ofList]
      exact scansTo_number (hfinite _ rfl)
    | text s => exact absurd rfl (htext s)
    | bool b => exact scansTo_bool b
    | field name =>
      have hchars : (field name).display.toList = '{' :: (name.toList ++ ['}']) := by
        simp [display]
      rw [hchars]
      exact scansTo_field ht
    | operator op => exact scansTo_operator op
    | openParen => exact scansTo_mark (by decide) rfl fun _ => rfl
    | closeParen => exact scansTo_mark (by decide) rfl fun _ => rfl
    | comma => exact scansTo_mark (by decide) rfl fun _ => rfl
    | function f => exact scansTo_function f

theorem forall₂_scansTo {tokens : List Token} {lexemes : List String}
    (h : List.Forall₂ Written tokens lexemes)
    (hscans : ∀ t ∈ tokens, ∀ lexeme, Written t lexeme → ScansTo t lexeme.toList) :
    List.Forall₂ ScansTo tokens (lexemes.map String.toList) := by
  induction h with
  | nil => exact .nil
  | cons hfirst _ ih =>
    refine .cons (hscans _ List.mem_cons_self _ hfirst) (ih fun t ht => ?_)
    exact hscans t (List.mem_cons_of_mem _ ht)

theorem scanFrom_of_scansTo {t : Token} {lexeme rest : List Char} (h : ScansTo t lexeme) (size : Nat)
    (hrest : AtGap rest) : scanFrom size (lexeme ++ rest) = (scanFrom size rest).map (t :: ·) := by
  obtain ⟨c, cs, rfl, hblank, hone⟩ := h
  exact scanFrom_cons_ok hblank (hone size rest hrest)

theorem scanFrom_intercalate {tokens : List Token} {lexemes : List (List Char)} (size : Nat)
    (h : List.Forall₂ ScansTo tokens lexemes) :
    scanFrom size ([' '].intercalate lexemes) = .ok tokens := by
  induction h with
  | nil => rw [List.intercalate_nil, scanFrom]
  | @cons t lexeme tokens lexemes hfirst hrest ih =>
    cases hrest with
    | nil =>
      have hscan := scanFrom_of_scansTo hfirst size atGap_nil
      rw [List.append_nil, scanFrom] at hscan
      rw [List.intercalate_singleton, hscan]
      rfl
    | cons hsecond hrest =>
      rw [List.intercalate_cons_cons, List.append_assoc, List.singleton_append,
        scanFrom_of_scansTo hfirst size (atGap_space _),
        scanFrom_cons_blank size (by decide), ih]
      rfl

/-- **Written tokens are scanned as they were.**  Tokens that a formula was scanned as, none of them an
infinite number, can be written; however their texts are quoted, the text with a space between any two
has the same tokens, and what is written for one of them is that one token alone. -/
theorem scan_written {expression : String} {tokens : List Token}
    (h : scan expression = .ok tokens) (hfinite : ∀ n, number n ∈ tokens → n.isFinite = true) :
    (∃ lexemes, List.Forall₂ Written tokens lexemes) ∧
      (∀ lexemes, List.Forall₂ Written tokens lexemes →
        scan (" ".intercalate lexemes) = .ok tokens) ∧
      ∀ t ∈ tokens, ∀ lexeme, Written t lexeme → scan lexeme = .ok [t] := by
  have hwritable : ∀ t ∈ tokens, Writable t := writable_scanFrom h
  have hscans : ∀ t ∈ tokens, ∀ lexeme, Written t lexeme → ScansTo t lexeme.toList := by
    rintro t ht lexeme hlexeme
    refine scansTo_of_written hlexeme (hwritable t ht) ?_
    rintro n rfl
    exact hfinite n ht
  refine ⟨exists_forall₂_written hwritable, fun lexemes hlexemes => ?_, fun t ht lexeme hlexeme => ?_⟩
  · rw [scan, String.toList_intercalate]
    exact scanFrom_intercalate _ (forall₂_scansTo hlexemes hscans)
  · have hone := scanFrom_intercalate (Text.byteLength lexeme.toList)
      (.cons (hscans t ht lexeme hlexeme) .nil)
    rwa [List.intercalate_singleton] at hone

set_option maxRecDepth 20000 in
/-- The tokens of `if({Due date} >= 1.50, 'say "hi"', done)`, with two kinds of quotes. -/
theorem scan_written_if :
    let tokens := [function .ifElse, openParen, field "Due date", operator .greaterEqual,
      number (.signed false (.ofDigits ['1'] ['5', '0'] 0)), comma, text "say \"hi\"", comma,
      text "done", closeParen]
    let lexemes := ["IF", "(", "{Due date}", ">=", "1.5", ",", "'say \"hi\"'", ",", "\"done\"", ")"]
    scan "if({Due date} >= 1.50, 'say \"hi\"', done)" = .ok tokens ∧
      (∀ n, number n ∈ tokens → n.isFinite = true) ∧
      List.Forall₂ Written tokens lexemes ∧ scan (" ".intercalate lexemes) = .ok tokens := by
  intro tokens lexemes
  have hscan : scan "if({Due date} >= 1.50, 'say \"hi\"', done)" = .ok tokens := by
    with_unfolding_all rfl
  have hfinite : ∀ n, number n ∈ tokens → n.isFinite = true := by
    intro n hn
    obtain rfl : n = .signed false (.ofDigits ['1'] ['5', '0'] 0) := by simpa [tokens] using hn
    decide +kernel
  have hshown : ∀ t lexeme, (∀ s, t ≠ text s) → t.display = lexeme → Written t lexeme := by
    rintro t _ ht rfl
    exact .shown ht
  have hquoted : ∀ s quote lexeme, quote = '"' ∨ quote = '\'' → quote ∉ s.toList →
      String.singleton quote ++ s ++ String.singleton quote = lexeme → Written (text s) lexeme := by
    rintro s quote _ hquote hfree rfl
    exact .quoted hquote hfree
  have hwritten : List.Forall₂ Written tokens lexemes := by
    refine .cons (hshown _ _ nofun rfl) <| .cons (hshown _ _ nofun rfl) <|
      .cons (hshown _ _ nofun (by decide +kernel)) <| .cons (hshown _ _ nofun rfl) <|
      .cons (hshown _ _ nofun (by decide +kernel)) <| .cons (hshown _ _ nofun rfl) <|
      .cons (hquoted _ '\'' _ (.inr rfl) (by decide +kernel) (by decide +kernel)) <|
      .cons (hshown _ _ nofun rfl) <|
      .cons (hquoted _ '"' _ (.inl rfl) (by decide +kernel) (by decide +kernel)) <|
      .cons (hshown _ _ nofun rfl) .nil
  exact ⟨hscan, hfinite, hwritten, (scan_written hscan hfinite).2.1 lexemes hwritten⟩

end Token

end Fieldbook
