import Mathlib.Data.String.Basic
import Fieldbook.Proofs.Formula.ScanParts

/-!
# Scanning at byte offsets

A formula can be scanned without ever holding a list of its characters: all that is kept is a byte, and
the text is looked at in slices that begin or end at such bytes.  `ByteScan.slice?` has no result where
a slice would cut a character in two, and every scanner here has none as soon as one of its slices has
none.

`ByteScan.scan?_eq` says that this does not happen, for any text: from its first byte a formula is scanned
to its end, to the tokens or the error of `Token.scan`.  The scanners move on by the bytes of the
characters that they have seen, so they only ever stand where the end of the text begins
(`ByteScan.place`), and there each of them does what its counterpart does on the characters that are left.
-/

namespace Fieldbook.ByteScan

/-! ### The scanners -/

/-- **The text between two bytes**, if both stand between characters, the first not behind the second. -/
def slice? (s : String) (start stop : String.Pos.Raw) : Option String :=
  if start.isValid s && stop.isValid s && start ≤ stop then some (start.extract s stop) else none

def ahead? (s : String) (p : String.Pos.Raw) : Option (List Char) :=
  (slice? s p s.rawEndPos).map String.toList

theorem byteIdx_lt_of_ahead? {s : String} {p : String.Pos.Raw} {c : Char} {rest : List Char}
    (h : ahead? s p = some (c :: rest)) : p.byteIdx < s.utf8ByteSize := by
  obtain ⟨inner, hslice, hchars⟩ := Option.map_eq_some_iff.1 h
  by_contra hle
  unfold slice? at hslice
  split at hslice
  · have hnil : p.extract s s.rawEndPos = "" := by
      unfold String.Pos.Raw.extract
      exact if_pos (by simpa using hle)
    rw [hnil] at hslice
    cases hslice
    cases hchars
  · cases hslice

def skipWhile? (kind : Char → Bool) (s : String) (p : String.Pos.Raw) : Option String.Pos.Raw :=
  match _h : ahead? s p with
  | none => none
  | some [] => some p
  | some (c :: _) => if kind c then skipWhile? kind s (p + c) else some p
termination_by s.utf8ByteSize - p.byteIdx
decreasing_by
  have hlt := byteIdx_lt_of_ahead? _h
  have hpos := c.utf8Size_pos
  have hnext : (p + c).byteIdx = p.byteIdx + c.utf8Size := rfl
  omega

def dropPoints (numeral : List Char) : List Char :=
  (numeral.reverse.dropWhile (· == '.')).reverse

/-- A number: digits, then a point that digits stand before or behind, then more digits.  The numeral
is cut out and read as a whole. -/
def number? (s : String) (start : String.Pos.Raw) : Option (Token × String.Pos.Raw) := do
  let front ← skipWhile? Char.isDigit s start
  let rest ← ahead? s front
  let stop ←
    if rest.head? = some '.' ∧ (start < front ∨ rest.tail.head?.any Char.isDigit) then
      skipWhile? Char.isDigit s (front + '.')
    else some front
  let numeral ← slice? s start stop
  return (.number ((Number.ofChars? (dropPoints numeral.toList)).getD 0), stop)

def until? (mark : Char) (missing : FormulaError) (s : String) (start : String.Pos.Raw) :
    Option (Except FormulaError (String × String.Pos.Raw)) := do
  let stop ← skipWhile? (· != mark) s start
  match ← ahead? s stop with
  | [] => return .error missing
  | c :: _ =>
    let inner ← slice? s start stop
    return .ok (inner, stop + c)

def word? (s : String) (start : String.Pos.Raw) : Option (Token × String.Pos.Raw) := do
  let stop ← skipWhile? Token.isWordChar s start
  let word ← slice? s start stop
  return (Token.ofWord word.toList, stop)

/-- **One token**, beginning with `c`, and the byte behind it. -/
def token? (s : String) (c : Char) (p : String.Pos.Raw) :
    Option (Except FormulaError (Token × String.Pos.Raw)) := do
  let rest ← ahead? s p
  if Token.isNumberStart c rest.tail then
    let (t, stop) ← number? s p
    return .ok (t, stop)
  else if c = '"' ∨ c = '\'' then
    let inner ← until? c .unterminatedString s (p + c)
    return inner.map fun (text, stop) => (.text text, stop)
  else if c = '{' then
    let inner ← until? '}' .unterminatedFieldRef s (p + c)
    return inner.map fun (name, stop) => (.field name, stop)
  else if Token.isWordStart c then
    let (t, stop) ← word? s p
    return .ok (t, stop)
  else match Operator.split? rest with
    | some (op, _) => return .ok (.operator op, p + op.symbol)
    | none =>
      match Token.ofMark? c with
      | some mark => return .ok (mark, p + c)
      | none => return .error (.unexpectedCharacter c p.byteIdx)

/-! ### Where the end of a text begins -/

/-- The byte at which the end of a text begins. -/
def place (s : String) (rest : List Char) : String.Pos.Raw :=
  ⟨s.utf8ByteSize - Text.byteLength rest⟩

theorem utf8Len_eq_byteLength (cs : List Char) : String.utf8Len cs = Text.byteLength cs := by
  induction cs with
  | nil => rfl
  | cons c cs ih => simp [ih, Nat.add_comm]

variable {s : String}

theorem byteIdx_place {front rest : List Char} (h : front ++ rest = s.toList) :
    (place s rest).byteIdx = Text.byteLength front := by
  have hbytes := congrArg Text.byteLength h
  rw [Text.byteLength_append, Text.byteLength_toList] at hbytes
  show s.utf8ByteSize - Text.byteLength rest = _
  omega

theorem place_nil : place s [] = s.rawEndPos := by
  show (⟨s.utf8ByteSize - 0⟩ : String.Pos.Raw) = ⟨s.utf8ByteSize⟩
  rw [Nat.sub_zero]

theorem place_toList : place s s.toList = 0 := by
  have h := byteIdx_place (s := s) (List.nil_append s.toList)
  exact String.Pos.Raw.ext h

/-- **The end of a text begins between characters.** -/
theorem isValid_place {rest : List Char} (h : rest <:+ s.toList) : (place s rest).IsValid s := by
  obtain ⟨front, hfront⟩ := h
  rw [String.Pos.Raw.isValid_iff_exists_append]
  refine ⟨String.ofList front, String.ofList rest, ?_, ?_⟩
  · rw [← String.ofList_append, hfront, String.ofList_toList]
  · apply String.Pos.Raw.ext
    rw [byteIdx_place hfront, String.byteIdx_rawEndPos, String.utf8ByteSize_ofList,
      utf8Len_eq_byteLength]

/-- Every place between characters is one where an end of the text begins. -/
theorem exists_place_of_isValid {p : String.Pos.Raw} (h : p.IsValid s) :
    ∃ rest, rest <:+ s.toList ∧ p = place s rest := by
  obtain ⟨front, back, rfl, rfl⟩ := String.Pos.Raw.isValid_iff_exists_append.1 h
  have hsplit : front.toList ++ back.toList = (front ++ back).toList := by simp
  refine ⟨back.toList, ⟨front.toList, hsplit⟩, String.Pos.Raw.ext ?_⟩
  rw [byteIdx_place hsplit, String.byteIdx_rawEndPos, Text.byteLength_toList]

theorem place_append {mid rest : List Char} (h : mid ++ rest <:+ s.toList) :
    (place s rest).byteIdx = (place s (mid ++ rest)).byteIdx + Text.byteLength mid := by
  obtain ⟨front, hfront⟩ := h
  have hrest : (front ++ mid) ++ rest = s.toList := by rw [List.append_assoc, hfront]
  rw [byteIdx_place hfront, byteIdx_place hrest, Text.byteLength_append]

theorem place_cons {c : Char} {rest : List Char} (h : c :: rest <:+ s.toList) :
    place s (c :: rest) + c = place s rest := by
  have hbytes : (place s rest).byteIdx = (place s ([c] ++ rest)).byteIdx + Text.byteLength [c] :=
    place_append h
  apply String.Pos.Raw.ext
  rw [hbytes]
  rfl

/-! ### Slices -/

/-- **A slice between characters is never refused.** -/
theorem slice?_place {mid rest : List Char} (h : mid ++ rest <:+ s.toList) :
    slice? s (place s (mid ++ rest)) (place s rest) = some (String.ofList mid) := by
  have hle : place s (mid ++ rest) ≤ place s rest := by
    rw [String.Pos.Raw.le_iff, place_append h]
    exact Nat.le_add_right _ _
  have hstart := String.Pos.Raw.isValid_eq_true_iff.2 (isValid_place h)
  have hstop := String.Pos.Raw.isValid_eq_true_iff.2
    (isValid_place ((List.suffix_append mid rest).trans h))
  obtain ⟨front, hfront⟩ := h
  have hchars : s = String.ofList (front ++ mid ++ rest) := by
    rw [List.append_assoc, hfront, String.ofList_toList]
  have hextract : (place s (mid ++ rest)).extract s (place s rest) = String.ofList mid := by
    have hvalid := String.extract_of_valid front mid rest
    have hbyte : place s (mid ++ rest) = ⟨String.utf8Len front⟩ := by
      apply String.Pos.Raw.ext
      rw [byteIdx_place hfront, utf8Len_eq_byteLength]
    have hbyte' : place s rest = ⟨String.utf8Len front + String.utf8Len mid⟩ := by
      apply String.Pos.Raw.ext
      rw [place_append ⟨front, hfront⟩, byteIdx_place hfront, utf8Len_eq_byteLength,
        utf8Len_eq_byteLength]
    rw [hbyte, hbyte']
    rw [← hchars] at hvalid
    exact hvalid
  rw [slice?, hstart, hstop, hextract]
  exact if_pos (by simpa using hle)

theorem ahead?_place {rest : List Char} (h : rest <:+ s.toList) :
    ahead? s (place s rest) = some rest := by
  have hslice : slice? s (place s (rest ++ [])) (place s []) = some (String.ofList rest) :=
    slice?_place (by rwa [List.append_nil])
  rw [List.append_nil, place_nil] at hslice
  rw [ahead?, hslice]
  exact congrArg some String.toList_ofList

theorem suffix_of_ahead? {p : String.Pos.Raw} {rest : List Char} (h : ahead? s p = some rest) :
    rest <:+ s.toList ∧ p = place s rest := by
  have hvalid : p.IsValid s := by
    obtain ⟨inner, hslice, -⟩ := Option.map_eq_some_iff.1 h
    unfold slice? at hslice
    split at hslice
    · rename_i hcond
      simp only [Bool.and_eq_true] at hcond
      exact String.Pos.Raw.isValid_eq_true_iff.1 hcond.1.1
    · cases hslice
  obtain ⟨back, hback, rfl⟩ := exists_place_of_isValid hvalid
  rw [ahead?_place hback] at h
  cases h
  exact ⟨hback, rfl⟩

/-! ### Each scanner at a place -/

theorem skipWhile?_place (kind : Char → Bool) {rest : List Char} (h : rest <:+ s.toList) :
    skipWhile? kind s (place s rest) = some (place s (rest.dropWhile kind)) := by
  induction rest with
  | nil =>
    rw [skipWhile?, ahead?_place h]
    rfl
  | cons c rest ih =>
    rw [skipWhile?, ahead?_place h]
    by_cases hkind : kind c = true
    · have hrest : rest <:+ s.toList := (List.suffix_cons c rest).trans h
      simp only [hkind, if_true, List.dropWhile_cons, place_cons h]
      exact ih hrest
    · simp [hkind]

/-! Numerals. -/

/-- A numeral that begins with a digit or a point is read as the digits before and behind its point. -/
theorem ofChars?_of_splitDigits {cs front back : List Char}
    (hstart : ∀ c ∈ cs.head?, c.isDigit = true ∨ c = '.')
    (hsplit : splitDigits cs = (front, back, [])) (hne : front ≠ [] ∨ back ≠ []) :
    Number.ofChars? cs = some (.signed false (.ofDigits front back 0)) := by
  have hunsigned : splitSign cs = (false, cs) := by
    unfold splitSign
    split
    · exact absurd (hstart _ rfl) (by decide)
    · exact absurd (hstart _ rfl) (by decide)
    · rfl
  have hsome : ¬ (front.isEmpty && back.isEmpty) = true := by
    rcases hne with hne | hne
    · simp [hne]
    · simp [hne]
  rw [Number.ofChars?, hunsigned]
  show (readMagnitude? cs).map _ = _
  rw [readMagnitude?, hsplit]
  show (if (front.isEmpty && back.isEmpty) = true then none else _).map _ = _
  rw [if_neg hsome]
  rfl

theorem dropPoints_concat {c : Char} (hc : c ≠ '.') (front : List Char) :
    dropPoints (front ++ [c]) = front ++ [c] := by
  simp [dropPoints, hc]

theorem dropPoints_of_digits {front digits : List Char}
    (hdigits : ∀ c ∈ digits, c.isDigit = true) (hne : digits ≠ []) :
    dropPoints (front ++ digits) = front ++ digits := by
  obtain ⟨init, c, rfl⟩ := List.eq_nil_or_concat digits |>.resolve_left hne
  have hc : c ≠ '.' := by
    rintro rfl
    have := hdigits '.' (by simp)
    cases this
  rw [List.concat_eq_append, ← List.append_assoc]
  exact dropPoints_concat hc _

theorem ofChars?_whole {front : List Char} (hfront : ∀ c ∈ front, c.isDigit = true)
    (hne : front ≠ []) :
    Number.ofChars? (dropPoints front) = some (.signed false (.ofDigits front [] 0)) := by
  have hdrop : dropPoints ([] ++ front) = [] ++ front := dropPoints_of_digits hfront hne
  have hsplit : splitDigits (front ++ []) = (front, [], []) :=
    splitDigits_whole hfront nofun nofun
  rw [List.nil_append] at hdrop
  rw [List.append_nil] at hsplit
  rw [hdrop]
  exact ofChars?_of_splitDigits (fun c hc => .inl (hfront c (List.mem_of_mem_head? hc))) hsplit
    (.inl hne)

theorem ofChars?_point {front back : List Char} (hfront : ∀ c ∈ front, c.isDigit = true)
    (hback : ∀ c ∈ back, c.isDigit = true) (hne : front ≠ [] ∨ back ≠ []) :
    Number.ofChars? (dropPoints (front ++ '.' :: back))
      = some (.signed false (.ofDigits front back 0)) := by
  by_cases hnil : back = []
  · -- The point is at the end, and the digits before it are all of the numeral.
    subst hnil
    have hfront' : front ≠ [] := hne.resolve_right fun h => h rfl
    have hdrop : dropPoints (front ++ ['.']) = dropPoints front := by simp [dropPoints]
    rw [hdrop]
    exact ofChars?_whole hfront hfront'
  · have hdrop : dropPoints (front ++ '.' :: back) = front ++ '.' :: back := by
      have h : dropPoints ((front ++ ['.']) ++ back) = (front ++ ['.']) ++ back :=
        dropPoints_of_digits hback hnil
      simpa using h
    have hsplit : splitDigits (front ++ '.' :: (back ++ [])) = (front, back, []) :=
      splitDigits_point hfront hback nofun
    rw [List.append_nil] at hsplit
    rw [hdrop]
    refine ofChars?_of_splitDigits ?_ hsplit (.inr hnil)
    intro c hc
    cases front with
    | nil => exact .inr (by simpa using hc.symm)
    | cons d front =>
      obtain rfl : d = c := by simpa using hc
      exact .inl (hfront d List.mem_cons_self)

theorem number?_place {c : Char} {rest : List Char} (hstart : Token.isNumberStart c rest = true)
    (h : c :: rest <:+ s.toList) :
    number? s (place s (c :: rest)) =
      some ((Token.scanNumber (c :: rest)).1, place s (Token.scanNumber (c :: rest)).2) := by
  rcases hsplit : splitDigits (c :: rest) with ⟨front, back, after⟩
  obtain ⟨hfront, hback, hstop, hform⟩ := eq_of_splitDigits hsplit
  have hscan : Token.scanNumber (c :: rest)
      = (.number (.signed false (.ofDigits front back 0)), after) := by
    rw [Token.scanNumber, hsplit]
  rw [hscan]
  rcases hform with hform | ⟨rfl, hform, hpoint⟩
  · have htail : ('.' :: (back ++ after)) <:+ s.toList :=
      (hform ▸ List.suffix_append front _).trans h
    have hback' : back ++ after <:+ s.toList := (List.suffix_cons '.' _).trans htail
    have hskip : skipWhile? Char.isDigit s (place s (c :: rest))
        = some (place s ('.' :: (back ++ after))) := by
      rw [skipWhile?_place _ h, hform, dropWhile_run hfront (by simp)]
    have hskip' : skipWhile? Char.isDigit s (place s ('.' :: (back ++ after)) + '.')
        = some (place s after) := by
      rw [place_cons htail, skipWhile?_place _ hback', dropWhile_run hback hstop]
    have hnumeral : slice? s (place s (c :: rest)) (place s after)
        = some (String.ofList (front ++ '.' :: back)) := by
      have hmid : (front ++ '.' :: back) ++ after = c :: rest := by simp [hform]
      rw [← hmid] at h ⊢
      exact slice?_place h
    -- A point at the beginning is one only because a digit follows it.
    have hdigits : front ≠ [] ∨ back ≠ [] := by
      by_contra hnone
      obtain ⟨rfl, rfl⟩ : front = [] ∧ back = [] := by simpa using hnone
      obtain ⟨rfl, rfl⟩ := List.cons.inj hform
      rw [Token.isNumberStart_point_eq_false hstop] at hstart
      cases hstart
    have hgoes : ('.' :: (back ++ after)).head? = some '.' ∧
        (place s (c :: rest) < place s ('.' :: (back ++ after)) ∨
          ('.' :: (back ++ after)).tail.head?.any Char.isDigit = true) := by
      refine ⟨rfl, ?_⟩
      by_cases hnil : front = []
      · right
        obtain ⟨d, more, rfl⟩ := List.exists_cons_of_ne_nil (hdigits.resolve_left fun hn => hn hnil)
        simpa using hback d List.mem_cons_self
      · left
        obtain ⟨d, more, rfl⟩ := List.exists_cons_of_ne_nil hnil
        rw [hform] at h ⊢
        rw [String.Pos.Raw.lt_iff, place_append h]
        have hpos := d.utf8Size_pos
        rw [Text.byteLength_cons]
        omega
    have hvalue := ofChars?_point hfront hback hdigits
    simp only [number?, Option.bind_eq_bind, hskip, Option.bind_some, ahead?_place htail,
      if_pos hgoes, hskip', hnumeral, String.toList_ofList, hvalue, Option.getD_some]
    rfl
  · have hne : front ≠ [] := by
      rintro rfl
      rw [List.nil_append] at hform
      subst hform
      have hdigit : c.isDigit = false := hstop c rfl
      have hc : c ≠ '.' := hpoint c rfl
      rw [Token.isNumberStart_eq_false hdigit hc] at hstart
      cases hstart
    have hafter : after <:+ s.toList := (hform ▸ List.suffix_append front after).trans h
    have hskip : skipWhile? Char.isDigit s (place s (c :: rest)) = some (place s after) := by
      rw [skipWhile?_place _ h, hform, dropWhile_run hfront hstop]
    have hnumeral : slice? s (place s (c :: rest)) (place s after)
        = some (String.ofList front) := by
      rw [hform] at h ⊢
      exact slice?_place h
    have hends : ¬ (after.head? = some '.' ∧
        (place s (c :: rest) < place s after ∨ after.tail.head?.any Char.isDigit = true)) := by
      rintro ⟨hhead, -⟩
      exact hpoint '.' hhead rfl
    have hvalue := ofChars?_whole hfront hne
    simp only [number?, Option.bind_eq_bind, hskip, Option.bind_some, ahead?_place hafter,
      if_neg hends, hnumeral, String.toList_ofList, hvalue, Option.getD_some]
    rfl

theorem until?_place (mark : Char) (missing : FormulaError) {rest : List Char}
    (h : rest <:+ s.toList) :
    until? mark missing s (place s rest) =
      some ((Token.scanUntil mark missing rest).map fun (text, after) => (text, place s after)) := by
  have hafter : rest.dropWhile (· != mark) <:+ s.toList := (List.dropWhile_suffix _).trans h
  have hinner : rest.takeWhile (· != mark) ++ rest.dropWhile (· != mark) = rest :=
    List.takeWhile_append_dropWhile
  cases hdrop : rest.dropWhile (· != mark) with
  | nil =>
    rw [hdrop] at hafter
    simp only [until?, Option.bind_eq_bind, skipWhile?_place _ h, hdrop, Option.bind_some,
      ahead?_place hafter]
    rw [Token.scanUntil, hdrop]
    rfl
  | cons c after =>
    rw [hdrop] at hafter hinner
    have hslice : slice? s (place s rest) (place s (c :: after))
        = some (String.ofList (rest.takeWhile (· != mark))) := by
      rw [← hinner] at h
      have hslice := slice?_place h
      rwa [hinner] at hslice
    simp only [until?, Option.bind_eq_bind, skipWhile?_place _ h, hdrop, Option.bind_some,
      ahead?_place hafter, hslice, place_cons hafter]
    rw [Token.scanUntil, hdrop]
    rfl

theorem word?_place {c : Char} {rest : List Char} (hword : Token.isWordChar c = true)
    (h : c :: rest <:+ s.toList) :
    word? s (place s (c :: rest)) =
      some (Token.ofWord (c :: rest.takeWhile Token.isWordChar),
        place s (rest.dropWhile Token.isWordChar)) := by
  have hinner : (c :: rest.takeWhile Token.isWordChar) ++ rest.dropWhile Token.isWordChar
      = c :: rest := by
    rw [List.cons_append, List.takeWhile_append_dropWhile]
  have hslice : slice? s (place s (c :: rest)) (place s (rest.dropWhile Token.isWordChar))
      = some (String.ofList (c :: rest.takeWhile Token.isWordChar)) := by
    rw [← hinner] at h
    have hslice := slice?_place h
    rwa [hinner] at hslice
  have hskip : skipWhile? Token.isWordChar s (place s (c :: rest))
      = some (place s (rest.dropWhile Token.isWordChar)) := by
    rw [skipWhile?_place _ h, List.dropWhile_cons, if_pos hword]
  simp only [word?, Option.bind_eq_bind, hskip, Option.bind_some, hslice, String.toList_ofList]
  rfl

theorem token?_place {c : Char} {rest : List Char} (h : c :: rest <:+ s.toList) :
    token? s c (place s (c :: rest)) =
      some ((Token.scanOne s.utf8ByteSize c rest).map fun (t, after) => (t, place s after)) := by
  have hrest : rest <:+ s.toList := (List.suffix_cons c rest).trans h
  rw [token?, ahead?_place h]
  show (if Token.isNumberStart c rest = true then _ else _) = _
  by_cases hstart : Token.isNumberStart c rest = true
  · rw [if_pos hstart, number?_place hstart h, Token.scanOne, if_pos hstart]
    rfl
  rw [if_neg hstart, Token.scanOne, if_neg hstart]
  by_cases hquote : c = '"' ∨ c = '\''
  · rw [if_pos hquote, if_pos hquote, place_cons h, until?_place _ _ hrest]
    cases Token.scanUntil c .unterminatedString rest with
    | error e => rfl
    | ok r => rfl
  rw [if_neg hquote, if_neg hquote]
  by_cases hbrace : c = '{'
  · rw [if_pos hbrace, if_pos hbrace, place_cons h, until?_place _ _ hrest]
    cases Token.scanUntil '}' .unterminatedFieldRef rest with
    | error e => rfl
    | ok r => rfl
  rw [if_neg hbrace, if_neg hbrace]
  by_cases hword : Token.isWordStart c = true
  · rw [if_pos hword, if_pos hword, word?_place (Token.isWordChar_of_isWordStart hword) h]
    rfl
  rw [if_neg hword, if_neg hword]
  cases hop : Operator.split? (c :: rest) with
  | some r =>
    obtain ⟨op, after⟩ := r
    obtain ⟨hsymbol, -⟩ := Token.split?_eq_some_iff.1 hop
    have hplace : place s (c :: rest) + op.symbol = place s after := by
      rw [hsymbol] at h ⊢
      apply String.Pos.Raw.ext
      rw [place_append h, Text.byteLength_toList]
      rfl
    show some (Except.ok (Token.operator op, place s (c :: rest) + op.symbol)) = _
    rw [hplace]
    rfl
  | none =>
    cases hmark : Token.ofMark? c with
    | some mark =>
      show some (Except.ok (mark, place s (c :: rest) + c)) = _
      rw [place_cons h]
      rfl
    | none => rfl

/-! ### The whole text -/

theorem byteIdx_lt_of_token? {p next : String.Pos.Raw} {c : Char} {rest : List Char} {t : Token}
    (hahead : ahead? s p = some (c :: rest)) (h : token? s c p = some (.ok (t, next))) :
    p.byteIdx < next.byteIdx := by
  obtain ⟨hsuffix, rfl⟩ := suffix_of_ahead? hahead
  rw [token?_place hsuffix] at h
  cases hone : Token.scanOne s.utf8ByteSize c rest with
  | error e => rw [hone] at h; cases h
  | ok r =>
    obtain ⟨u, after⟩ := r
    rw [hone] at h
    cases h
    have hshorter := Text.byteLength_le_of_suffix (Token.suffix_of_scanOne hone)
    have hlt := Text.byteLength_lt_cons c rest
    have hsize := Text.byteLength_le_of_suffix hsuffix
    rw [Text.byteLength_toList] at hsize
    show s.utf8ByteSize - _ < s.utf8ByteSize - _
    omega

/-- **The tokens of the text from a byte on.** -/
def scan? (s : String) (p : String.Pos.Raw) : Option (Except FormulaError (List Token)) :=
  match _h : ahead? s p with
  | none => none
  | some [] => some (.ok [])
  | some (c :: _) =>
    if Text.isBlank c then scan? s (p + c)
    else match _hone : token? s c p with
      | none => none
      | some (.error e) => some (.error e)
      | some (.ok (t, next)) => (scan? s next).map fun rest => rest.map (t :: ·)
termination_by s.utf8ByteSize - p.byteIdx
decreasing_by
  · have hlt := byteIdx_lt_of_ahead? _h
    have hpos := c.utf8Size_pos
    have hnext : (p + c).byteIdx = p.byteIdx + c.utf8Size := rfl
    omega
  · have hlt := byteIdx_lt_of_ahead? _h
    have hnext := byteIdx_lt_of_token? _h _hone
    omega

theorem scan?_eq_token? {p : String.Pos.Raw} {c : Char} {rest : List Char}
    (hahead : ahead? s p = some (c :: rest)) (hblank : Text.isBlank c = false)
    {one : Except FormulaError (Token × String.Pos.Raw)} (hone : token? s c p = some one) :
    scan? s p = match one with
      | .error e => some (.error e)
      | .ok (t, next) => (scan? s next).map fun rest => rest.map (t :: ·) := by
  rw [scan?]
  split
  · rename_i hnone
    rw [hahead] at hnone
    cases hnone
  · rename_i hend
    rw [hahead] at hend
    cases hend
  · rename_i d tail hsome
    rw [hahead] at hsome
    cases hsome
    rw [hblank, if_neg Bool.false_ne_true]
    split
    · rename_i hnone
      rw [hone] at hnone
      cases hnone
    · rename_i herror
      rw [hone] at herror
      cases herror
      rfl
    · rename_i hok
      rw [hone] at hok
      cases hok
      rfl

theorem scan?_place {rest : List Char} (h : rest <:+ s.toList) :
    scan? s (place s rest) = some (Token.scanFrom s.utf8ByteSize rest) := by
  fun_induction Token.scanFrom s.utf8ByteSize rest with
  | case1 => rw [scan?, ahead?_place h]
  | case2 c rest hblank ih =>
    rw [scan?, ahead?_place h]
    simp only [hblank, if_true]
    rw [place_cons h]
    exact ih ((List.suffix_cons c rest).trans h)
  | case3 c rest hblank e hone =>
    have htoken := token?_place h
    rw [hone] at htoken
    rw [scan?_eq_token? (ahead?_place h) (eq_false_of_ne_true hblank) htoken]
    rfl
  | case4 c rest hblank t after hone ih =>
    have htoken := token?_place h
    rw [hone] at htoken
    have hafter : after <:+ s.toList :=
      ((Token.suffix_of_scanOne hone).trans (List.suffix_cons c rest)).trans h
    rw [scan?_eq_token? (ahead?_place h) (eq_false_of_ne_true hblank) htoken]
    show (scan? s (place s after)).map _ = _
    rw [ih hafter]
    rfl

/-- **A text is scanned at byte offsets without cutting a character**, and to the same result. -/
theorem scan?_eq (s : String) : scan? s 0 = some (Token.scan s) := by
  rw [← place_toList (s := s), scan?_place (List.suffix_refl _), Token.scan, Text.byteLength_toList]

end Fieldbook.ByteScan
