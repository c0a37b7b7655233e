import Fieldbook.Proofs.Formula.ByteScan

/-!
# Where scanning fails

A formula that cannot be scanned is cut in two at the character where the scanner stops: the text before
it has tokens by itself, and no token begins there (`Token.scan_failure`).  The text before it must be
shown to have tokens although what its last token looked ahead to is gone; this is
`Token.Scans.exists_lexeme` with nothing as the rest.
-/

namespace Fieldbook.Token

/-- A text that tokens stand at the front of goes on to the end without its rest. -/
theorem Scans.scan_front {front rest : List Char} {tokens : List Token}
    (h : Scans (front ++ rest) tokens rest) : scan (String.ofList front) = .ok tokens := by
  obtain ⟨lexeme, hlexeme, hexchange⟩ := h.exists_lexeme
  obtain rfl : front = lexeme := List.append_cancel_right hlexeme
  have hfront := hexchange [] (SameNext.of_nil rest)
  rw [List.append_nil] at hfront
  show scanFrom _ (String.ofList front).toList = _
  rw [String.toList_ofList, hfront.scanFrom_eq, scanFrom]
  simp [Except.map]

/-- **Where scanning fails.**  Every formula is scanned to its end or to an error, at byte offsets that
cut no character.  Where it fails, it falls into a text that has tokens, a character, and the rest: at
the character, which stands behind the bytes of that text, no token begins, and the error says why. -/
theorem scan_failure (expression : String) :
    ByteScan.scan? expression 0 = some (scan expression) ∧
      ∀ e, scan expression = .error e →
        ∃ (before after : String) (c : Char),
          expression = before ++ String.singleton c ++ after ∧
          before.rawEndPos.IsValid expression ∧
          (∃ tokens, scan before = .ok tokens) ∧
          NoToken c after.toList before.utf8ByteSize e := by
  refine ⟨ByteScan.scan?_eq expression, fun e he => ?_⟩
  rcases scanFrom_cases (Text.byteLength expression.toList) expression.toList with
    ⟨tokens, hscan, -⟩ | ⟨tokens, c, rest, e', hscan, hread, -, hone⟩
  · have hok : scan expression = .ok tokens := hscan
    rw [he] at hok
    cases hok
  · have herror : scan expression = .error e' := hscan
    rw [he] at herror
    cases herror
    obtain ⟨front, hfront, -⟩ := hread.exists_lexeme
    have hsplit : expression = String.ofList front ++ String.singleton c ++ String.ofList rest := by
      apply String.toList_inj.1
      simp [hfront]
    refine ⟨String.ofList front, String.ofList rest, c, hsplit, ?_, ⟨tokens, ?_⟩, ?_⟩
    · rw [String.Pos.Raw.isValid_iff_exists_append]
      exact ⟨_, String.singleton c ++ String.ofList rest, by rw [← String.append_assoc, ← hsplit], rfl⟩
    · rw [hfront] at hread
      exact hread.scan_front
    · have hplace : Text.byteLength expression.toList - Text.byteLength (c :: rest)
          = (String.ofList front).utf8ByteSize := by
        rw [hfront, Text.byteLength_append, Nat.add_sub_cancel, ← Text.byteLength_toList,
          String.toList_ofList]
      have hstop := noToken_of_scanOne hone
      rw [hplace] at hstop
      rwa [String.toList_ofList]

set_option maxRecDepth 20000 in
/-- The brace of `é + {Größe` is not closed, and `é ≤ 1` fails at a character of three bytes. -/
theorem scan_failure_accents :
    ByteScan.scan? "é + \x7bGröße" 0 = some (.error .unterminatedFieldRef) ∧
      (∃ (before after : String) (c : Char),
        "é + \x7bGröße" = before ++ String.singleton c ++ after ∧
        before.rawEndPos.IsValid "é + \x7bGröße" ∧ (∃ tokens, scan before = .ok tokens) ∧
        NoToken c after.toList before.utf8ByteSize .unterminatedFieldRef) ∧
      ∃ (before after : String) (c : Char),
        "é ≤ 1" = before ++ String.singleton c ++ after ∧
        before.rawEndPos.IsValid "é ≤ 1" ∧ (∃ tokens, scan before = .ok tokens) ∧
        NoToken c after.toList before.utf8ByteSize (.unexpectedCharacter '≤' 3) := by
  have hbrace : scan "é + \x7bGröße" = .error .unterminatedFieldRef := by with_unfolding_all rfl
  have hcharacter : scan "é ≤ 1" = .error (.unexpectedCharacter '≤' 3) := by with_unfolding_all rfl
  obtain ⟨hbytes, hfails⟩ := scan_failure "é + \x7bGröße"
  rw [hbrace] at hbytes
  exact ⟨hbytes, hfails _ hbrace, (scan_failure "é ≤ 1").2 _ hcharacter⟩

end Fieldbook.Token
