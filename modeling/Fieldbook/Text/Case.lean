import Fieldbook.Text.Blank
import Fieldbook.Text.CaseTable

/-!
# Letter case

Upper and lower case of characters and of whole texts, for all scripts.  A character may turn
into several (`ß` becomes `SS`).  In a whole text a capital sigma at the end of a word becomes
the final form `ς`; character by character it is always `σ`.
-/

namespace Fieldbook.Text

def CaseRun.map? (run : CaseRun) (code : Nat) : Option Nat :=
  if run.first ≤ code ∧ code ≤ run.last ∧ (code - run.first) % run.stride = 0 then
    some ((code : Int) + run.offset).toNat
  else none

/-- The image of a character under a case mapping: one character by a run, several by an
expansion, itself where the tables are silent. -/
def mapCase (runs : List CaseRun) (expansions : List (Nat × List Nat)) (c : Char) : List Char :=
  match runs.findSome? (·.map? c.toNat) with
  | some code => [Char.ofNat code]
  | none =>
    match expansions.lookup c.toNat with
    | some codes => codes.map Char.ofNat
    | none => [c]

def lowerChar (c : Char) : List Char :=
  if c.toNat < 128 then [c.toLower] else mapCase lowerRuns lowerExpansions c

def upperChar (c : Char) : List Char :=
  if c.toNat < 128 then [c.toUpper] else mapCase upperRuns upperExpansions c

def isLowercase (c : Char) : Bool :=
  if c.toNat < 128 then c.isLower else inRanges lowercaseRanges c

/-- Whether the nearest character that matters for case is a letter with case. -/
def casedNext (cs : List Char) : Bool :=
  match cs.dropWhile (inRanges caseIgnorableRanges) with
  | [] => false
  | c :: _ => inRanges casedRanges c

/-- **The end of a word.**  Whether a sigma stands after a letter with case and before none;
`before` is the text in front of it, backwards. -/
def endsWord (before after : List Char) : Bool := casedNext before && !casedNext after

/-- The lower case of a text that stands after `before`, given backwards. -/
def lowerAfter (before : List Char) : List Char → List Char
  | [] => []
  | c :: rest =>
    (if c = 'Σ' then (if endsWord before rest then ['ς'] else ['σ']) else lowerChar c)
      ++ lowerAfter (c :: before) rest

/-- **The lower case of a text**, with final sigmas. -/
def lower (cs : List Char) : List Char := lowerAfter [] cs

def upper (cs : List Char) : List Char := cs.flatMap upperChar

/-- The lower case of a text character by character, without final sigmas. -/
def fold (cs : List Char) : List Char := cs.flatMap lowerChar

end Fieldbook.Text
