/-!
# Blank characters

Sets of characters are given as lists of ranges of code points, both ends included.  The characters
that separate tokens and that trimming removes are those with the Unicode property `White_Space`.  A
zero-width space and a byte order mark are not among them.
-/

namespace Fieldbook.Text

def inRanges (ranges : List (Nat × Nat)) (c : Char) : Bool :=
  ranges.any fun (low, high) => low ≤ c.toNat && c.toNat ≤ high

def blankRanges : List (Nat × Nat) := [
  (0x9, 0xD), (0x20, 0x20), (0x85, 0x85), (0xA0, 0xA0), (0x1680, 0x1680), (0x2000, 0x200A),
  (0x2028, 0x2029), (0x202F, 0x202F), (0x205F, 0x205F), (0x3000, 0x3000)]

def isBlank (c : Char) : Bool := inRanges blankRanges c

def trimFront (cs : List Char) : List Char := cs.dropWhile isBlank

def trimBack (cs : List Char) : List Char := (cs.reverse.dropWhile isBlank).reverse

def trim (cs : List Char) : List Char := trimBack (trimFront cs)

def isBlankText (cs : List Char) : Bool := cs.all isBlank

end Fieldbook.Text
