import Fieldbook.Text.Case

/-!
# The order of texts

Texts are sorted as a reader expects: letters first without regard to case, and only among
texts that agree so far the lower case before the upper case (`apple`, `Apple`, `banana`).
-/

namespace Fieldbook.Text

/-- The order of two characters that differ at most in case: a lower case letter first, otherwise
by code point. -/
def compareCase (x y : Char) : Ordering :=
  (compare (!isLowercase x) (!isLowercase y)).then (compare x y)

/-- **The order of texts.**  Folded texts are compared character by character; among texts that
fold alike the first character that differs decides. -/
def compareText (a b : List Char) : Ordering :=
  (List.compareLex compare (fold a) (fold b)).then (List.compareLex compareCase a b)

def occursIn (needle : List Char) : List Char → Bool
  | [] => needle.isEmpty
  | c :: rest => needle.isPrefixOf (c :: rest) || occursIn needle rest

end Fieldbook.Text
