import Fieldbook.Proofs.Text.Bytes
import Fieldbook.Proofs.View.Comparison

/-!
# The order of texts is total

Texts are compared folded first, and texts that fold alike by their characters.  Folding may turn one
character into several, so that texts which fold alike need not be of one length, and the two stages do
not look at the same places.  This does no harm: each stage by itself is a comparison of whole texts
that goes from text to text, and the second one holds nothing equal but a text and itself
(`Text.lawfulEqCmp_compareText`).

The second stage stops at the first place where the texts differ.  Where there is none, one text begins
with the other, and the one of fewer bytes comes first (`Text.compareLex_compareCase`).
-/

namespace Fieldbook.Text

/-! ### Characters -/

theorem compareCase_self (c : Char) : compareCase c c = .eq := by
  have := transCmp_compareCase
  exact Std.ReflCmp.compare_self

theorem eq_of_compareCase {x y : Char} (h : compareCase x y = .eq) : x = y := by
  obtain ⟨-, hcode⟩ := Ordering.then_eq_eq.1 h
  exact Std.LawfulEqCmp.eq_of_compare hcode

theorem lawfulEqCmp_compareCase : Std.LawfulEqCmp compareCase where
  compare_self {c} := compareCase_self c
  eq_of_compare := eq_of_compareCase

/-! ### Texts that fold alike -/

/-- **The first place where texts differ decides**, and where there is none, the number of bytes. -/
theorem compareLex_compareCase (a b : List Char) :
    List.compareLex compareCase a b =
      match (a.zip b).find? (fun pair => pair.1 ≠ pair.2) with
      | some (x, y) => compareCase x y
      | none => compare (byteLength a) (byteLength b) := by
  induction a generalizing b with
  | nil =>
    cases b with
    | nil => rfl
    | cons y ys =>
      have hlt : byteLength [] < byteLength (y :: ys) :=
        Nat.lt_of_le_of_lt (Nat.zero_le _) (byteLength_lt_cons y ys)
      rw [List.zip_nil_left, List.find?_nil]
      exact (Nat.compare_eq_lt.2 hlt).symm
  | cons x xs ih =>
    cases b with
    | nil =>
      have hlt : byteLength [] < byteLength (x :: xs) :=
        Nat.lt_of_le_of_lt (Nat.zero_le _) (byteLength_lt_cons x xs)
      rw [List.zip_nil_right, List.find?_nil]
      exact (Nat.compare_eq_gt.2 hlt).symm
    | cons y ys =>
      rw [List.compareLex_cons_cons, List.zip_cons_cons, List.find?_cons]
      by_cases heq : x = y
      · subst heq
        have hbytes : compare (byteLength (x :: xs)) (byteLength (x :: ys))
            = compare (byteLength xs) (byteLength ys) := by
          simp [Nat.compare_eq_ite_lt]
        have hsame : decide (x ≠ x) = false := by simp
        rw [compareCase_self, hsame, hbytes]
        exact ih ys
      · have hne : compareCase x y ≠ .eq := fun h => heq (eq_of_compareCase h)
        simp only [heq, ne_eq, not_false_eq_true, decide_true]
        cases hcompare : compareCase x y with
        | eq => exact absurd hcompare hne
        | lt => rfl
        | gt => rfl

/-! ### Texts -/

/-- **Only a text and itself are held equal.** -/
theorem lawfulEqCmp_compareText : Std.LawfulEqCmp compareText where
  compare_self := by
    intro a
    have := transCmp_compareText
    exact Std.ReflCmp.compare_self
  eq_of_compare := by
    intro a b h
    obtain ⟨-, hcase⟩ := Ordering.then_eq_eq.1 h
    have := lawfulEqCmp_compareCase
    exact Std.LawfulEqCmp.eq_of_compare hcase

/-- **Texts are totally ordered**: two are held equal only if they are the same, compared the other way
round they come out reversed, and what is below is passed on. -/
theorem compareText_total_order (a b c : String) :
    (compareText a.toList b.toList = .eq ↔ a = b) ∧
      compareText b.toList a.toList = (compareText a.toList b.toList).swap ∧
      (compareText a.toList b.toList = .lt → compareText b.toList c.toList = .lt →
        compareText a.toList c.toList = .lt) := by
  have hlawful := lawfulEqCmp_compareText
  have htrans := transCmp_compareText
  refine ⟨?_, Std.OrientedCmp.eq_swap, fun hab hbc => Std.TransCmp.lt_trans hab hbc⟩
  exact Std.LawfulEqCmp.compare_eq_iff_eq.trans String.toList_inj

/-- Three ways to write a dotted capital or small i.  They fold alike, and one of them is a single
character. -/
theorem compareText_total_order_dotted_i :
    let small := "i\u0307"
    let capital := "I\u0307"
    let single := "\u0130"
    fold small.toList = fold single.toList ∧ fold capital.toList = fold single.toList ∧
      single.length < capital.length ∧
      compareText small.toList capital.toList = .lt ∧
      compareText capital.toList single.toList = .lt ∧
      compareText small.toList single.toList = .lt ∧
      compareText single.toList small.toList = .gt ∧ small ≠ single := by
  intro small capital single
  have hsmall : compareText small.toList capital.toList = .lt := by decide +kernel
  have hcapital : compareText capital.toList single.toList = .lt := by decide +kernel
  obtain ⟨heq, hswap, -⟩ := compareText_total_order small single single
  have hlt := (compareText_total_order small capital single).2.2 hsmall hcapital
  refine ⟨by decide +kernel, by decide +kernel, by decide +kernel, hsmall, hcapital, hlt, ?_, ?_⟩
  · rw [hswap, hlt]
    rfl
  · intro hsame
    rw [heq.2 hsame] at hlt
    cases hlt

end Fieldbook.Text
