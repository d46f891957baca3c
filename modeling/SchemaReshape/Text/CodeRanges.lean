/-!
# Classes of characters

A class of characters as a table of ranges of code points. The ranges run from left to right, so a
search stops at the first range that begins above the code point, and still finds what any range
of the table holds (`contains_iff`). The tables that are built on this module are those of
Unicode 17.
-/

namespace SchemaReshape.Text

/-- Each range has its ends in order, and a gap before the next. -/
def isAscending : List (Nat × Nat) → Bool
  | [] => true
  | [r] => r.1 ≤ r.2
  | r :: s :: rest => r.1 ≤ r.2 && r.2 + 1 < s.1 && isAscending (s :: rest)

structure CodeRanges where
  ranges : List (Nat × Nat)
  ascending : isAscending ranges = true := by decide +kernel

def isWithin (n : Nat) : List (Nat × Nat) → Bool
  | [] => false
  | r :: rest => r.1 ≤ n && (n ≤ r.2 || isWithin n rest)

theorem isAscending_tail {r : Nat × Nat} {rest : List (Nat × Nat)}
    (h : isAscending (r :: rest) = true) : isAscending rest = true := by
  cases rest with
  | nil => rfl
  | cons s rest =>
      simp only [isAscending, Bool.and_eq_true] at h
      exact h.2

theorem lt_of_isAscending {r : Nat × Nat} {rest : List (Nat × Nat)}
    (h : isAscending (r :: rest) = true) : ∀ s ∈ rest, r.1 < s.1 := by
  induction rest generalizing r with
  | nil => simp
  | cons s rest ih =>
      have hs := ih (isAscending_tail h)
      simp only [isAscending, Bool.and_eq_true, decide_eq_true_eq] at h
      intro t ht
      rcases List.mem_cons.1 ht with rfl | ht
      · omega
      · have := hs t ht
        omega

theorem isWithin_iff {n : Nat} {rs : List (Nat × Nat)} (h : isAscending rs = true) :
    isWithin n rs = true ↔ ∃ r ∈ rs, r.1 ≤ n ∧ n ≤ r.2 := by
  induction rs with
  | nil => simp [isWithin]
  | cons r rest ih =>
      have hlt := lt_of_isAscending h
      simp only [isWithin, Bool.and_eq_true, Bool.or_eq_true, decide_eq_true_eq,
        ih (isAscending_tail h), List.mem_cons, exists_eq_or_imp]
      constructor
      · rintro ⟨hr, hn | hs⟩
        · exact Or.inl ⟨hr, hn⟩
        · exact Or.inr hs
      · rintro (⟨hr, hn⟩ | ⟨s, hs, hsn⟩)
        · exact ⟨hr, Or.inl hn⟩
        · have := hlt s hs
          exact ⟨by omega, Or.inr ⟨s, hs, hsn⟩⟩

namespace CodeRanges

def contains (s : CodeRanges) (c : Char) : Bool := isWithin c.toNat s.ranges

theorem contains_iff (s : CodeRanges) (c : Char) :
    s.contains c = true ↔ ∃ r ∈ s.ranges, r.1 ≤ c.toNat ∧ c.toNat ≤ r.2 :=
  isWithin_iff s.ascending

end CodeRanges

end SchemaReshape.Text
