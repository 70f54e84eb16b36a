import ElementLocator.Text.Blank
import ElementLocator.Text.Letter
/-! Characters of one kind that are never of another, and texts without blanks around them. -/
namespace ElementLocator.Text

variable {c : Char} {n : Nat}

def Ranges.apart (rs ss : Ranges) : Bool :=
  rs.all fun r => ss.all fun s => decide (r.2 < s.1) || decide (s.2 < r.1)

theorem Ranges.holdsApart {rs ss : Ranges} (ascending : rs.Ascending) (others : ss.Ascending)
    (apart : rs.apart ss = true) (holds : rs.holds n = true) : ss.holds n = false := by
  obtain ⟨r, member, low, high⟩ := (holdsIff ascending).mp holds
  cases found : ss.holds n with
  | false => rfl
  | true =>
    obtain ⟨s, there, below, above⟩ := (holdsIff others).mp found
    have away := List.all_eq_true.mp (List.all_eq_true.mp apart r member) s there
    simp only [Bool.or_eq_true, decide_eq_true_eq] at away
    omega

theorem lettersAscending : letters.Ascending := by decide +kernel

theorem numeralsAscending : numerals.Ascending := by decide +kernel

theorem blankNoAlphanumeric (h : isBlank c = true) : isAlphanumeric c = false := by
  have noLetter : isLetter c = false :=
    Ranges.holdsApart blanksAscending lettersAscending (by decide +kernel) h
  have noNumeral : isNumeral c = false :=
    Ranges.holdsApart blanksAscending numeralsAscending (by decide +kernel) h
  simp [isAlphanumeric, noLetter, noNumeral]

theorem digitNoLetter (h : isDigit c = true) : isLetter c = false := by
  simp only [isDigit, Bool.and_eq_true, decide_eq_true_eq] at h
  have high : c.toNat ≤ 57 := h.2
  change (if c.toNat < 65 then false else _) = false
  rw [if_pos (by omega)]

theorem digitIsNumeral (h : isDigit c = true) : isNumeral c = true := by
  simp only [isDigit, Bool.and_eq_true, decide_eq_true_eq] at h
  have low : 48 ≤ c.toNat := h.1
  have high : c.toNat ≤ 57 := h.2
  change (if c.toNat < 48 then false else if c.toNat ≤ 57 then true else _) = true
  rw [if_neg (by omega), if_pos high]

theorem trimParts (cs : List Char) : ∃ front back, cs = front ++ (trim cs ++ back) ∧
    (∀ c ∈ front, isBlank c = true) ∧ ∀ c ∈ back, isBlank c = true := by
  have blankSpan (cs : List Char) : ∀ c ∈ cs.takeWhile isBlank, isBlank c = true :=
    List.all_eq_true.mp List.all_takeWhile
  refine ⟨cs.takeWhile isBlank, ((trimStart cs).reverse.takeWhile isBlank).reverse, ?_,
    blankSpan cs, ?_⟩
  · have ended : trimEnd (trimStart cs) ++ ((trimStart cs).reverse.takeWhile isBlank).reverse =
        trimStart cs := by
      rw [trimEnd, ← List.reverse_append, List.takeWhile_append_dropWhile, List.reverse_reverse]
    rw [trim, ended]
    exact List.takeWhile_append_dropWhile.symm
  · intro c member
    exact blankSpan _ c (List.mem_reverse.mp member)

theorem trimKept {c d : Char} {w : List Char} (first : isBlank c = false)
    (last : isBlank d = false) : trim (c :: (w ++ [d])) = c :: (w ++ [d]) := by
  simp [trim, trimStart, trimEnd, first, last]

end ElementLocator.Text
