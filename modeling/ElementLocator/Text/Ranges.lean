/-! Sets of characters given as closed ranges of code points in ascending order.
The test stops at the first range that begins after the character. -/
namespace ElementLocator.Text

abbrev Ranges := List (Nat × Nat)

def Ranges.holds (n : Nat) : Ranges → Bool
  | [] => false
  | (first, last) :: rest =>
      if n < first then false
      else if n ≤ last then true
      else holds n rest

def Ranges.Ascending : Ranges → Prop
  | [] => True
  | [(first, last)] => first ≤ last
  | (first, last) :: (next, limit) :: rest =>
      first ≤ last ∧ last < next ∧ Ascending ((next, limit) :: rest)

instance Ranges.decidableAscending : (rs : Ranges) → Decidable (Ascending rs)
  | [] => isTrue trivial
  | [(first, last)] => inferInstanceAs (Decidable (first ≤ last))
  | (first, last) :: (next, limit) :: rest =>
      have := decidableAscending ((next, limit) :: rest)
      inferInstanceAs (Decidable (first ≤ last ∧ last < next ∧ Ascending ((next, limit) :: rest)))

theorem Ranges.headLe {first last : Nat} {rest : Ranges} (ok : Ascending ((first, last) :: rest)) :
    first ≤ last := by
  cases rest with
  | nil => exact ok
  | cons r rest => exact ok.1

theorem Ranges.tail {r : Nat × Nat} {rest : Ranges} (ok : Ascending (r :: rest)) :
    Ascending rest := by
  cases rest with
  | nil => trivial
  | cons s rest => exact ok.2.2

theorem Ranges.later {first last : Nat} {rest : Ranges} (ok : Ascending ((first, last) :: rest)) :
    ∀ r ∈ rest, last < r.1 := by
  induction rest generalizing first last with
  | nil => simp
  | cons s rest ih =>
    obtain ⟨next, limit⟩ := s
    intro r mem
    rcases List.mem_cons.mp mem with rfl | inside
    · exact ok.2.1
    · have step := ih ok.2.2 r inside
      have := ok.2.1
      have := headLe ok.2.2
      omega

theorem Ranges.holdsIff {n : Nat} {rs : Ranges} (ok : Ascending rs) :
    rs.holds n = true ↔ ∃ r ∈ rs, r.1 ≤ n ∧ n ≤ r.2 := by
  induction rs with
  | nil => simp [holds]
  | cons r rest ih =>
    obtain ⟨first, last⟩ := r
    have ascending := headLe ok
    have after := later ok
    simp only [holds]
    split
    · constructor
      · simp
      · rintro ⟨r, mem, low, high⟩
        rcases List.mem_cons.mp mem with rfl | inside
        · simp only at low; omega
        · have := after r inside; omega
    · split
      · exact ⟨fun _ => ⟨(first, last), by simp, by omega, by simpa⟩, fun _ => rfl⟩
      · rw [ih (tail ok)]
        constructor
        · rintro ⟨r, mem, inside⟩
          exact ⟨r, List.mem_cons_of_mem _ mem, inside⟩
        · rintro ⟨r, mem, low, high⟩
          rcases List.mem_cons.mp mem with rfl | inside
          · simp only at high; omega
          · exact ⟨r, inside, low, high⟩

end ElementLocator.Text
