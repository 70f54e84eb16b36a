import ElementLocator.Text.Parser
/-! What combined parsers read, from what their parts read. A part that reads as long a text as it
can is told where it stops by the character after that text. -/
namespace ElementLocator.Text

def Stops (ok : Char → Bool) (rest : List Char) : Prop := ∀ c ∈ rest.head?, ok c = false

theorem stopsNil (ok : Char → Bool) : Stops ok [] := by intro c hc; cases hc

theorem stopsCons {ok : Char → Bool} {c : Char} (h : ok c = false) (cs : List Char) :
    Stops ok (c :: cs) := by
  intro x hx
  cases hx
  exact h

theorem stopsHead {ok : Char → Bool} {c : Char} {cs : List Char} (h : Stops ok (c :: cs)) :
    ok c = false := h c rfl

theorem stopsAppend {ok : Char → Bool} {cs rest : List Char} (stop : Stops ok cs)
    (more : Stops ok rest) : Stops ok (cs ++ rest) := by
  cases cs with
  | nil => exact more
  | cons c cs => exact stopsCons (stopsHead stop) (cs ++ rest)

theorem notSame {ok : Char → Bool} {c x : Char} (is : ok c = true) (other : ok x = false) :
    decide (c = x) = false := by
  apply decide_eq_false
  rintro rfl
  rw [is] at other
  cases other

theorem dropWhileStops {ok : Char → Bool} {rest : List Char} (stop : Stops ok rest) :
    rest.dropWhile ok = rest := by
  cases rest with
  | nil => rfl
  | cons c cs => rw [List.dropWhile_cons, if_neg (by simp [stopsHead stop])]

theorem takeWhileStops {ok : Char → Bool} {rest : List Char} (stop : Stops ok rest) :
    rest.takeWhile ok = [] := by
  cases rest with
  | nil => rfl
  | cons c cs => rw [List.takeWhile_cons, if_neg (by simp [stopsHead stop])]

theorem dropWhileAppend {ok : Char → Bool} {w rest : List Char} (all : ∀ c ∈ w, ok c = true)
    (stop : Stops ok rest) : (w ++ rest).dropWhile ok = rest := by
  rw [List.dropWhile_append_of_pos all, dropWhileStops stop]

theorem takeWhileAppend {ok : Char → Bool} {w rest : List Char} (all : ∀ c ∈ w, ok c = true)
    (stop : Stops ok rest) : (w ++ rest).takeWhile ok = w := by
  rw [List.takeWhile_append_of_pos all, takeWhileStops stop, List.append_nil]

theorem takeWhileAll (ok : Char → Bool) (cs : List Char) :
    ∀ x ∈ cs.takeWhile ok, ok x = true := List.all_eq_true.mp List.all_takeWhile

theorem dropWhileStop (ok : Char → Bool) (cs : List Char) : Stops ok (cs.dropWhile ok) := by
  intro x first
  have := List.head?_dropWhile_not ok cs
  rw [Option.mem_def.mp first] at this
  simpa using this

theorem skipGapStops {rest : List Char} (stop : Stops isGap rest) : skipGap rest = rest :=
  dropWhileStops stop

namespace Parser

variable {α β : Type} {c d : Bool} {p : Parser c α} {q : Parser d β} {cs mid rest : List Char}
  {a : α} {b : β}

theorem charRead (x : Char) (cs : List Char) : (char x).run (x :: cs) = some ((), cs) := by
  simp [char]

theorem charOther {x : Char} (stop : Stops (· = x) cs) : (char x).run cs = none := by
  cases cs with
  | nil => rfl
  | cons y ys =>
    have other : y ≠ x := by simpa using stopsHead stop
    simp [char, other]

theorem wordRead {w : String} (nonempty : w ≠ "") (rest : List Char) :
    (word w).run (w.toList ++ rest) = some ((), rest) := by
  cases h : w.toList with
  | nil => exact absurd (String.toList_eq_nil_iff.mp h) nonempty
  | cons first more =>
    have found : afterStart (first :: more) (first :: more ++ rest) = some rest :=
      afterStartSome.mpr rfl
    simp only [word, h, found, Option.map_some]

theorem wordOther {w : String} (other : ¬ w.toList <+: cs) : (word w).run cs = none := by
  cases h : w.toList with
  | nil => simp [word, h]
  | cons first more =>
    simp only [word, h]
    cases found : afterStart (first :: more) cs with
    | none => rfl
    | some rest =>
      rw [h] at other
      exact absurd ⟨rest, (afterStartSome.mp found).symm⟩ other

theorem spanRead {ok : Char → Bool} {w rest : List Char} (all : ∀ c ∈ w, ok c = true)
    (stop : Stops ok rest) : (span ok).run (w ++ rest) = some (w, rest) := by
  simp only [span, takeWhileAppend all stop, dropWhileAppend all stop]

theorem span1Read {ok : Char → Bool} {w rest : List Char} (nonempty : w ≠ [])
    (all : ∀ c ∈ w, ok c = true) (stop : Stops ok rest) :
    (span1 ok).run (w ++ rest) = some (w, rest) := by
  cases w with
  | nil => exact absurd rfl nonempty
  | cons x w =>
    have first : ok x = true := all x (by simp)
    have others : ∀ c ∈ w, ok c = true := by intro c hc; exact all c (by simp [hc])
    simp only [span1, List.cons_append, if_pos first, takeWhileAppend others stop,
      dropWhileAppend others stop]

theorem span1Other {ok : Char → Bool} (stop : Stops ok cs) : (span1 ok).run cs = none := by
  cases cs with
  | nil => rfl
  | cons x xs => simp [span1, stopsHead stop]

theorem oneRead {ok : Char → Bool} {x : Char} (h : ok x = true) (cs : List Char) :
    (one ok).run (x :: cs) = some (x, cs) := by simp [one, h]

theorem oneOther {ok : Char → Bool} (stop : Stops ok cs) : (one ok).run cs = none := by
  cases cs with
  | nil => rfl
  | cons x xs => simp [one, stopsHead stop]

theorem mapRead (f : α → β) (h : p.run cs = some (a, rest)) :
    (p.map f).run cs = some (f a, rest) := by simp [map, h]

theorem mapOther (f : α → β) (h : p.run cs = none) : (p.map f).run cs = none := by simp [map, h]

theorem providedRead {ok : α → List Char → Bool} (h : p.run cs = some (a, rest))
    (accepted : ok a rest = true) : (p.provided ok).run cs = some (a, rest) := by
  simp [provided, h, accepted]

theorem providedOther {ok : α → List Char → Bool} (h : p.run cs = none) :
    (p.provided ok).run cs = none := by simp [provided, h]

theorem providedRefused {ok : α → List Char → Bool} (h : p.run cs = some (a, rest))
    (refused : ok a rest = false) : (p.provided ok).run cs = none := by
  simp [provided, h, refused]

theorem eitherFirst {p q : Parser c α} (h : p.run cs = some (a, rest)) :
    (p.either q).run cs = some (a, rest) := by simp [either, h]

theorem eitherSecond {p q : Parser c α} (h : p.run cs = none) :
    (p.either q).run cs = q.run cs := by simp [either, h]

theorem andThenRead (first : p.run cs = some (a, mid)) (second : q.run mid = some (b, rest)) :
    (p.andThen q).run cs = some ((a, b), rest) := by simp [andThen, first, second]

theorem andThenOther (first : p.run cs = none) : (p.andThen q).run cs = none := by
  simp [andThen, first]

theorem andThenBroken (first : p.run cs = some (a, mid)) (second : q.run mid = none) :
    (p.andThen q).run cs = none := by simp [andThen, first, second]

theorem thenSkipRead (first : p.run cs = some (a, mid)) (second : q.run mid = some (b, rest)) :
    (p.thenSkip q).run cs = some (a, rest) := mapRead Prod.fst (andThenRead first second)

theorem thenSkipOther (first : p.run cs = none) : (p.thenSkip q).run cs = none :=
  mapOther Prod.fst (andThenOther first)

theorem thenSkipBroken (first : p.run cs = some (a, mid)) (second : q.run mid = none) :
    (p.thenSkip q).run cs = none := mapOther Prod.fst (andThenBroken first second)

theorem skipThenRead (first : p.run cs = some (a, mid)) (second : q.run mid = some (b, rest)) :
    (p.skipThen q).run cs = some (b, rest) := mapRead Prod.snd (andThenRead first second)

theorem skipThenOther (first : p.run cs = none) : (p.skipThen q).run cs = none :=
  mapOther Prod.snd (andThenOther first)

theorem optionalRead (h : p.run cs = some (a, rest)) :
    p.optional.run cs = some (some a, rest) := by simp [optional, h]

theorem optionalNone (h : p.run cs = none) : p.optional.run cs = some (none, cs) := by
  simp [optional, h]

theorem manyStop {p : Parser true α} (h : p.run cs = none) : p.many.run cs = some ([], cs) := by
  simp only [many]
  rw [manyFrom]
  split
  · rfl
  · rename_i found
    rw [h] at found
    cases found

theorem manyStep {p : Parser true α} {as : List α} (head : p.run cs = some (a, mid))
    (tail : p.many.run mid = some (as, rest)) : p.many.run cs = some (a :: as, rest) := by
  have more : manyFrom p mid = (as, rest) := Option.some.inj tail
  simp only [many]
  rw [manyFrom]
  split
  · rename_i found
    rw [head] at found
    cases found
  · rename_i found
    rw [head] at found
    cases found
    rw [more]

theorem separatedNone {p : Parser true α} {separator : Parser true β} (h : p.run cs = none) :
    (p.separated separator).run cs = some ([], cs) :=
  mapRead _ (optionalNone (andThenOther h))

theorem separatedRead {p : Parser true α} {separator : Parser true β} {as : List α}
    (head : p.run cs = some (a, mid))
    (tail : (separator.skipThen p).many.run mid = some (as, rest)) :
    (p.separated separator).run cs = some (a :: as, rest) :=
  mapRead _ (optionalRead (andThenRead head tail))

theorem paddedRead (start : Stops isGap cs) (h : p.run cs = some (a, rest))
    (stop : Stops isGap rest) : p.padded.run cs = some (a, rest) := by
  simp only [padded, skipGapStops start, h, Option.map_some, skipGapStops stop]

theorem paddedOther (start : Stops isGap cs) (h : p.run cs = none) : p.padded.run cs = none := by
  simp only [padded, skipGapStops start, h, Option.map_none]

theorem paddedSkip (start : Stops isGap cs) (h : p.run cs = some (a, mid)) :
    p.padded.run cs = some (a, skipGap mid) := by
  simp only [padded, skipGapStops start, h, Option.map_some]

theorem wordFound {w : String} {u : Unit} (h : (word w).run cs = some (u, rest)) :
    cs = w.toList ++ rest := by
  cases e : w.toList with
  | nil => simp [word, e] at h
  | cons first more =>
    simp only [word, e, Option.map_eq_some_iff] at h
    obtain ⟨r, found, same⟩ := h
    cases same
    exact afterStartSome.mp found

theorem mapFound {f : α → β} (h : (p.map f).run cs = some (b, rest)) :
    ∃ a, p.run cs = some (a, rest) ∧ f a = b := by
  obtain ⟨⟨a, r⟩, found, same⟩ := Option.map_eq_some_iff.mp h
  cases same
  exact ⟨a, found, rfl⟩

theorem eitherFound {p q : Parser c α} (h : (p.either q).run cs = some (a, rest)) :
    p.run cs = some (a, rest) ∨ q.run cs = some (a, rest) := by
  simp only [either] at h
  split at h
  · rename_i found
    exact Or.inl (found.trans h)
  · exact Or.inr h

theorem charFound {x : Char} {u : Unit} (h : (char x).run cs = some (u, rest)) :
    cs = x :: rest := by
  cases cs with
  | nil => cases h
  | cons y ys =>
    simp only [char] at h
    split at h
    · rename_i same
      cases h
      rw [same]
    · cases h

theorem oneFound {ok : Char → Bool} {x : Char} (h : (one ok).run cs = some (x, rest)) :
    cs = x :: rest ∧ ok x = true := by
  cases cs with
  | nil => cases h
  | cons y ys =>
    simp only [one] at h
    split at h
    · rename_i is
      cases h
      exact ⟨rfl, is⟩
    · cases h

theorem spanFound {ok : Char → Bool} {w : List Char} (h : (span ok).run cs = some (w, rest)) :
    cs = w ++ rest ∧ (∀ c ∈ w, ok c = true) ∧ Stops ok rest := by
  cases h
  exact ⟨List.takeWhile_append_dropWhile.symm, takeWhileAll ok cs, dropWhileStop ok cs⟩

theorem span1Found {ok : Char → Bool} {w : List Char} (h : (span1 ok).run cs = some (w, rest)) :
    cs = w ++ rest ∧ w ≠ [] ∧ (∀ c ∈ w, ok c = true) ∧ Stops ok rest := by
  cases cs with
  | nil => cases h
  | cons c cs =>
    simp only [span1] at h
    split at h
    · rename_i first
      have more : (span ok).run cs = some (cs.takeWhile ok, cs.dropWhile ok) := rfl
      obtain ⟨same, all, stop⟩ := spanFound more
      cases h
      exact ⟨congrArg (c :: ·) same, by simp, List.forall_mem_cons.mpr ⟨first, all⟩, stop⟩
    · cases h

theorem providedFound {ok : α → List Char → Bool} (h : (p.provided ok).run cs = some (a, rest)) :
    p.run cs = some (a, rest) ∧ ok a rest = true := Option.filter_eq_some_iff.mp h

theorem andThenFound (h : (p.andThen q).run cs = some ((a, b), rest)) :
    ∃ mid, p.run cs = some (a, mid) ∧ q.run mid = some (b, rest) := by
  simp only [andThen] at h
  split at h
  · cases h
  · rename_i mid first
    obtain ⟨⟨_, _⟩, second, same⟩ := Option.map_eq_some_iff.mp h
    cases same
    exact ⟨mid, first, second⟩

theorem thenSkipFound (h : (p.thenSkip q).run cs = some (a, rest)) :
    ∃ b mid, p.run cs = some (a, mid) ∧ q.run mid = some (b, rest) := by
  obtain ⟨⟨_, b⟩, both, rfl⟩ := mapFound h
  exact ⟨b, andThenFound both⟩

theorem skipThenFound (h : (p.skipThen q).run cs = some (b, rest)) :
    ∃ a mid, p.run cs = some (a, mid) ∧ q.run mid = some (b, rest) := by
  obtain ⟨⟨a, _⟩, both, rfl⟩ := mapFound h
  exact ⟨a, andThenFound both⟩

theorem optionalFound {found : Option α} (h : p.optional.run cs = some (found, rest)) :
    (∃ a, found = some a ∧ p.run cs = some (a, rest)) ∨ found = none ∧ rest = cs := by
  simp only [optional] at h
  split at h
  · rename_i first
    cases h
    exact Or.inl ⟨_, rfl, first⟩
  · cases h
    exact Or.inr ⟨rfl, rfl⟩

theorem paddedFound (h : p.padded.run cs = some (a, rest)) :
    ∃ mid, p.run (skipGap cs) = some (a, mid) ∧ rest = skipGap mid := by
  obtain ⟨⟨_, mid⟩, found, same⟩ := Option.map_eq_some_iff.mp h
  cases same
  exact ⟨mid, found, rfl⟩

theorem manyFound {p : Parser true α} {as : List α} (h : p.many.run cs = some (as, rest)) :
    as = [] ∧ rest = cs ∨
      ∃ a more mid, as = a :: more ∧ p.run cs = some (a, mid) ∧
        p.many.run mid = some (more, rest) := by
  simp only [many] at h
  rw [manyFrom] at h
  split at h
  · cases h
    exact Or.inl ⟨rfl, rfl⟩
  · rename_i a mid first
    cases h
    exact Or.inr ⟨a, _, mid, rfl, first, rfl⟩

theorem separatedFound {p : Parser true α} {separator : Parser true β} {as : List α}
    (h : (p.separated separator).run cs = some (as, rest)) :
    as = [] ∧ rest = cs ∨ ∃ a more mid, as = a :: more ∧ p.run cs = some (a, mid) ∧
      (separator.skipThen p).many.run mid = some (more, rest) := by
  obtain ⟨found, first, rfl⟩ := mapFound h
  rcases optionalFound first with ⟨⟨a, more⟩, rfl, both⟩ | ⟨rfl, same⟩
  · obtain ⟨mid, first, others⟩ := andThenFound both
    exact Or.inr ⟨a, more, mid, rfl, first, others⟩
  · exact Or.inl ⟨rfl, same⟩

end Parser

end ElementLocator.Text
