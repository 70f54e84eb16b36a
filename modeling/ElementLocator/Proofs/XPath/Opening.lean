import ElementLocator.Proofs.XPath.Nesting
/-! How many brackets and parentheses are open where the reader stands, as the scan counts them.
What a part of the grammar reads leaves the count as it was. -/
namespace ElementLocator.XPath
open ElementLocator.Text
open ElementLocator.Text.Parser

variable {α β : Type} {c d : Bool} {limit depth levels m n : Nat} {quote : Option Char}
  {w v cs mid rest : List Char} {start finish : Char}

def scanned : Nat → Option Char → List Char → Nat × Option Char
  | depth, quote, [] => (depth, quote)
  | depth, some mark, c :: cs => scanned depth (if c = mark then none else some mark) cs
  | depth, none, c :: cs =>
      if c = '"' ∨ c = '\'' then scanned depth (some c) cs
      else if c = '[' ∨ c = '(' then scanned (depth + 1) none cs
      else if c = ']' ∨ c = ')' then scanned (depth - 1) none cs
      else scanned depth none cs

theorem scannedAppend (w v : List Char) : scanned depth quote (w ++ v) =
    scanned (scanned depth quote w).1 (scanned depth quote w).2 v := by
  fun_induction scanned depth quote w with
  | case1 depth quote => rfl
  | case2 depth mark c cs ih => exact ih
  | case3 depth c cs mark ih => rw [List.cons_append, scanned, if_pos mark, ih]
  | case4 depth c cs noMark opening ih =>
    rw [List.cons_append, scanned, if_neg noMark, if_pos opening, ih]
  | case5 depth c cs noMark noOpening closing ih =>
    rw [List.cons_append, scanned, if_neg noMark, if_neg noOpening, if_pos closing, ih]
  | case6 depth c cs noMark noOpening noClosing ih =>
    rw [List.cons_append, scanned, if_neg noMark, if_neg noOpening, if_neg noClosing, ih]

theorem withinScanned (room : depth ≤ limit)
    (within : withinNesting limit depth quote (w ++ rest) = true) :
    (scanned depth quote w).1 ≤ limit ∧
      withinNesting limit (scanned depth quote w).1 (scanned depth quote w).2 rest = true := by
  fun_induction scanned depth quote w with
  | case1 depth quote => exact ⟨room, within⟩
  | case2 depth mark c cs ih => exact ih room within
  | case3 depth c cs mark ih =>
    rw [List.cons_append, withinNesting, if_pos mark] at within
    exact ih room within
  | case4 depth c cs noMark opening ih =>
    rw [List.cons_append, withinNesting, if_neg noMark, if_pos opening, Bool.and_eq_true,
      decide_eq_true_eq] at within
    exact ih within.1 within.2
  | case5 depth c cs noMark noOpening closing ih =>
    rw [List.cons_append, withinNesting, if_neg noMark, if_neg noOpening, if_pos closing] at within
    exact ih (by omega) within
  | case6 depth c cs noMark noOpening noClosing ih =>
    rw [List.cons_append, withinNesting, if_neg noMark, if_neg noOpening,
      if_neg noClosing] at within
    exact ih room within

def Opens (levels : Nat) (w : List Char) : Prop :=
  ∀ depth, scanned depth none w = (depth + levels, none)

theorem opensNothing : Opens 0 [] := fun _ => rfl

theorem opensBoth (first : Opens m w) (second : Opens n v) : Opens (m + n) (w ++ v) := by
  intro depth
  rw [scannedAppend, first, second, Nat.add_assoc]

theorem opensPlain (plain : Unnested w) : Opens 0 w := by
  intro depth
  induction w with
  | nil => rfl
  | cons c w ih =>
    obtain ⟨here, others⟩ := Bool.and_eq_true_iff.mp (List.all_cons.symm.trans plain)
    simp only [isGroup, isQuote, Bool.and_eq_true, Bool.not_eq_true', Bool.or_eq_false_iff,
      decide_eq_false_iff_not] at here
    rw [scanned]
    simpa [here] using ih others

theorem opensStart (opening : start = '[' ∨ start = '(') : Opens 1 [start] := by
  intro depth
  rcases opening with rfl | rfl <;> rfl

theorem opensFinish (closing : finish = ']' ∨ finish = ')') (inside : Opens 1 w) :
    Opens 0 (w ++ [finish]) := by
  intro depth
  rw [scannedAppend, inside]
  rcases closing with rfl | rfl <;> rfl

theorem opensLiteral {mark : Char} (quote : mark = '\'' ∨ mark = '"')
    (inside : ∀ c ∈ w, c ≠ mark) : Opens 0 (mark :: (w ++ [mark])) := by
  intro depth
  rw [scanned, if_pos quote.symm]
  induction w with
  | nil => simp [scanned]
  | cons x w ih =>
    obtain ⟨other, others⟩ := List.forall_mem_cons.mp inside
    rw [List.cons_append, scanned, if_neg other]
    exact ih others

def Deeper (levels : Nat) (cs rest : List Char) : Prop :=
  ∃ w, cs = w ++ rest ∧ Opens levels w

theorem deeperNot (cs : List Char) : Deeper 0 cs cs := ⟨[], rfl, opensNothing⟩

theorem deeperTrans (first : Deeper m cs mid) (second : Deeper n mid rest) :
    Deeper (m + n) cs rest := by
  obtain ⟨w, rfl, opens⟩ := first
  obtain ⟨v, rfl, further⟩ := second
  exact ⟨w ++ v, (List.append_assoc w v rest).symm, opensBoth opens further⟩

theorem deeperAfter (first : Deeper 0 cs mid) (second : Deeper n mid rest) : Deeper n cs rest := by
  have both := deeperTrans first second
  rwa [Nat.zero_add] at both

theorem deeperBefore (first : Deeper n cs mid) (second : Deeper 0 mid rest) : Deeper n cs rest :=
  deeperTrans first second

theorem deeperPlain (plain : Unnested w) (rest : List Char) : Deeper 0 (w ++ rest) rest :=
  ⟨w, rfl, opensPlain plain⟩

theorem deeperGaps (cs : List Char) : Deeper 0 cs (skipGap cs) := by
  obtain ⟨g, gaps, same⟩ := gapsBefore cs
  exact ⟨g, same, opensPlain (gapsUnnested gaps)⟩

theorem deeperStart (opening : start = '[' ∨ start = '(') (rest : List Char) :
    Deeper 1 (start :: rest) rest := ⟨[start], rfl, opensStart opening⟩

theorem deeperFinish (closing : finish = ']' ∨ finish = ')')
    (inside : Deeper 1 cs (finish :: rest)) : Deeper 0 cs rest := by
  obtain ⟨w, rfl, opens⟩ := inside
  exact ⟨w ++ [finish], by simp, opensFinish closing opens⟩

def Settled (p : Parser c α) : Prop :=
  ∀ ⦃cs a rest⦄, p.run cs = some (a, rest) → Deeper 0 cs rest

theorem mapSettled {p : Parser c α} (f : α → β) (settled : Settled p) : Settled (p.map f) := by
  intro cs b rest h
  obtain ⟨a, found, _⟩ := mapFound h
  exact settled found

theorem eitherSettled {p q : Parser c α} (one : Settled p) (other : Settled q) :
    Settled (p.either q) := by
  intro cs a rest h
  rcases eitherFound h with h | h
  · exact one h
  · exact other h

theorem andThenSettled {p : Parser c α} {q : Parser d β} (first : Settled p)
    (second : Settled q) : Settled (p.andThen q) := by
  rintro cs ⟨a, b⟩ rest h
  obtain ⟨mid, one, other⟩ := andThenFound h
  exact deeperAfter (first one) (second other)

theorem optionalSettled {p : Parser c α} (settled : Settled p) : Settled p.optional := by
  intro cs found rest h
  rcases optionalFound h with ⟨a, rfl, found⟩ | ⟨rfl, rfl⟩
  · exact settled found
  · exact deeperNot rest

theorem manySettled {p : Parser true α} (settled : Settled p) : Settled p.many := by
  intro cs as rest h
  induction as generalizing cs with
  | nil =>
    rcases manyFound h with ⟨_, rfl⟩ | ⟨_, _, _, same, _⟩
    · exact deeperNot rest
    · cases same
  | cons a as ih =>
    rcases manyFound h with ⟨same, _⟩ | ⟨_, _, mid, same, next, others⟩
    · cases same
    · cases same
      exact deeperAfter (settled next) (ih others)

theorem paddedSettled {p : Parser c α} (settled : Settled p) : Settled p.padded := by
  intro cs a rest h
  obtain ⟨mid, found, rfl⟩ := paddedFound h
  exact deeperAfter (deeperGaps cs) (deeperAfter (settled found) (deeperGaps mid))

theorem charSettled {x : Char} (plain : Unnested [x]) : Settled (char x) := by
  intro cs _ rest h
  rw [charFound h]
  exact deeperPlain plain rest

theorem wordSettled {s : String} (plain : Unnested s.toList) : Settled (word s) := by
  intro cs _ rest h
  rw [wordFound h]
  exact deeperPlain plain rest

theorem digitsSettled : Settled (span1 isDigit) := by
  intro cs _ rest h
  obtain ⟨rfl, _, digits, _⟩ := span1Found h
  exact deeperPlain (digitsUnnested digits) rest

theorem numberSettled : Settled number :=
  mapSettled _ (andThenSettled digitsSettled
    (optionalSettled (mapSettled _ (andThenSettled (charSettled rfl) digitsSettled))))

theorem quotedBySettled {mark : Char} (quote : mark = '\'' ∨ mark = '"') :
    Settled (quotedBy mark) := by
  intro cs e rest h
  obtain ⟨w, found, rfl⟩ := mapFound h
  obtain ⟨_, mid, front, closing⟩ := thenSkipFound found
  obtain ⟨_, start, opening, inside⟩ := skipThenFound front
  obtain ⟨rfl, all, _⟩ := spanFound inside
  rw [charFound opening, charFound closing]
  exact ⟨mark :: (w ++ [mark]), by simp,
    opensLiteral quote fun c member => by simpa using all c member⟩

theorem nameSettled (ok : String → List Char → Bool) : Settled (name.provided ok) := by
  intro cs s rest h
  obtain ⟨found, _⟩ := providedFound h
  obtain ⟨w, rfl, isName, _⟩ := nameFound found
  exact deeperPlain (nameUnnested isName) rest

theorem axisSettled : Settled axis.optional := by
  intro cs found rest h
  obtain ⟨w, text, rfl⟩ := axisFound h
  exact deeperPlain (axisUnnested text) rest

theorem nodeTestSettled : Settled nodeTest := by
  intro cs test rest h
  cases nodeTestDerives h with
  | any => exact deeperPlain (w := ['*']) rfl rest
  | name isName => exact deeperPlain (nameUnnested isName) rest
  | kind k gaps inside =>
    refine deeperAfter (deeperPlain (kindUnnested k) _) (deeperAfter
      (deeperPlain (gapsUnnested gaps) _) (deeperFinish (Or.inr rfl) ?_))
    exact deeperBefore (deeperStart (Or.inr rfl) _) (deeperPlain (gapsUnnested inside) _)

theorem recognizedSettled {reader : Parser true Operator} {kind : Operator → Bool}
    (recognizes : Recognizes reader kind) : Settled reader := by
  intro cs op rest h
  obtain ⟨_, rfl, _⟩ := recognizes h
  exact deeperPlain (symbolUnnested op) rest

end ElementLocator.XPath
