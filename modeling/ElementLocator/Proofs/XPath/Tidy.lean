import ElementLocator.Proofs.XPath.Reading
import ElementLocator.XPath.Check
/-! Text whose brackets and quotes close and whose words are no logical operators. Such text passes
the scan before the grammar, and it is refused only if its brackets lie too deep. -/
namespace ElementLocator.XPath
open ElementLocator.Text

def isGroup (c : Char) : Bool := c = '[' || c = '(' || c = ']' || c = ')'

def isQuote (c : Char) : Bool := c = '"' || c = '\''

inductive Tidy : Nat → List Char → Prop where
  | nil {k : Nat} : Tidy k []
  | word {k : Nat} {c : Char} {w rest : List Char} (parts : ∀ x ∈ c :: w, isWordPart x = true)
      (noOperator : operatorOf (c :: w).reverse = []) (stop : Stops isWordPart rest)
      (more : Tidy k rest) : Tidy k (c :: (w ++ rest))
  | mark {k : Nat} {c : Char} {rest : List Char} (noPart : isWordPart c = false)
      (noGroup : isGroup c = false) (noQuote : isQuote c = false) (more : Tidy k rest) :
      Tidy k (c :: rest)
  | quoted {k : Nat} {c : Char} {w rest : List Char} (quote : isQuote c = true)
      (inside : ∀ x ∈ w, x ≠ c) (more : Tidy k rest) : Tidy k (c :: (w ++ c :: rest))
  | brackets {k : Nat} {inner rest : List Char} (content : Tidy k inner)
      (more : Tidy (k + 1) rest) : Tidy (k + 1) ('[' :: (inner ++ ']' :: rest))
  | parentheses {k : Nat} {inner rest : List Char} (content : Tidy k inner)
      (more : Tidy (k + 1) rest) : Tidy (k + 1) ('(' :: (inner ++ ')' :: rest))

variable {k limit depth : Nat} {w rest : List Char} {c : Char} {s : Scan}

theorem withinQuoted {mark : Char} (inside : ∀ x ∈ w, x ≠ mark) (rest : List Char) :
    withinNesting limit depth (some mark) (w ++ mark :: rest) =
      withinNesting limit depth none rest := by
  induction w with
  | nil => simp [withinNesting]
  | cons x w ih =>
    have other : x ≠ mark := inside x (by simp)
    simp only [List.cons_append, withinNesting, if_neg other]
    exact ih fun y hy => inside y (by simp [hy])

theorem withinPlain (noGroup : isGroup c = false) (noQuote : isQuote c = false)
    (rest : List Char) : withinNesting limit depth none (c :: rest) =
      withinNesting limit depth none rest := by
  simp only [isGroup, isQuote, Bool.or_eq_false_iff, decide_eq_false_iff_not] at noGroup noQuote
  simp [withinNesting, noGroup, noQuote]

theorem partIsPlain (h : isWordPart c = true) : isGroup c = false ∧ isQuote c = false := by
  have other (x : Char) (hx : isWordPart x = false) : decide (c = x) = false := by
    apply decide_eq_false
    rintro rfl
    rw [hx] at h
    cases h
  simp [isGroup, isQuote, other '[' rfl, other '(' rfl, other ']' rfl,
    other ')' rfl, other '"' rfl, other '\'' rfl]

theorem withinWord (parts : ∀ x ∈ w, isWordPart x = true) (rest : List Char) :
    withinNesting limit depth none (w ++ rest) = withinNesting limit depth none rest := by
  induction w with
  | nil => rfl
  | cons x w ih =>
    have plain := partIsPlain (parts x (by simp))
    rw [List.cons_append, withinPlain plain.1 plain.2]
    exact ih fun y hy => parts y (by simp [hy])

theorem tidyWithin (h : Tidy k w) (room : depth + k ≤ limit) (rest : List Char) :
    withinNesting limit depth none (w ++ rest) = withinNesting limit depth none rest := by
  induction h generalizing depth rest with
  | nil => rfl
  | word parts _ _ _ ih =>
    rw [← List.cons_append, List.append_assoc, withinWord parts]
    exact ih room rest
  | mark _ noGroup noQuote _ ih =>
    rw [List.cons_append, withinPlain noGroup noQuote]
    exact ih room rest
  | @quoted _ c w more quote inside _ ih =>
    have isMark : c = '"' ∨ c = '\'' := by simpa [isQuote] using quote
    rw [List.cons_append, List.append_assoc, withinNesting, if_pos isMark, List.cons_append,
      withinQuoted inside]
    exact ih room rest
  | @brackets k inner more _ _ content ih =>
    have deeper : depth < limit := by omega
    have closed : withinNesting limit (depth + 1) none (']' :: (more ++ rest)) =
        withinNesting limit depth none (more ++ rest) := by simp [withinNesting]
    have opened : withinNesting limit depth none ('[' :: (inner ++ ']' :: (more ++ rest))) =
        withinNesting limit (depth + 1) none (inner ++ ']' :: (more ++ rest)) := by
      simp [withinNesting, deeper]
    rw [List.cons_append, List.append_assoc, List.cons_append, opened, content (by omega), closed]
    exact ih room rest
  | @parentheses k inner more _ _ content ih =>
    have deeper : depth < limit := by omega
    have closed : withinNesting limit (depth + 1) none (')' :: (more ++ rest)) =
        withinNesting limit depth none (more ++ rest) := by simp [withinNesting]
    have opened : withinNesting limit depth none ('(' :: (inner ++ ')' :: (more ++ rest))) =
        withinNesting limit (depth + 1) none (inner ++ ')' :: (more ++ rest)) := by
      simp [withinNesting, deeper]
    rw [List.cons_append, List.append_assoc, List.cons_append, opened, content (by omega), closed]
    exact ih room rest

/- The scan. A word is still open where tidy text ends, so what comes next must end it. -/

theorem runWord (quote : s.quote = none) (parts : ∀ x ∈ w, isWordPart x = true)
    (rest : List Char) : s.run (w ++ rest) = { s with word := w.reverse ++ s.word }.run rest := by
  induction w generalizing s with
  | nil => rfl
  | cons x w ih =>
    have step : s.run (x :: (w ++ rest)) = { s with word := x :: s.word }.run (w ++ rest) := by
      simp [Scan.run, quote, parts x (by simp)]
    rw [List.cons_append, step]
    have more := ih (s := { s with word := x :: s.word }) quote fun y hy => parts y (by simp [hy])
    rw [more]
    simp

theorem endWordQuiet (h : operatorOf s.word = []) : s.endWord = { s with word := [] } := by
  simp [Scan.endWord, h]

theorem runMark (quote : s.quote = none) (word : operatorOf s.word = [])
    (noPart : isWordPart c = false) (rest : List Char) :
    s.run (c :: rest) = ({ s with word := [] }.punctuation c (c :: rest)).run rest := by
  simp [Scan.run, quote, noPart, endWordQuiet word]

theorem runPlain (quote : s.quote = none) (word : operatorOf s.word = [])
    (noPart : isWordPart c = false) (noQuote : isQuote c = false) (noBracket : c ≠ '[' ∧ c ≠ ']')
    (rest : List Char) : s.run (c :: rest) = { s with word := [] }.run rest := by
  simp only [isQuote, Bool.or_eq_false_iff, decide_eq_false_iff_not] at noQuote
  rw [runMark quote word noPart]
  simp [Scan.punctuation, noQuote, noBracket]

def Scan.inside (s : Scan) (here : List Char) : Scan :=
  { s with word := [], brackets := s.brackets + 1, opened := here :: s.opened }

theorem runOpening (quote : s.quote = none) (word : operatorOf s.word = []) (rest : List Char) :
    s.run ('[' :: rest) = (s.inside ('[' :: rest)).run rest := by
  rw [runMark quote word rfl]
  simp [Scan.punctuation, Scan.inside]

theorem runClosing {v : List Char} (quote : s.quote = none) (word : operatorOf v = [])
    (here rest : List Char) :
    ({ s.inside here with word := v } : Scan).run (']' :: rest) =
      { s with word := [] }.run rest := by
  have step := runMark (s := { s.inside here with word := v }) (c := ']') quote word rfl
    rest
  rw [step]
  simp [Scan.punctuation, Scan.inside]

theorem runQuoted {mark : Char} (quote : s.quote = some mark) (inside : ∀ x ∈ w, x ≠ mark)
    (rest : List Char) : s.run (w ++ mark :: rest) = { s with quote := none }.run rest := by
  induction w with
  | nil => simp [Scan.run, quote]
  | cons x w ih =>
    have other : x ≠ mark := inside x (by simp)
    have step : s.run (x :: (w ++ mark :: rest)) = s.run (w ++ mark :: rest) := by
      rw [Scan.run]
      simp [quote, other]
    rw [List.cons_append, step]
    exact ih fun y hy => inside y (by simp [hy])

theorem tidyScan (h : Tidy k w) (quote : s.quote = none) (word : operatorOf s.word = [])
    (start : s.word = [] ∨ Stops isWordPart w) (rest : List Char) :
    ∃ v, operatorOf v = [] ∧ s.run (w ++ rest) = { s with word := v }.run rest := by
  induction h generalizing s rest with
  | nil => exact ⟨s.word, word, rfl⟩
  | @word k c w more parts noOperator stop _ ih =>
    have empty : s.word = [] := by
      rcases start with empty | stops
      · exact empty
      · have part := parts c (by simp)
        rw [stopsHead stops] at part
        cases part
    obtain ⟨v, quiet, same⟩ := ih (s := { s with word := (c :: w).reverse }) quote noOperator
      (Or.inr stop) rest
    refine ⟨v, quiet, ?_⟩
    rw [← List.cons_append, List.append_assoc, runWord quote parts, empty, List.append_nil, same]
  | @mark k c more noPart noGroup noQuote _ ih =>
    have noBracket : c ≠ '[' ∧ c ≠ ']' := by
      constructor <;> (rintro rfl; cases noGroup)
    rw [List.cons_append, runPlain quote word noPart noQuote noBracket]
    exact ih (s := { s with word := [] }) quote rfl (Or.inl rfl) rest
  | @quoted k c w more isMark inside _ ih =>
    have mark : c = '"' ∨ c = '\'' := by simpa [isQuote] using isMark
    have noPart : isWordPart c = false := by rcases mark with rfl | rfl <;> decide
    have opened : ({ s with word := [] } : Scan).punctuation c (c :: (w ++ c :: (more ++ rest))) =
        { s with word := [], quote := some c } := by simp [Scan.punctuation, mark]
    have closed := runQuoted (s := { s with word := [], quote := some c }) rfl inside
      (more ++ rest)
    have before : ({ s with word := [], quote := none } : Scan) = { s with word := [] } := by
      simp [quote]
    rw [List.cons_append, List.append_assoc, List.cons_append, runMark quote word noPart, opened,
      closed, before]
    exact ih (s := { s with word := [] }) quote rfl (Or.inl rfl) rest
  | @brackets k inner more _ _ content ih =>
    have after : (inner ++ ']' :: more) ++ rest = inner ++ ']' :: (more ++ rest) := by simp
    rw [List.cons_append, after, runOpening quote word]
    obtain ⟨v, quiet, same⟩ := content
      (s := s.inside ('[' :: (inner ++ ']' :: (more ++ rest)))) quote rfl (Or.inl rfl)
      (']' :: (more ++ rest))
    rw [same, runClosing quote quiet]
    exact ih (s := { s with word := [] }) quote rfl (Or.inl rfl) rest
  | @parentheses k inner more _ _ content ih =>
    have after : (inner ++ ')' :: more) ++ rest = inner ++ ')' :: (more ++ rest) := by simp
    rw [List.cons_append, after, runPlain quote word (by decide) (by decide) (by decide)]
    obtain ⟨v, quiet, same⟩ := content (s := { s with word := [] }) quote rfl (Or.inl rfl)
      (')' :: (more ++ rest))
    rw [same, runPlain (s := { s with word := v }) quote quiet (by decide) (by decide) (by decide)]
    exact ih (s := { s with word := [] }) quote rfl (Or.inl rfl) rest

theorem tidyScanned (h : Tidy k w) : scan w = ⟨0, none, [], [], []⟩ := by
  obtain ⟨v, quiet, same⟩ := tidyScan (s := ⟨0, none, [], [], []⟩) h rfl rfl (Or.inl rfl) []
  rw [List.append_nil] at same
  rw [scan, same, Scan.run, endWordQuiet quiet]

theorem parsedProblems {source : String} {e : Expr} (parsed : parse source = .ok e) :
    problems source = scanProblems source.toList := by
  rw [problems, parsed]
  split
  · rename_i empty
    exact empty.symm
  · rfl

theorem tidyProblems (h : Tidy k w) (start : startsWithStrokes w = true) : scanProblems w = [] := by
  simp [scanProblems, tidyScanned h, start, Scan.openPredicate?]

end ElementLocator.XPath
