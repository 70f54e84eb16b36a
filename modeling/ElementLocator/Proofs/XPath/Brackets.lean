import ElementLocator.Locator.Hint
import ElementLocator.Proofs.XPath.Nesting
/-! The brackets and quotes of a source that is read. The scan before the grammar knows nothing of
expressions, yet behind every part that the grammar reads it stands as it stood before. -/
namespace ElementLocator.XPath
open ElementLocator.Text

structure Scan.Level (s t : Scan) : Prop where
  brackets : s.brackets = t.brackets
  quote : s.quote = t.quote
  opened : s.opened = t.opened

def Resumes (cs rest : List Char) : Prop :=
  ∀ (behind : List Char) (s : Scan), s.quote = none →
    ∃ t : Scan, s.run (cs ++ behind) = t.run (rest ++ behind) ∧ t.Level s

variable {c : Char} {cs mid rest w g : List Char} {e : Expr} {source : String}

theorem levelTrans {s t u : Scan} (first : s.Level t) (second : t.Level u) : s.Level u :=
  ⟨first.brackets.trans second.brackets, first.quote.trans second.quote,
    first.opened.trans second.opened⟩

theorem resumesNothing (rest : List Char) : Resumes rest rest :=
  fun _ s _ => ⟨s, rfl, rfl, rfl, rfl⟩

theorem resumesBoth (first : Resumes cs mid) (second : Resumes mid rest) : Resumes cs rest := by
  intro behind s quote
  obtain ⟨t, run, level⟩ := first behind s quote
  obtain ⟨u, others, further⟩ := second behind t (level.quote.trans quote)
  exact ⟨u, run.trans others, levelTrans further level⟩

theorem resumesLonger (h : Resumes cs rest) (g : List Char) : Resumes (cs ++ g) (rest ++ g) := by
  intro behind
  rw [List.append_assoc, List.append_assoc]
  exact h (g ++ behind)

theorem resumesMark (noQuote : isQuote c = false) (noBracket : c ≠ '[' ∧ c ≠ ']')
    (rest : List Char) : Resumes (c :: rest) rest := by
  intro behind s quote
  rw [List.cons_append, Scan.run, quote]
  simp only
  split
  · exact ⟨{ s with word := c :: s.word, quote := none }, rfl, rfl, quote.symm, rfl⟩
  · have plain : s.endWord.punctuation c (c :: (rest ++ behind)) = s.endWord := by
      simp only [isQuote, Bool.or_eq_false_iff, decide_eq_false_iff_not] at noQuote
      simp [Scan.punctuation, noQuote, noBracket]
    exact ⟨s.endWord, by rw [plain], rfl, rfl, rfl⟩

theorem resumesSpan (plain : Unnested w) (rest : List Char) : Resumes (w ++ rest) rest := by
  induction w with
  | nil => exact resumesNothing rest
  | cons c w ih =>
    obtain ⟨here, others⟩ := Bool.and_eq_true_iff.mp (List.all_cons.symm.trans plain)
    rw [Bool.and_eq_true, Bool.not_eq_true', Bool.not_eq_true'] at here
    have noBracket : c ≠ '[' ∧ c ≠ ']' := by
      constructor <;> (rintro rfl; cases here.1)
    exact resumesBoth (resumesMark here.2 noBracket (w ++ rest)) (ih others)

theorem resumesQuoted (mark : c = '\'' ∨ c = '"') (inside : ∀ x ∈ w, x ≠ c) (rest : List Char) :
    Resumes (c :: (w ++ c :: rest)) rest := by
  intro behind s quote
  have noPart : isWordPart c = false := by rcases mark with rfl | rfl <;> decide
  have opened : s.run (c :: (w ++ c :: (rest ++ behind))) =
      { s.endWord with quote := some c }.run (w ++ c :: (rest ++ behind)) := by
    simp [Scan.run, quote, noPart, Scan.punctuation, mark.symm]
  rw [List.cons_append, List.append_assoc, List.cons_append, opened, runQuoted rfl inside]
  exact ⟨_, rfl, rfl, quote.symm, rfl⟩

/- The text from the bracket on is kept while it is open, and let go where it closes. -/
theorem resumesBrackets (content : Resumes cs (']' :: rest)) : Resumes ('[' :: cs) rest := by
  intro behind s quote
  let inside : Scan :=
    { s.endWord with brackets := s.brackets + 1, opened := ('[' :: (cs ++ behind)) :: s.opened }
  have opened : s.run ('[' :: (cs ++ behind)) = inside.run (cs ++ behind) := by
    rw [Scan.run, quote]
    simp [show isWordPart '[' = false by decide, Scan.punctuation, Scan.endWord, inside]
  obtain ⟨t, run, level⟩ := content behind inside quote
  have closed : t.run (']' :: (rest ++ behind)) =
      { t.endWord with brackets := t.brackets - 1, opened := t.opened.tail }.run
        (rest ++ behind) := by
    rw [Scan.run, level.quote.trans quote]
    simp [show isWordPart ']' = false by decide, Scan.punctuation, Scan.endWord]
  refine ⟨_, opened.trans (run.trans closed), ?_, level.quote, ?_⟩
  · simp [level.brackets, inside]
  · simp [level.opened, inside]

theorem resumesParentheses (content : Resumes cs (')' :: rest)) : Resumes ('(' :: cs) rest :=
  resumesBoth (resumesMark rfl (by decide) cs)
    (resumesBoth content (resumesMark rfl (by decide) rest))

theorem testResumes {test : NodeTest} (h : DerivesTest cs test rest) : Resumes cs rest := by
  cases h with
  | any rest => exact resumesMark rfl (by decide) rest
  | name isName => exact resumesSpan (nameUnnested isName) rest
  | kind k gaps inside rest =>
    exact resumesBoth (resumesSpan (kindUnnested k) _) (resumesBoth
      (resumesSpan (gapsUnnested gaps) _) (resumesParentheses
        (resumesSpan (gapsUnnested inside) _)))

theorem bracketsFollow : Follows (fun cs _ rest => Resumes cs rest)
    (fun cs _ rest => Resumes cs rest) (fun cs _ rest => Resumes cs rest) where
  before gaps body := resumesBoth (resumesSpan (gapsUnnested gaps) _) body
  after gaps body := resumesBoth body (resumesSpan (gapsUnnested gaps) _)
  number spelled rest := resumesSpan (numberUnnested spelled) rest
  literal quote inside rest := resumesQuoted quote inside rest
  root descendant rest := resumesSpan (strokesUnnested descendant) rest
  absolute descendant _ body := resumesBoth (resumesSpan (strokesUnnested descendant) _) body
  binary _ _ left right :=
    resumesBoth left (resumesBoth (resumesSpan (symbolUnnested _) _) right)
  step axisText testText predicates := resumesBoth (resumesSpan (axisUnnested axisText) _)
    (resumesBoth (testResumes testText) predicates)
  parent rest := resumesSpan (w := ['.', '.']) rfl rest
  current rest := resumesSpan (w := ['.']) rfl rest
  call isName _ gaps args := resumesBoth (resumesSpan (nameUnnested isName) _)
    (resumesBoth (resumesSpan (gapsUnnested gaps) _) (resumesParentheses args))
  group body := resumesParentheses body
  filtered _ base predicates := resumesBoth (resumesParentheses base) predicates
  noPredicate gaps rest := resumesSpan (gapsUnnested gaps) rest
  predicate gaps first others := resumesBoth (resumesSpan (gapsUnnested gaps) _)
    (resumesBoth (resumesBrackets first) others)
  noArg gaps rest := resumesSpan (gapsUnnested gaps) rest
  oneArg only := only
  arg first others := resumesBoth first (resumesBoth (resumesMark rfl (by decide) _) others)

theorem parsedResumes (parsed : parse source = .ok e) : Resumes source.toList [] := by
  obtain ⟨front, back, parts, before, behind⟩ := trimParts source.toList
  have blank {g : List Char} (all : ∀ c ∈ g, isBlank c = true) : Unnested g :=
    unnestedClass all (by decide)
  have body : Resumes (trim source.toList) [] :=
    derivations bracketsFollow (parsedDerives parsed).2
  have ending : Resumes back [] := by simpa using resumesSpan (blank behind) []
  rw [parts]
  exact resumesBoth (resumesSpan (blank before) _) (resumesBoth (resumesLonger body back) ending)

theorem scannedLevel (parsed : parse source = .ok e) :
    (scan source.toList).Level ⟨0, none, [], [], []⟩ := by
  obtain ⟨t, run, level⟩ := parsedResumes parsed [] ⟨0, none, [], [], []⟩ rfl
  rw [List.append_nil] at run
  rw [scan, run]
  exact ⟨level.brackets, level.quote, level.opened⟩

theorem bracketsBalanced (parsed : parse source = .ok e) :
    (scan source.toList).brackets = 0 ∧
      (scan source.toList).openPredicate? source.toList = none ∧
      .openBracket ∉ problems source ∧ (∀ rest, .openPredicate rest ∉ problems source) ∧
      .balanceBrackets ∉ Locator.hints (.xpath source) := by
  obtain ⟨brackets, quote, _⟩ := scannedLevel parsed
  have closed : (scan source.toList).openPredicate? source.toList = none := by
    simp [Scan.openPredicate?, quote]
  have found : problems source =
      (if startsWithStrokes source.toList then [] else [.noLeadingStrokes]) ++
        (scan source.toList).operators.eraseDups.map .logicalOperator := by
    rw [parsedProblems parsed, scanProblems]
    simp [closed, brackets]
  refine ⟨brackets, closed, ?_, ?_, ?_⟩
  · rw [found]
    split <;> simp
  · intro rest
    rw [found]
    split <;> simp
  · have even : ¬ (scan source.toList).brackets ≠ 0 := not_not_intro brackets
    simp only [Locator.hints, hints, if_neg even]
    split <;> split <;> simp

theorem quotedBracketsBalanced :
    let source := " //*[@text = \"it's ]\"]['[' != @x]/node( ) "
    let e : Expr := .absolute true (.binary
      (.step none .any [
        .binary (.step (some .attribute) (.name "text") []) .equal (.literal "it's ]"),
        .binary (.literal "[") .unequal (.step (some .attribute) (.name "x") [])])
      .path (.step none (.kind .node) []))
    parse source = .ok e ∧ (scan source.toList).brackets = 0 ∧ .openBracket ∉ problems source ∧
      .balanceBrackets ∉ Locator.hints (.xpath source) ∧ .openBracket ∈ problems "//*['['" := by
  intro source e
  have parsed : parse source = .ok e := by
    simp only [source, e]
    with_unfolding_all rfl
  obtain ⟨brackets, _, noProblem, _, noHint⟩ := bracketsBalanced parsed
  have unclosed : scanProblems "//*['['".toList = [.openBracket] := by with_unfolding_all rfl
  refine ⟨parsed, brackets, noProblem, noHint, ?_⟩
  rw [problems, unclosed]
  exact List.mem_singleton.mpr rfl

end ElementLocator.XPath
