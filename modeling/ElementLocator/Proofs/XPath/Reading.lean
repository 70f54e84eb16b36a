import ElementLocator.Proofs.Text.Letter
import ElementLocator.Proofs.Text.Parser
import ElementLocator.XPath.Grammar
/-! What the grammar of XPath reads: names, numbers and literals up to the character that ends
them, and an expression up to the bracket, parenthesis or comma after it. -/
namespace ElementLocator.XPath
open ElementLocator.Text
open ElementLocator.Text.Parser
open ElementLocator.Decimal (digits Magnitude)

variable {inner : Parser true Expr} {cs mid rest w : List Char} {e l r : Expr}

def Closes (rest : List Char) : Prop :=
  ∀ c ∈ rest.head?, c = ']' ∨ c = ')' ∨ c = ',' ∨ c = '['

theorem closesNil : Closes [] := by intro c hc; cases hc

theorem closesCons {c : Char} (h : c = ']' ∨ c = ')' ∨ c = ',' ∨ c = '[') (cs : List Char) :
    Closes (c :: cs) := by
  intro x hx
  cases hx
  exact h

theorem closesStops {ok : Char → Bool} (closes : Closes rest)
    (h : ok ']' = false ∧ ok ')' = false ∧ ok ',' = false ∧ ok '[' = false) : Stops ok rest := by
  intro c hc
  rcases closes c hc with rfl | rfl | rfl | rfl
  · exact h.1
  · exact h.2.1
  · exact h.2.2.1
  · exact h.2.2.2

theorem wordStops {v : String} {c : Char} {more : List Char} (start : v.toList = c :: more)
    (stop : Stops (· = c) cs) : (word v).run cs = none := by
  apply wordOther
  rintro ⟨rest, same⟩
  rw [start, List.cons_append] at same
  rw [← same] at stop
  simpa using stopsHead stop

theorem operatorStops {op : Operator} {c : Char} {more : List Char}
    (start : op.symbol.toList = c :: more) (stop : Stops (· = c) cs) :
    (operator op).run cs = none := mapOther _ (wordStops start stop)

theorem strokeStops (stop : Stops (· = '/') cs) : stroke.run cs = none := by
  unfold stroke
  rw [eitherSecond (operatorStops rfl stop)]
  exact operatorStops rfl stop

theorem strokeSingle (stop : Stops (· = '/') cs) : stroke.run ('/' :: cs) = some (.path, cs) := by
  have one : (operator .descendantPath).run ('/' :: cs) = none := by
    apply mapOther
    apply wordOther
    rintro ⟨rest, same⟩
    change '/' :: '/' :: rest = '/' :: cs at same
    obtain ⟨_, rfl⟩ := List.cons.inj same
    simpa using stopsHead stop
  unfold stroke
  rw [eitherSecond one]
  exact mapRead _ (wordRead (w := "/") (by decide) cs)

theorem strokeDouble (cs : List Char) :
    stroke.run ('/' :: '/' :: cs) = some (.descendantPath, cs) :=
  eitherFirst (mapRead _ (wordRead (w := "//") (by decide) cs))

theorem manyStrokesStop {step : Parser true Expr} (stop : Stops (· = '/') cs) :
    (stroke.andThen step).many.run cs = some ([], cs) :=
  manyStop (andThenOther (strokeStops stop))

theorem stepsStop {first : Parser true Expr} (h : first.run cs = none) :
    (steps inner first).run cs = none := by
  unfold steps
  exact mapOther _ (andThenOther h)

theorem stepsAlone {first : Parser true Expr} (h : first.run cs = some (e, rest))
    (stop : Stops (· = '/') rest) : (steps inner first).run cs = some (e, rest) := by
  unfold steps
  exact mapRead _ (andThenRead h (manyStrokesStop stop))

theorem partOfStart {c : Char} (h : isNameStart c = true) : isNamePart c = true := by
  simp only [isNameStart, Bool.or_eq_true, decide_eq_true_eq] at h
  rcases h with h | h <;> simp [isNamePart, isAlphanumeric, h]

theorem gapIsNoPart {c : Char} (h : isGap c = true) : isNamePart c = false := by
  simp only [isGap, Bool.or_eq_true, decide_eq_true_eq] at h
  rcases h with ((rfl | rfl) | rfl) | rfl <;> decide

def IsName (w : List Char) : Prop :=
  ∃ c cs, w = c :: cs ∧ isNameStart c = true ∧ ∀ x ∈ cs, isNamePart x = true

instance : (w : List Char) → Decidable (IsName w)
  | [] => isFalse (by rintro ⟨c, cs, same, _⟩; cases same)
  | c :: cs =>
      decidable_of_iff (isNameStart c = true ∧ cs.all isNamePart = true)
        ⟨fun h => ⟨c, cs, rfl, h.1, List.all_eq_true.mp h.2⟩, by
          rintro ⟨_, _, same, start, parts⟩
          cases same
          exact ⟨start, List.all_eq_true.mpr parts⟩⟩

theorem nameParts (h : IsName w) : ∀ c ∈ w, isNamePart c = true := by
  obtain ⟨c, cs, rfl, first, others⟩ := h
  intro x hx
  rcases List.mem_cons.mp hx with rfl | hx
  · exact partOfStart first
  · exact others x hx

theorem nameRead (h : IsName w) (stop : Stops isNamePart rest) :
    name.run (w ++ rest) = some (String.ofList w, rest) := by
  obtain ⟨c, cs, rfl, first, others⟩ := h
  unfold name
  exact mapRead _ (andThenRead (oneRead first _) (spanRead others stop))

theorem nameStops (stop : Stops isNameStart cs) : name.run cs = none :=
  mapOther _ (andThenOther (oneOther stop))

def kindWord : Parser true NodeKind :=
  let named (k : NodeKind) : Parser true NodeKind := (Parser.word k.name).map (fun _ => k)
  (named .text).either <| (named .node).either <| (named .comment).either (named .instruction)

theorem nodeKindParts :
    nodeKind = kindWord.thenSkip ((Parser.char '(').padded.thenSkip (Parser.char ')')) := rfl

theorem kindWordFound {k : NodeKind} (h : kindWord.run cs = some (k, rest)) :
    cs = k.name.toList ++ rest := by
  unfold kindWord at h
  rcases eitherFound h with h | h
  · obtain ⟨_, found, rfl⟩ := mapFound h
    exact wordFound found
  · rcases eitherFound h with h | h
    · obtain ⟨_, found, rfl⟩ := mapFound h
      exact wordFound found
    · rcases eitherFound h with h | h
      · obtain ⟨_, found, rfl⟩ := mapFound h
        exact wordFound found
      · obtain ⟨_, found, rfl⟩ := mapFound h
        exact wordFound found

theorem kindNameParts (k : NodeKind) : ∀ c ∈ k.name.toList, isNamePart c = true := by
  cases k <;> exact List.all_eq_true.mp rfl

theorem openingOther (h : opensNext cs = false) : (char '(').padded.run cs = none := by
  have other : Stops (· = '(') (skipGap cs) := by
    intro c hc
    simp only [opensNext, decide_eq_false_iff_not] at h
    rw [Option.mem_def] at hc
    rw [hc] at h
    simpa using h
  simp [padded, charOther other]

theorem opensNextStops {c : Char} (gap : isGap c = false) (other : c ≠ '(') :
    opensNext (c :: cs) = false := by
  simp [opensNext, skipGap, gap, other]

theorem behindWord {v : List Char} (parts : ∀ c ∈ w, isNamePart c = true)
    (stop : Stops isNamePart rest) (others : ∀ c ∈ v, isNamePart c = true)
    (whole : w ++ rest = v ++ mid) : mid = rest ∨ ∃ c cs, mid = c :: cs ∧ isNamePart c = true := by
  rcases List.append_eq_append_iff.mp whole with ⟨more, wordIs, restIs⟩ | ⟨more, wordIs, midIs⟩
  · cases more with
    | nil => exact Or.inl restIs.symm
    | cons c more =>
      rw [restIs] at stop
      have part := others c (by rw [wordIs]; simp)
      rw [stopsHead stop] at part
      cases part
  · cases more with
    | nil => exact Or.inl midIs
    | cons c more => exact Or.inr ⟨c, more ++ rest, midIs, parts c (by rw [wordIs]; simp)⟩

theorem partIsNoGap {c : Char} (part : isNamePart c = true) : isGap c = false := by
  cases gap : isGap c with
  | false => rfl
  | true => rw [gapIsNoPart gap] at part; cases part

theorem nodeKindOther (parts : ∀ c ∈ w, isNamePart c = true) (stop : Stops isNamePart rest)
    (shut : opensNext rest = false) : nodeKind.run (w ++ rest) = none := by
  rw [nodeKindParts]
  cases found : kindWord.run (w ++ rest) with
  | none => exact thenSkipOther found
  | some pair =>
    obtain ⟨k, mid⟩ := pair
    apply thenSkipBroken found
    apply thenSkipOther
    apply openingOther
    rcases behindWord parts stop (kindNameParts k) (kindWordFound found) with
      rfl | ⟨c, cs, rfl, part⟩
    · exact shut
    · exact opensNextStops (partIsNoGap part) (of_decide_eq_false (notSame part (by decide)))

theorem numberRead (n : Nat) (digit : Stops isDigit rest) (point : Stops (· = '.') rest) :
    number.run (digits n ++ rest) = some (.number ⟨false, Magnitude.ofDecimal n 0⟩, rest) := by
  have all : ∀ c ∈ digits n, isDigit c = true :=
    List.all_eq_true.mp (Decimal.digitsAllDigits n)
  have whole := span1Read (Decimal.digitsNonempty n) all digit
  have noFraction : ((Parser.char '.').skipThen (Parser.span1 isDigit)).optional.run rest =
      some (none, rest) := optionalNone (skipThenOther (charOther point))
  unfold number
  rw [mapRead _ (andThenRead whole noFraction)]
  simp [Decimal.valueOfDigits]

theorem numberStops (stop : Stops isDigit cs) : number.run cs = none :=
  mapOther _ (andThenOther (span1Other stop))

theorem quotedByRead {mark : Char} (inside : ∀ c ∈ w, c ≠ mark) (rest : List Char) :
    (quotedBy mark).run (mark :: (w ++ mark :: rest)) =
      some (.literal (String.ofList w), rest) := by
  have all : ∀ c ∈ w, (c != mark) = true := by
    intro c hc
    simpa using inside c hc
  have content : (Parser.span (· != mark)).run (w ++ mark :: rest) = some (w, mark :: rest) :=
    spanRead all (stopsCons (by simp) rest)
  exact mapRead _ (thenSkipRead (skipThenRead (charRead mark _) content) (charRead mark rest))

theorem quotedByStops {mark : Char} (stop : Stops (· = mark) cs) : (quotedBy mark).run cs = none :=
  mapOther _ (thenSkipOther (skipThenOther (charOther stop)))

theorem literalDouble (inside : ∀ c ∈ w, c ≠ '"') (rest : List Char) :
    literal.run ('"' :: (w ++ '"' :: rest)) = some (.literal (String.ofList w), rest) := by
  unfold literal
  rw [eitherSecond (quotedByStops (stopsCons rfl _))]
  exact quotedByRead inside rest

theorem literalSingle (inside : ∀ c ∈ w, c ≠ '\'') (rest : List Char) :
    literal.run ('\'' :: (w ++ '\'' :: rest)) = some (.literal (String.ofList w), rest) :=
  eitherFirst (quotedByRead inside rest)

theorem literalStops (single : Stops (· = '\'') cs) (double : Stops (· = '"') cs) :
    literal.run cs = none := by
  unfold literal
  rw [eitherSecond (quotedByStops single)]
  exact quotedByStops double

theorem predicateSkip (body : inner.run mid = some (e, ']' :: rest)) (start : Stops isGap mid) :
    (predicate inner).run ('[' :: mid) = some (e, skipGap rest) := by
  have opening := paddedRead (stopsCons rfl mid) (charRead '[' mid) start
  have closing := paddedSkip (stopsCons rfl rest) (charRead ']' rest)
  exact thenSkipRead (skipThenRead opening body) closing

theorem predicateRead (body : inner.run mid = some (e, ']' :: rest)) (start : Stops isGap mid)
    (stop : Stops isGap rest) : (predicate inner).run ('[' :: mid) = some (e, rest) := by
  rw [predicateSkip body start, skipGapStops stop]

theorem predicateStops (gap : Stops isGap cs) (stop : Stops (· = '[') cs) :
    (predicate inner).run cs = none :=
  thenSkipOther (skipThenOther (paddedOther gap (charOther stop)))

theorem predicatesStop (gap : Stops isGap cs) (stop : Stops (· = '[') cs) :
    (predicate inner).many.run cs = some ([], cs) := manyStop (predicateStops gap stop)

theorem stepParent (rest : List Char) :
    (step inner).run ('.' :: '.' :: rest) = some (.parent, rest) :=
  eitherFirst (mapRead _ (wordRead (w := "..") (by decide) rest))

theorem stepFull (stop : Stops (· = '.') cs) : (step inner).run cs = (fullStep inner).run cs := by
  unfold step
  rw [eitherSecond (mapOther _ (wordStops (v := "..") rfl stop)),
    eitherSecond (mapOther _ (wordStops (v := ".") rfl stop))]

theorem fullStepRead {axisFound : Option Axis} {test : NodeTest} {ps : List Expr}
    {afterAxis afterTest : List Char} (axisRun : axis.optional.run cs = some (axisFound, afterAxis))
    (testRun : nodeTest.run afterAxis = some (test, afterTest))
    (predicatesRun : (predicate inner).many.run afterTest = some (ps, rest)) :
    (fullStep inner).run cs = some (.step axisFound test ps, rest) := by
  unfold fullStep
  exact mapRead _ (andThenRead axisRun (andThenRead testRun predicatesRun))

theorem nodeTestAny (rest : List Char) : nodeTest.run ('*' :: rest) = some (.any, rest) :=
  eitherFirst (mapRead _ (charRead '*' rest))

theorem nodeTestName (isName : IsName w) (stop : Stops isNamePart rest)
    (shut : opensNext rest = false) :
    nodeTest.run (w ++ rest) = some (.name (String.ofList w), rest) := by
  have notAny : Stops (· = '*') (w ++ rest) := by
    obtain ⟨c, cs, rfl, first, _⟩ := isName
    apply stopsCons
    cases same : decide (c = '*') with
    | false => rfl
    | true =>
      rw [of_decide_eq_true same] at first
      exact absurd first (by decide)
  unfold nodeTest
  rw [eitherSecond (mapOther _ (charOther notAny)),
    eitherSecond (mapOther _ (nodeKindOther (nameParts isName) stop shut))]
  exact mapRead _ (nameRead isName stop)

theorem axisAt (cs : List Char) : axis.run ('@' :: cs) = some (.attribute, cs) :=
  eitherFirst (mapRead _ (charRead '@' cs))

theorem stepAttribute (isName : IsName w) (part : Stops isNamePart rest)
    (shut : opensNext rest = false) (gap : Stops isGap rest) (bracket : Stops (· = '[') rest) :
    (step inner).run ('@' :: (w ++ rest)) =
      some (.step (some .attribute) (.name (String.ofList w)) [], rest) := by
  rw [stepFull (stopsCons rfl _)]
  exact fullStepRead (optionalRead (axisAt _)) (nodeTestName isName part shut)
    (predicatesStop gap bracket)

theorem callSkip {args : List Expr} (isName : IsName w)
    (function : isKindName (String.ofList w) = false) (start : Stops isGap mid)
    (argsRun : (inner.separated (Parser.char ',').padded).run mid = some (args, ')' :: rest)) :
    (call inner).run (w ++ '(' :: mid) = some (.call (String.ofList w) args, skipGap rest) := by
  have part : Stops isNamePart ('(' :: mid) := stopsCons rfl mid
  have accepted : (opensNext ('(' :: mid) && !isKindName (String.ofList w)) = true := by
    simp [opensNext, skipGap, isGap, function]
  have nameRun : (name.provided fun s rest => opensNext rest && !isKindName s).run
      (w ++ '(' :: mid) = some (String.ofList w, '(' :: mid) :=
    providedRead (nameRead isName part) accepted
  have opening := paddedRead (stopsCons rfl mid) (charRead '(' mid) start
  have closing := paddedSkip (stopsCons rfl rest) (charRead ')' rest)
  unfold call
  exact mapRead _ (andThenRead nameRun (thenSkipRead (skipThenRead opening argsRun) closing))

theorem callRead {args : List Expr} (isName : IsName w)
    (function : isKindName (String.ofList w) = false)
    (start : Stops isGap mid)
    (argsRun : (inner.separated (Parser.char ',').padded).run mid = some (args, ')' :: rest))
    (stop : Stops isGap rest) :
    (call inner).run (w ++ '(' :: mid) = some (.call (String.ofList w) args, rest) := by
  rw [callSkip isName function start argsRun, skipGapStops stop]

theorem nextArgument (start : Stops isGap cs) (h : inner.run cs = some (e, rest)) :
    ((Parser.char ',').padded.skipThen inner).run (',' :: ' ' :: cs) = some (e, rest) := by
  have comma : (Parser.char ',').padded.run (',' :: ' ' :: cs) = some ((), skipGap (' ' :: cs)) :=
    paddedSkip (stopsCons rfl _) (charRead ',' _)
  have blank : skipGap (' ' :: cs) = cs := skipGapStops start
  rw [blank] at comma
  exact skipThenRead comma h

theorem noArgument (rest : List Char) :
    ((Parser.char ',').padded.skipThen inner).run (')' :: rest) = none :=
  skipThenOther (paddedOther (stopsCons rfl rest) (charOther (stopsCons rfl rest)))

theorem callStops (stop : Stops isNameStart cs) : (call inner).run cs = none := by
  unfold call
  exact mapOther _ (andThenOther (providedOther (nameStops stop)))

theorem parenthesizedStops (gap : Stops isGap cs) (stop : Stops (· = '(') cs) :
    (parenthesized inner).run cs = none := by
  unfold parenthesized
  exact mapOther _ (andThenOther (thenSkipOther (skipThenOther (paddedOther gap (charOther stop)))))

theorem primaryStops (digit : Stops isDigit cs) (single : Stops (· = '\'') cs)
    (double : Stops (· = '"') cs) (start : Stops isNameStart cs) (gap : Stops isGap cs)
    (paren : Stops (· = '(') cs) : (primary inner).run cs = none := by
  unfold primary
  rw [eitherSecond (numberStops digit), eitherSecond (literalStops single double),
    eitherSecond (callStops start)]
  exact parenthesizedStops gap paren

theorem primaryNumber (h : number.run cs = some (e, rest)) :
    (primary inner).run cs = some (e, rest) := eitherFirst h

theorem primaryLiteral (digit : Stops isDigit cs) (h : literal.run cs = some (e, rest)) :
    (primary inner).run cs = some (e, rest) := by
  unfold primary
  rw [eitherSecond (numberStops digit)]
  exact eitherFirst h

theorem digitIsNoStart {c : Char} (h : isDigit c = true) : isNameStart c = false := by
  simp only [isNameStart, digitNoLetter h, Bool.false_or, decide_eq_false_iff_not]
  rintro rfl
  cases h

theorem startIsNoOther {c : Char} (first : isNameStart c = true) :
    isDigit c = false ∧ c ≠ '\'' ∧ c ≠ '"' ∧ c ≠ '/' ∧ isGap c = false := by
  have noOther (x : Char) (h : isNameStart x = false) : c ≠ x := by
    rintro rfl
    rw [h] at first
    cases first
  refine ⟨?_, noOther '\'' rfl, noOther '"' rfl, noOther '/' rfl, ?_⟩
  · cases digit : isDigit c with
    | false => rfl
    | true => rw [digitIsNoStart digit] at first; cases first
  · cases gap : isGap c with
    | false => rfl
    | true => rw [← partOfStart first, gapIsNoPart gap]

theorem primaryCall (isName : IsName w) (h : (call inner).run (w ++ mid) = some (e, rest)) :
    (primary inner).run (w ++ mid) = some (e, rest) := by
  obtain ⟨c, cs, rfl, first, _⟩ := isName
  have other := startIsNoOther first
  rw [List.cons_append] at h ⊢
  unfold primary
  rw [eitherSecond (numberStops (stopsCons other.1 _)),
    eitherSecond (literalStops (stopsCons (by simpa using other.2.1) _)
      (stopsCons (by simpa using other.2.2.1) _))]
  exact eitherFirst h

theorem absoluteStops (stop : Stops (· = '/') cs) : (absolute inner).run cs = none := by
  unfold absolute
  exact mapOther _ (andThenOther (strokeStops stop))

theorem pathPrimary (gap : Stops isGap cs) (relative : Stops (· = '/') cs)
    (h : (primary inner).run cs = some (e, rest)) (alone : Stops (· = '/') rest)
    (stop : Stops isGap rest) : (path inner).run cs = some (e, rest) := by
  unfold path
  apply paddedRead gap _ stop
  rw [eitherSecond (absoluteStops relative)]
  exact eitherFirst (stepsAlone h alone)

theorem pathCall (isName : IsName w) (h : (call inner).run (w ++ mid) = some (e, rest))
    (alone : Stops (· = '/') rest) (stop : Stops isGap rest) :
    (path inner).run (w ++ mid) = some (e, rest) := by
  have body := primaryCall isName h
  obtain ⟨c, cs, rfl, first, _⟩ := isName
  have other := startIsNoOther first
  exact pathPrimary (stopsCons other.2.2.2.2 _) (stopsCons (by simpa using other.2.2.2.1) _) body
    alone stop

theorem pathAttribute (isName : IsName w) (part : Stops isNamePart rest)
    (shut : opensNext rest = false) (gap : Stops isGap rest)
    (other : Stops (fun c => c = '[' || c = '/') rest) :
    (path inner).run ('@' :: (w ++ rest)) =
      some (.step (some .attribute) (.name (String.ofList w)) [], rest) := by
  have bracket : Stops (· = '[') rest := by
    intro c hc
    simpa using (Bool.or_eq_false_iff.mp (other c hc)).1
  have stroke : Stops (· = '/') rest := by
    intro c hc
    simpa using (Bool.or_eq_false_iff.mp (other c hc)).2
  have at_ {ok : Char → Bool} (h : ok '@' = false) : Stops ok ('@' :: (w ++ rest)) :=
    stopsCons h _
  have noPrimary : (primary inner).run ('@' :: (w ++ rest)) = none :=
    primaryStops (at_ rfl) (at_ rfl) (at_ rfl) (at_ rfl)
      (at_ rfl) (at_ rfl)
  unfold path
  apply paddedRead (at_ rfl) _ gap
  rw [eitherSecond (absoluteStops (at_ rfl)),
    eitherSecond (stepsStop noPrimary)]
  exact stepsAlone (stepAttribute isName part shut gap bracket) stroke

theorem logicalStops {op : Operator} {c : Char} {more : List Char}
    (start : op.symbol.toList = c :: more) (gap : Stops isGap cs) (stop : Stops (· = c) cs) :
    (logical op).padded.run cs = none :=
  paddedOther gap (providedOther (operatorStops start stop))

theorem comparisonStops (gap : Stops isGap cs) (unequal : Stops (· = '!') cs)
    (equal : Stops (· = '=') cs) : comparison.padded.run cs = none := by
  apply paddedOther gap
  unfold comparison
  rw [eitherSecond (operatorStops rfl unequal)]
  exact operatorStops rfl equal

theorem comparisonEqual (gap : Stops isGap cs) :
    comparison.padded.run ('=' :: cs) = some (.equal, cs) := by
  apply paddedRead (stopsCons rfl cs) _ gap
  unfold comparison
  rw [eitherSecond (operatorStops rfl (stopsCons (by decide) cs))]
  exact mapRead _ (wordRead (w := "=") (by decide) cs)

theorem operatorsAlone {op : Parser true Operator} {operand : Parser true Expr}
    (h : operand.run cs = some (e, rest)) (stop : op.padded.run rest = none) :
    (operators op operand).run cs = some (e, rest) := by
  unfold operators
  exact mapRead _ (andThenRead h (manyStop (andThenOther stop)))

theorem operatorsPair {op : Parser true Operator} {operand : Parser true Expr} {o : Operator}
    {afterOp : List Char} (left : operand.run cs = some (l, mid))
    (opRun : op.padded.run mid = some (o, afterOp)) (right : operand.run afterOp = some (r, rest))
    (stop : op.padded.run rest = none) :
    (operators op operand).run cs = some (.binary l o r, rest) := by
  unfold operators
  exact mapRead _ (andThenRead left
    (manyStep (andThenRead opRun right) (manyStop (andThenOther stop))))

theorem closesNoLogical (closes : Closes rest) :
    (logical .or).padded.run rest = none ∧ (logical .and).padded.run rest = none :=
  ⟨logicalStops rfl (closesStops closes (by decide)) (closesStops closes (by decide)),
    logicalStops rfl (closesStops closes (by decide)) (closesStops closes (by decide))⟩

theorem closesNoComparison (closes : Closes rest) : comparison.padded.run rest = none :=
  comparisonStops (closesStops closes (by decide)) (closesStops closes (by decide))
    (closesStops closes (by decide))

theorem expressionPath (h : (path inner).run cs = some (e, rest)) (closes : Closes rest) :
    (expression inner).run cs = some (e, rest) :=
  operatorsAlone (operatorsAlone (operatorsAlone h (closesNoComparison closes))
    (closesNoLogical closes).2) (closesNoLogical closes).1

theorem expressionEqual (left : (path inner).run cs = some (l, '=' :: mid))
    (start : Stops isGap mid) (right : (path inner).run mid = some (r, rest))
    (closes : Closes rest) : (expression inner).run cs = some (.binary l .equal r, rest) :=
  operatorsAlone (operatorsAlone (operatorsPair left (comparisonEqual start) right
    (closesNoComparison closes)) (closesNoLogical closes).2) (closesNoLogical closes).1

theorem axisStopsAny (rest : List Char) : axis.run ('*' :: rest) = none := rfl

theorem axisFollowing (rest : List Char) :
    axis.run ("following-sibling::".toList ++ rest) = some (.followingSibling, rest) := rfl

theorem expressionNone (rest : List Char) : (expression inner).run (')' :: rest) = none := rfl

end ElementLocator.XPath
