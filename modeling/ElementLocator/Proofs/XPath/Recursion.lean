import ElementLocator.Proofs.Text.Watched
import ElementLocator.Proofs.XPath.Opening
/-! How deep the reader goes. Each time it starts to read an expression within another one, also on
ways that lead to nothing, it has passed one more bracket or parenthesis that is still open. So
the scan before bounds how often it enters itself. -/
namespace ElementLocator.XPath
open ElementLocator.Text
open ElementLocator.Text.Parser
open ElementLocator.Text.Watched (quiet)

/- The grammar once more, with the places at which it enters the inner reader. -/

def bracketed {α : Type} {c : Bool} (start finish : Char) (body : Watched Expr c α) :
    Watched Expr true α :=
  ((quiet (char start).padded).skipThen body).thenSkip (quiet (char finish).padded)

def watchedPredicate : Watched Expr true Expr := bracketed '[' ']' .inner

def watchedStep : Watched Expr true Expr :=
  (quiet ((word "..").map fun _ => .parent)).either <|
  (quiet ((word ".").map fun _ => .current)).either <|
    ((quiet axis.optional).andThen ((quiet nodeTest).andThen watchedPredicate.many)).map
      fun (axis, test, predicates) => .step axis test predicates

def watchedSteps (first : Watched Expr true Expr) : Watched Expr true Expr :=
  (first.andThen ((quiet stroke).andThen watchedStep).many).map
    fun (first, more) => chained first more

def watchedAbsolute : Watched Expr true Expr :=
  ((quiet stroke).andThen (watchedSteps watchedStep).optional).map fun
    | (op, none) => .root (op = .descendantPath)
    | (op, some e) => .absolute (op = .descendantPath) e

def watchedCall : Watched Expr true Expr :=
  ((quiet (name.provided fun s rest => opensNext rest && !isKindName s)).andThen
    (bracketed '(' ')' (Watched.inner.separated (quiet (char ',').padded)))).map
      fun (name, args) => .call name args

def watchedParenthesized : Watched Expr true Expr :=
  ((bracketed '(' ')' .inner).andThen watchedPredicate.many).map fun
    | (base, []) => base
    | (base, p :: predicates) => .filtered base (p :: predicates)

def watchedPrimary : Watched Expr true Expr :=
  (quiet number).either <| (quiet literal).either <| watchedCall.either watchedParenthesized

def watchedPath : Watched Expr true Expr :=
  (watchedAbsolute.either <|
    (watchedSteps watchedPrimary).either (watchedSteps watchedStep)).padded

def watchedOperators (op : Parser true Operator) (operand : Watched Expr true Expr) :
    Watched Expr true Expr :=
  (operand.andThen ((quiet op.padded).andThen operand).many).map
    fun (first, more) => chained first more

def watchedExpression : Watched Expr true Expr :=
  watchedOperators (logical .or) (watchedOperators (logical .and)
    (watchedOperators comparison watchedPath))

theorem watchedReads : watchedExpression.of = expression := rfl

variable {α β : Type} {c d : Bool} {limit depth levels : Nat} {cs rest : List Char}
  {start finish : Char} {p : Parser true Expr}

structure Steady (p : Parser true Expr) (levels : Nat) (w : Watched Expr c α) : Prop where
  settled : Settled (w.of p)
  enters : ∀ ⦃cs r⦄, r ∈ w.entries p cs → Deeper levels cs r

theorem quietSteady {q : Parser c α} (settled : Settled q) : Steady p levels (quiet q) where
  settled := settled
  enters _ _ entered := nomatch entered

theorem innerSteady (settled : Settled p) : Steady p 0 Watched.inner where
  settled := settled
  enters cs r entered := by
    cases List.mem_singleton.mp entered
    exact deeperNot cs

theorem mapSteady {w : Watched Expr c α} (f : α → β) (steady : Steady p levels w) :
    Steady p levels (w.map f) where
  settled := mapSettled f steady.settled
  enters := steady.enters

theorem eitherSteady {w v : Watched Expr c α} (one : Steady p levels w)
    (other : Steady p levels v) : Steady p levels (w.either v) where
  settled := eitherSettled one.settled other.settled
  enters cs r entered := by
    rcases Watched.eitherEntered entered with here | there
    · exact one.enters here
    · exact other.enters there

theorem andThenSteady {w : Watched Expr c α} {v : Watched Expr d β} (first : Steady p levels w)
    (second : Steady p levels v) : Steady p levels (w.andThen v) where
  settled := andThenSettled first.settled second.settled
  enters cs r entered := by
    rcases Watched.andThenEntered entered with here | ⟨_, rest, read, there⟩
    · exact first.enters here
    · exact deeperAfter (first.settled read) (second.enters there)

theorem optionalSteady {w : Watched Expr c α} (steady : Steady p levels w) :
    Steady p levels w.optional where
  settled := optionalSettled steady.settled
  enters := steady.enters

theorem manySteady {w : Watched Expr true α} (steady : Steady p levels w) :
    Steady p levels w.many where
  settled := manySettled steady.settled
  enters cs r entered := by
    change r ∈ w.manyEntries p cs at entered
    fun_induction Watched.manyEntries w p cs with
    | case1 cs _ => exact steady.enters entered
    | case2 cs _ rest read ih =>
      rcases List.mem_append.mp entered with here | later
      · exact steady.enters here
      · exact deeperAfter (steady.settled read) (ih later)

theorem paddedSteady {w : Watched Expr c α} (steady : Steady p levels w) :
    Steady p levels w.padded where
  settled := paddedSettled steady.settled
  enters cs _ entered := deeperAfter (deeperGaps cs) (steady.enters entered)

theorem bracketedSteady {body : Watched Expr c α} (opening : start = '[' ∨ start = '(')
    (closing : finish = ']' ∨ finish = ')') (steady : Steady p 0 body) :
    Steady p 1 (bracketed start finish body) where
  settled cs a rest h := by
    obtain ⟨_, closingRun, front, last⟩ := thenSkipFound h
    obtain ⟨_, mid, openingRun, inside⟩ := skipThenFound front
    obtain ⟨g, after, gaps, rfl, rfl⟩ := paddedCharFound openingRun
    obtain ⟨k, behind, others, rfl, rfl⟩ := paddedCharFound last
    have opened : Deeper 1 (start :: after) (k ++ finish :: behind) :=
      deeperBefore (deeperStart opening after)
        (deeperAfter (deeperGaps after) (steady.settled inside))
    have closed : Deeper 0 (start :: after) behind :=
      deeperFinish closing (deeperBefore opened (deeperPlain (gapsUnnested others) _))
    exact deeperAfter (deeperPlain (gapsUnnested gaps) _)
      (deeperBefore closed (deeperGaps behind))
  enters cs r entered := by
    rcases Watched.andThenEntered entered with front | ⟨_, _, _, none⟩
    · rcases Watched.andThenEntered front with none | ⟨_, mid, openingRun, inside⟩
      · cases none
      · obtain ⟨g, after, gaps, rfl, rfl⟩ := paddedCharFound openingRun
        exact deeperAfter (deeperPlain (gapsUnnested gaps) _)
          (deeperBefore (deeperStart opening after)
            (deeperAfter (deeperGaps after) (steady.enters inside)))
    · cases none

theorem separatedSteady {w : Watched Expr true α} {separator : Watched Expr true β}
    (steady : Steady p levels w) (between : Steady p levels separator) :
    Steady p levels (w.separated separator) :=
  mapSteady _ (optionalSteady (andThenSteady steady
    (manySteady (mapSteady Prod.snd (andThenSteady between steady)))))

theorem predicateSteady (settled : Settled p) : Steady p 1 watchedPredicate :=
  bracketedSteady (Or.inl rfl) (Or.inl rfl) (innerSteady settled)

theorem stepSteady (settled : Settled p) : Steady p 1 watchedStep :=
  eitherSteady (quietSteady (mapSettled _ (wordSettled rfl)))
    (eitherSteady (quietSteady (mapSettled _ (wordSettled rfl)))
      (mapSteady _ (andThenSteady (quietSteady axisSettled)
        (andThenSteady (quietSteady nodeTestSettled) (manySteady (predicateSteady settled))))))

theorem stepsSteady {first : Watched Expr true Expr} (settled : Settled p)
    (head : Steady p 1 first) : Steady p 1 (watchedSteps first) :=
  mapSteady _ (andThenSteady head (manySteady
    (andThenSteady (quietSteady (recognizedSettled strokeRecognizes)) (stepSteady settled))))

theorem absoluteSteady (settled : Settled p) : Steady p 1 watchedAbsolute :=
  mapSteady _ (andThenSteady (quietSteady (recognizedSettled strokeRecognizes))
    (optionalSteady (stepsSteady settled (stepSteady settled))))

theorem callSteady (settled : Settled p) : Steady p 1 watchedCall :=
  mapSteady _ (andThenSteady (quietSteady (nameSettled _))
    (bracketedSteady (Or.inr rfl) (Or.inr rfl) (separatedSteady (innerSteady settled)
      (quietSteady (paddedSettled (charSettled rfl))))))

theorem parenthesizedSteady (settled : Settled p) : Steady p 1 watchedParenthesized :=
  mapSteady _ (andThenSteady
    (bracketedSteady (Or.inr rfl) (Or.inr rfl) (innerSteady settled))
    (manySteady (predicateSteady settled)))

theorem primarySteady (settled : Settled p) : Steady p 1 watchedPrimary := by
  have literals : Settled literal :=
    eitherSettled (quotedBySettled (Or.inl rfl)) (quotedBySettled (Or.inr rfl))
  exact eitherSteady (quietSteady numberSettled) (eitherSteady (quietSteady literals)
    (eitherSteady (callSteady settled) (parenthesizedSteady settled)))

theorem pathSteady (settled : Settled p) : Steady p 1 watchedPath :=
  paddedSteady (eitherSteady (absoluteSteady settled)
    (eitherSteady (stepsSteady settled (primarySteady settled))
      (stepsSteady settled (stepSteady settled))))

theorem operatorsSteady {op : Parser true Operator} {operand : Watched Expr true Expr}
    (reads : Settled op) (steady : Steady p 1 operand) : Steady p 1 (watchedOperators op operand) :=
  mapSteady _ (andThenSteady steady
    (manySteady (andThenSteady (quietSteady (paddedSettled reads)) steady)))

theorem expressionSteady (settled : Settled p) : Steady p 1 watchedExpression :=
  operatorsSteady (recognizedSettled (logicalRecognizes rfl))
    (operatorsSteady (recognizedSettled (logicalRecognizes rfl))
      (operatorsSteady (recognizedSettled comparisonRecognizes) (pathSteady settled)))

theorem nestedSettled (settled : Settled p) (levels : Nat) : Settled (nested p levels) := by
  induction levels with
  | zero => exact (expressionSteady settled).settled
  | succ levels ih => exact (expressionSteady ih).settled

structure Entry where
  depth : Nat
  rest : List Char
  deriving DecidableEq, Repr

/-- All that are started while an expression is read that has so many others around it. The levels
are those of `nested`; what is entered below them is the base. -/
def entered (base : Parser true Expr) (depth : Nat) : Nat → List Char → List Entry
  | 0, cs => (watchedExpression.entries base cs).map fun rest => ⟨depth + 1, rest⟩
  | levels + 1, cs => (watchedExpression.entries (nested base levels) cs).flatMap fun rest =>
      ⟨depth + 1, rest⟩ :: entered base (depth + 1) levels rest

theorem enteredDeeper (settled : Settled p) {entry : Entry}
    (member : entry ∈ entered p depth levels cs) :
    ∃ further, entry.depth = depth + further ∧ Deeper further cs entry.rest := by
  induction levels generalizing depth cs with
  | zero =>
    obtain ⟨rest, here, rfl⟩ := List.mem_map.mp member
    exact ⟨1, rfl, (expressionSteady settled).enters here⟩
  | succ levels ih =>
    obtain ⟨rest, here, member⟩ := List.mem_flatMap.mp member
    have inside := (expressionSteady (nestedSettled settled levels)).enters here
    rcases List.mem_cons.mp member with rfl | below
    · exact ⟨1, rfl, inside⟩
    · obtain ⟨further, same, deeper⟩ := ih below
      exact ⟨1 + further, by omega, deeperTrans inside deeper⟩

theorem withinDeeper (room : depth ≤ limit) (within : withinNesting limit depth none cs = true)
    (deeper : Deeper levels cs rest) :
    depth + levels ≤ limit ∧ withinNesting limit (depth + levels) none rest = true := by
  obtain ⟨w, rfl, opens⟩ := deeper
  have behind := withinScanned room within
  rwa [opens] at behind

theorem nestedSame (settled : Settled p) (q : Parser true Expr) (room : depth ≤ limit)
    (within : withinNesting limit depth none cs = true) (deep : limit ≤ depth + levels) :
    (nested q levels).run cs = (nested p levels).run cs := by
  induction levels generalizing depth cs with
  | zero =>
    refine (watchedExpression.complete ?_).symm
    intro rest here
    obtain ⟨further, _⟩ := withinDeeper room within ((expressionSteady settled).enters here)
    omega
  | succ levels ih =>
    refine (watchedExpression.complete ?_).symm
    intro rest here
    have inside := (expressionSteady (nestedSettled settled levels)).enters here
    obtain ⟨further, after⟩ := withinDeeper room within inside
    exact (ih further after (by omega)).symm

theorem nestedMore (base : Parser true Expr) (levels : Nat) :
    nested base (levels + 1) = nested (expression base) levels := by
  induction levels with
  | zero => rfl
  | succ levels ih => exact congrArg expression ih

theorem neverSettled : Settled (never : Parser true Expr) := fun _ _ _ h => nomatch h

theorem readerSame (within : withinNesting maxNesting 0 none cs = true)
    (deep : maxNesting ≤ levels) (base : Parser true Expr) :
    (nested base levels).run cs = reader.run cs := by
  obtain ⟨more, rfl⟩ := Nat.exists_eq_add_of_le deep
  clear deep
  induction more generalizing base with
  | zero => exact nestedSame neverSettled base (Nat.zero_le _) within (by omega)
  | succ more ih =>
    rw [← Nat.add_assoc, nestedMore]
    exact ih (expression base)

/-- The scan before bounds how deep the reader goes. What is read lies within the limit, also with
the parentheses of tests for a kind counted. Whenever an expression is started within others,
also on ways that lead to nothing, so many brackets and parentheses are open as expressions are
around it, and these are within the limit. So what would be read deeper makes no difference. -/
theorem recursionBounded (source : String) :
    (∀ e, parse source = .ok e → e.nesting ≤ maxNesting) ∧
      (withinNesting maxNesting 0 none source.toList = true →
        (∀ levels, ∀ entry ∈ entered never 0 levels (trim source.toList),
          ∃ w, trim source.toList = w ++ entry.rest ∧ scanned 0 none w = (entry.depth, none) ∧
            entry.depth ≤ maxNesting) ∧
        ∀ base levels, maxNesting ≤ levels →
          (nested base levels).run (trim source.toList) = reader.run (trim source.toList)) := by
  refine ⟨fun e parsed => parsedNesting parsed, ?_⟩
  intro within
  have trimmed := withinTrimmed within
  constructor
  · intro levels entry member
    obtain ⟨further, same, deeper⟩ := enteredDeeper neverSettled member
    obtain ⟨bound, _⟩ := withinDeeper (Nat.zero_le maxNesting) trimmed deeper
    obtain ⟨w, parts, opens⟩ := deeper
    rw [same]
    exact ⟨w, parts, opens 0, bound⟩
  · exact fun base levels deep => readerSame trimmed deep base

theorem openCallsBounded :
    let e : Expr := .step none (.name "a") [.literal "("]
    let tried := "f(g(1 2)".toList
    (parse "a['(']" = .ok e ∧ e.nesting ≤ maxNesting) ∧
      withinNesting maxNesting 0 none tried = true ∧
      entered never 0 2 (trim tried) = [⟨1, "g(1 2)".toList⟩, ⟨2, "1 2)".toList⟩] ∧
      (∀ entry ∈ entered never 0 2 (trim tried),
        ∃ w, trim tried = w ++ entry.rest ∧ scanned 0 none w = (entry.depth, none) ∧
          entry.depth ≤ maxNesting) ∧
      (nested never 200).run (trim tried) = reader.run (trim tried) := by
  intro e tried
  have parsed : parse "a['(']" = .ok e := by with_unfolding_all rfl
  have within : withinNesting maxNesting 0 none tried = true := by decide +kernel
  obtain ⟨bounded, same⟩ := (recursionBounded "f(g(1 2)").2 within
  exact ⟨⟨parsed, (recursionBounded "a['(']").1 e parsed⟩, within, by decide +kernel, bounded 2,
    same never 200 (by decide)⟩

end ElementLocator.XPath
