import ElementLocator.Proofs.XPath.Number
import ElementLocator.Proofs.XPath.Paths
/-! An expression that is read is read again from its written form, if its operands need no
parentheses. The loosest operator of an expression is where its written form comes apart. -/
namespace ElementLocator.XPath
open ElementLocator.Text
open ElementLocator.Text.Parser

variable {inner operand : Parser true Expr} {reader : Parser true Operator} {n k : Nat}
  {cs rest : List Char} {e : Expr} {op : Operator}

inductive Follow (level : Nat) : List Char → Prop where
  | nil : Follow level []
  | closing {c : Char} (closes : c = ']' ∨ c = ')' ∨ c = ',') (cs : List Char) :
      Follow level (c :: cs)
  | operator {op : Operator} (looser : op.level < level) (noPath : op.isPath = false)
      (cs : List Char) : Follow level (op.spaced.toList ++ cs)

theorem followTighter {level : Nat} (h : Follow k rest) (tighter : k ≤ level) :
    Follow level rest := by
  cases h with
  | nil => exact .nil
  | closing closes cs => exact .closing closes cs
  | operator looser noPath cs => exact .operator (Nat.lt_of_lt_of_le looser tighter) noPath cs

theorem spacedOperator (noPath : op.isPath = false) (cs : List Char) :
    op.spaced.toList ++ cs = ' ' :: (op.symbol.toList ++ ' ' :: cs) := by
  simp [Operator.spaced, noPath]

theorem symbolNoGap (op : Operator) (cs : List Char) : Stops isGap (op.symbol.toList ++ cs) := by
  cases op <;> exact stopsCons rfl _

theorem symbolStops {ok : Char → Bool} (stop : Stops ok op.symbol.toList) (cs : List Char) :
    Stops ok (op.symbol.toList ++ cs) := by
  cases op <;> exact stopsCons (stop _ rfl) _

theorem skipSpaced (noPath : op.isPath = false) (cs : List Char) :
    skipGap (op.spaced.toList ++ cs) = op.symbol.toList ++ ' ' :: cs := by
  rw [spacedOperator noPath]
  exact skipGapStops (symbolNoGap op _)

theorem followAfter (h : Follow k rest) : AfterPath rest := by
  cases h with
  | nil => exact ⟨⟨⟨stopsNil _, stopsNil _, rfl⟩, stopsNil _⟩, stopsNil _, stopsNil _, stopsNil _⟩
  | @closing c closes cs =>
    have mark : isNamePart c = false ∧ isGap c = false ∧ isStepStart c = false ∧
        c ≠ ':' ∧ c ≠ '(' ∧ c ≠ '[' ∧ c ≠ '/' := by
      rcases closes with rfl | rfl | rfl <;> decide
    obtain ⟨part, gap, noStep, colon, paren, bracket, stroke⟩ := mark
    refine ⟨afterStepMark (afterMark part gap ⟨colon, paren⟩ cs) gap bracket,
      stopsCons (decide_eq_false stroke) cs, ?_, stopsCons noStep cs⟩
    rw [skipGapStops (stopsCons gap cs)]
    exact stopsCons (decide_eq_false stroke) cs
  | @operator op _ noPath cs =>
    have later {ok : Char → Bool} (stop : Stops ok op.symbol.toList) :
        Stops ok (skipGap (op.spaced.toList ++ cs)) := by
      rw [skipSpaced noPath]
      exact symbolStops stop _
    have shut : opensNext (op.spaced.toList ++ cs) = false := by
      cases op <;> rfl
    have bracket : Stops (· = '[') op.symbol.toList := by cases op <;> exact stopsCons rfl _
    have stroke : Stops (· = '/') op.symbol.toList := by
      cases op <;> first | exact stopsCons rfl _ | cases noPath
    have bracket := later bracket
    have stroke := later stroke
    rw [spacedOperator noPath] at *
    exact ⟨⟨⟨stopsCons rfl _, stopsCons rfl _, shut⟩, bracket⟩, stopsCons rfl _, stroke,
      stopsCons rfl _⟩

structure ReadsOperators (k : Nat) (reader : Parser true Operator) : Prop where
  reads : ∀ ⦃op⦄, op.level = k → ∀ cs,
    reader.padded.run (op.symbol.toList ++ ' ' :: cs) = some (op, skipGap cs)
  stops : ∀ ⦃rest⦄, Follow k rest → reader.padded.run (skipGap rest) = none

def ReadsAt (n k : Nat) (p : Parser true Expr) : Prop :=
  ∀ ⦃e⦄, e.Everywhere Regular → e.nesting ≤ n → k ≤ e.level → ∀ ⦃rest⦄, Follow k rest →
    p.run (e.text.toList ++ rest) = some (e, skipGap rest)

theorem levelNoPath (below : op.level < 3) : op.isPath = false := by
  cases op <;> first | rfl | exact absurd below (by decide)

theorem leveledOperator {l r : Expr} (leveled : Leveled (.binary l op r))
    (noPath : op.isPath = false) : op.level ≤ l.level ∧ op.level < r.level := by
  rwa [Leveled, if_neg (by simp [noPath])] at leveled

theorem operatorsChain (below : k < 3) (ops : ReadsOperators k reader)
    (reads : ReadsAt n (k + 1) operand) :
    ∀ e : Expr, e.Everywhere Regular → e.nesting ≤ n → k ≤ e.level → ∀ rest more last,
      Follow (k + 1) rest →
      (reader.padded.andThen operand).many.run (skipGap rest) = some (more, last) →
      (operators reader operand).run (e.text.toList ++ rest) = some (chained e more, last) := by
  refine inside fun e ih regular room tight rest more last follow others => ?_
  by_cases tighter : k + 1 ≤ e.level
  · exact mapRead _ (andThenRead (reads regular room tighter follow) others)
  · cases e with
    | binary l op r =>
      have level : op.level = k := by
        rw [Expr.level] at tight tighter
        omega
      have noPath : op.isPath = false := levelNoPath (by omega)
      obtain ⟨⟨_, _, leveled⟩, parts⟩ := everywhere.mp regular
      obtain ⟨left, parts⟩ := List.forall_mem_cons.mp parts
      have right := List.forall_mem_singleton.mp parts
      obtain ⟨leftTight, rightTight⟩ := leveledOperator leveled noPath
      rw [Expr.nesting] at room
      have operatorRun := ops.reads level (r.text.toList ++ rest)
      rw [skipGapStops (textNoGap right rest)] at operatorRun
      have operandRun := reads right (by omega) (by omega) follow
      rw [binaryText]
      -- The left operand begins the same chain, with this operator and operand before the others.
      refine ih l (by simp [Expr.operands]) left (by omega) (by omega) _ ((op, r) :: more) last
        (.operator (by omega) noPath _) ?_
      rw [skipSpaced noPath]
      exact manyStep (andThenRead operatorRun operandRun) others
    | _ => exact absurd below tighter

theorem operatorsRead (below : k < 3) (ops : ReadsOperators k reader)
    (reads : ReadsAt n (k + 1) operand) : ReadsAt n k (operators reader operand) := by
  intro e regular room tight rest follow
  exact operatorsChain below ops reads e regular room tight rest [] _
    (followTighter follow (Nat.le_succ k)) (manyStop (andThenOther (ops.stops follow)))

theorem skipBlank (cs : List Char) : skipGap (' ' :: cs) = skipGap cs := rfl

theorem logicalRead (isLogical : op.isLogical = true) (cs : List Char) :
    (logical op).padded.run (op.symbol.toList ++ ' ' :: cs) = some (op, skipGap cs) := by
  have word : (operator op).run (op.symbol.toList ++ ' ' :: cs) = some (op, ' ' :: cs) :=
    mapRead _ (wordRead (by cases op <;> decide) _)
  rw [← skipBlank cs]
  exact paddedSkip (symbolNoGap op _) (providedRead word rfl)

theorem comparisonReads (level : op.level = 2) (cs : List Char) :
    comparison.padded.run (op.symbol.toList ++ ' ' :: cs) = some (op, skipGap cs) := by
  have word : comparison.run (op.symbol.toList ++ ' ' :: cs) = some (op, ' ' :: cs) := by
    cases op <;> first | rfl | cases level
  rw [← skipBlank cs]
  exact paddedSkip (symbolNoGap op _) word

theorem stopsBefore (begins : Char → Bool) (other : ∀ cs, Stops isGap cs → Stops begins cs →
      reader.padded.run cs = none)
    (noCloser : begins ']' = false ∧ begins ')' = false ∧ begins ',' = false)
    (looser : ∀ op : Operator, op.level < k → Stops begins op.symbol.toList)
    (follow : Follow k rest) :
    reader.padded.run (skipGap rest) = none := by
  refine other _ (dropWhileStop isGap rest) ?_
  cases follow with
  | nil => exact stopsNil _
  | closing closes cs =>
    rcases closes with rfl | rfl | rfl
    · exact stopsCons noCloser.1 cs
    · exact stopsCons noCloser.2.1 cs
    · exact stopsCons noCloser.2.2 cs
  | @operator op less noPath cs =>
    rw [skipSpaced noPath]
    exact symbolStops (looser op less) _

theorem orReads : ReadsOperators 0 (logical .or) where
  reads op level cs := by
    cases op <;> first | exact logicalRead rfl cs | cases level
  stops rest follow := stopsBefore (· = 'o') (fun _ gap stop => logicalStops rfl gap stop)
    (by decide) (fun _ less => absurd less (Nat.not_lt_zero _)) follow

theorem andReads : ReadsOperators 1 (logical .and) where
  reads op level cs := by
    cases op <;> first | exact logicalRead rfl cs | cases level
  stops rest follow := stopsBefore (· = 'a') (fun _ gap stop => logicalStops rfl gap stop)
    (by decide) (fun op less => by
      cases op <;> first | exact stopsCons rfl _ | exact absurd less (by decide)) follow

theorem comparisonsRead : ReadsOperators 2 comparison where
  reads op level cs := comparisonReads level cs
  stops rest follow := stopsBefore (fun c => c = '!' || c = '=')
    (fun _ gap stop => comparisonStops gap
      (fun c first => (Bool.or_eq_false_iff.mp (stop c first)).1)
      (fun c first => (Bool.or_eq_false_iff.mp (stop c first)).2))
    (by decide) (fun op less => by
      cases op <;> first | exact stopsCons rfl _ | exact absurd less (by decide)) follow

theorem expressionReads (within : ReadsWithin n inner) : ReadsAt n 0 (expression inner) := by
  have paths : ReadsAt n 3 (path inner) := fun _ regular room isPath _ follow =>
    pathRead within regular room isPath (followAfter follow)
  have equalities := operatorsRead (by decide) comparisonsRead paths
  have conjunctions := operatorsRead (by decide) andReads equalities
  exact operatorsRead (by decide) orReads conjunctions

theorem expressionWithin (within : ReadsWithin n inner) :
    ReadsWithin (n + 1) (expression inner) where
  reads e regular room c closes rest := by
    have read := expressionReads within regular (by omega) (Nat.zero_le _) (.closing closes rest)
    have noGap : isGap c = false := by rcases closes with rfl | rfl | rfl <;> rfl
    rwa [skipGapStops (stopsCons noGap rest)] at read
  stops rest := expressionNone rest

theorem neverWithin : ReadsWithin 0 .never where
  reads _ _ room := absurd room (Nat.not_lt_zero _)
  stops _ := rfl

theorem nestedWithin (levels : Nat) : ReadsWithin (levels + 1) (nested .never levels) := by
  induction levels with
  | zero => exact expressionWithin neverWithin
  | succ levels ih => exact expressionWithin ih

theorem nestedReads (levels : Nat) : ReadsAt levels 0 (nested .never levels) := by
  cases levels with
  | zero => exact expressionReads neverWithin
  | succ levels => exact expressionReads (nestedWithin levels)

theorem textParsed (regular : e.Everywhere Regular) (room : e.nesting ≤ maxNesting) :
    parse e.text = .ok e := by
  have within : withinNesting maxNesting 0 none e.text.toList = true := by
    have same : withinNesting maxNesting 0 none (e.text.toList ++ []) =
        withinNesting maxNesting 0 none [] := textTransparent regular 0 [] (by omega)
    rwa [List.append_nil, withinNesting] at same
  have read : reader.run (e.text.toList ++ []) = some (e, []) :=
    nestedReads maxNesting regular room (Nat.zero_le _) .nil
  rw [List.append_nil] at read
  simp only [parse, if_pos within, textTrimmed regular, read]

def FiniteNumber : Expr → Prop
  | .number x => x.magnitude ≠ .infinite
  | _ => True

theorem regularOf (formed : e.Everywhere Formed) (finite : e.Everywhere FiniteNumber)
    (leveled : e.Everywhere Leveled) : e.Everywhere Regular := by
  refine everywhereOf (everywhereAnd formed (everywhereAnd finite leveled)) ?_
  rintro e ⟨formed, finite, leveled⟩
  refine ⟨formed, ?_, leveled⟩
  cases e with
  | number x =>
    obtain ⟨w, read⟩ := formed
    exact writtenSpells read finite
  | _ => trivial

theorem readAgain {source : String} (parsed : parse source = .ok e)
    (finite : e.Everywhere FiniteNumber) (leveled : e.Everywhere Leveled) :
    parse e.text = .ok e :=
  textParsed (regularOf (parsedFormed parsed) finite leveled) (parsedNesting parsed)

theorem looselyWrittenReadAgain :
    let e : Expr := .binary
      (.binary (.filtered (.absolute true (.step none (.name "item")
        [.binary (.step (some .attribute) (.name "or") []) .equal
          (.number ⟨false, .finite 6755399441055744 (-52)⟩)])) [.call "last" []])
        .path (.step none (.kind .text) []))
      .or (.call "not" [.binary .current .unequal (.literal "a \"b\""), .step none .any []])
    parse " ( //item [ @or = (1.50) ] ) [ last( ) ]/text( ) or not(. != 'a \"b\"',*)" = .ok e ∧
      parse e.text = .ok e := by
  intro e
  have parsed : parse
      " ( //item [ @or = (1.50) ] ) [ last( ) ]/text( ) or not(. != 'a \"b\"',*)" = .ok e := by
    with_unfolding_all rfl
  have finite : e.Everywhere FiniteNumber := by
    simp [e, Expr.Everywhere, EverywhereIn, FiniteNumber]
  have leveled : e.Everywhere Leveled := by
    simp [e, Expr.Everywhere, EverywhereIn, Leveled, Operator.isPath, Operator.level, Expr.level,
      Expr.isHeaded, Expr.isStep]
  exact ⟨parsed, readAgain parsed finite leveled⟩

end ElementLocator.XPath
