import ElementLocator.Proofs.XPath.Steps
/-! Paths are read from their written form: from the document root, from a step, or from a number, a
literal, a call or parentheses. -/
namespace ElementLocator.XPath
open ElementLocator.Text
open ElementLocator.Text.Parser

variable {inner first : Parser true Expr} {n : Nat} {cs mid rest w : List Char} {e l r : Expr}
  {es ps : List Expr} {c : Char} {op : Operator}

structure AfterPath (rest : List Char) : Prop extends AfterStep rest where
  stroke : Stops (· = '/') rest
  strokeLater : Stops (· = '/') (skipGap rest)
  noStep : Stops isStepStart rest

theorem leftStroke {after : List Char} (h : AfterPath rest) (left : Left rest after) :
    Stops (· = '/') after := by
  rcases left with rfl | rfl
  · exact h.stroke
  · exact h.strokeLater

/- What stands at the head of a path that begins with no step. -/

theorem numberSpelled {x : Decimal.Binary64} (spelled : NumberText w x)
    (stop : Stops isNamePart rest) : number.run (w ++ rest) = some (.number x, rest) := by
  have digit : Stops isDigit rest := by
    intro c first
    cases digit : isDigit c with
    | false => rfl
    | true =>
      have part := stop c first
      rw [digitNamePart digit] at part
      cases part
  have point : Stops (· = '.') rest := partStops rfl stop
  cases spelled with
  | whole nonempty digits =>
    have noFraction : ((char '.').skipThen (span1 isDigit)).optional.run rest =
        some (none, rest) := optionalNone (skipThenOther (charOther point))
    unfold number
    rw [mapRead _ (andThenRead (span1Read nonempty digits digit) noFraction)]
    simp
  | @fraction w v nonempty digits more decimals =>
    rw [List.append_assoc]
    have fraction : ((char '.').skipThen (span1 isDigit)).optional.run ('.' :: (v ++ rest)) =
        some (some v, rest) :=
      optionalRead (skipThenRead (charRead '.' _) (span1Read more decimals digit))
    exact mapRead _ (andThenRead (span1Read nonempty digits (stopsCons rfl _)) fraction)

theorem literalRead {s : String} (formed : Formed (.literal s)) (rest : List Char) :
    literal.run ((literalText s).toList ++ rest) = some (.literal s, rest) := by
  obtain ⟨mark, quote, free, text⟩ := literalTextIs formed
  rw [text, List.cons_append, List.append_assoc]
  rcases quote with rfl | rfl
  · have read := literalSingle free rest
    rwa [String.ofList_toList] at read
  · have read := literalDouble free rest
    rwa [String.ofList_toList] at read

theorem moreArgsRead {a : Expr} (within : ReadsWithin n inner)
    (regular : ∀ e ∈ es, e.Everywhere Regular) (room : nestingIn es ≤ n) (rest : List Char) :
    ∃ c more, (c = ']' ∨ c = ')' ∨ c = ',') ∧
      (argsText (a :: es)).toList ++ ')' :: rest = a.text.toList ++ c :: more ∧
      ((char ',').padded.skipThen inner).many.run (c :: more) = some (es, ')' :: rest) := by
  induction es generalizing a with
  | nil => exact ⟨')', rest, by simp, rfl, manyStop (noArgument rest)⟩
  | cons b es ih =>
    obtain ⟨first, others⟩ := List.forall_mem_cons.mp regular
    rw [nestingIn] at room
    obtain ⟨c, more, closes, text, tail⟩ := ih (a := b) others (by omega)
    have body := within.reads first (by omega) closes more
    rw [firstArgumentText, text]
    exact ⟨',', _, by simp, rfl, manyStep (nextArgument (textNoGap first _) body) tail⟩

theorem argsRead (within : ReadsWithin n inner)
    (regular : ∀ e ∈ es, e.Everywhere Regular) (room : nestingIn es ≤ n) (rest : List Char) :
    (inner.separated (char ',').padded).run ((argsText es).toList ++ ')' :: rest) =
      some (es, ')' :: rest) := by
  cases es with
  | nil => exact separatedNone (within.stops rest)
  | cons a es =>
    obtain ⟨first, others⟩ := List.forall_mem_cons.mp regular
    rw [nestingIn] at room
    obtain ⟨c, more, closes, text, tail⟩ := moreArgsRead (a := a) within others (by omega) rest
    rw [text]
    exact separatedRead (within.reads first (by omega) closes more) tail

theorem argsNoGap (regular : ∀ e ∈ es, e.Everywhere Regular) (rest : List Char) :
    Stops isGap ((argsText es).toList ++ ')' :: rest) := by
  match es with
  | [] => exact stopsCons rfl rest
  | [a] => exact textNoGap (regular a (by simp)) _
  | a :: b :: es =>
    rw [firstArgumentText]
    exact textNoGap (regular a (by simp)) _

theorem callTextRead {name : String} (within : ReadsWithin n inner)
    (regular : (Expr.call name es).Everywhere Regular) (room : (Expr.call name es).nesting ≤ n)
    (rest : List Char) :
    (call inner).run ((Expr.call name es).text.toList ++ rest) =
      some (.call name es, skipGap rest) := by
  obtain ⟨⟨⟨isName, function⟩, _, _⟩, parts⟩ := everywhere.mp regular
  rw [Expr.nesting] at room
  have inside : ∀ e ∈ es, e.Everywhere Regular := parts
  have args := argsRead within inside (by omega) rest
  rw [callText]
  have read := callSkip isName (by rwa [String.ofList_toList]) (argsNoGap parts rest) args
  rwa [String.ofList_toList] at read

theorem filteredRead (within : ReadsWithin n inner)
    (regular : (Expr.filtered e ps).Everywhere Regular) (room : (Expr.filtered e ps).nesting ≤ n)
    (after : AfterStep rest) :
    ∃ last, (parenthesized inner).run ((Expr.filtered e ps).text.toList ++ rest) =
      some (.filtered e ps, last) ∧ Left rest last := by
  obtain ⟨⟨formed, _, _⟩, parts⟩ := everywhere.mp regular
  obtain ⟨base, predicates⟩ := List.forall_mem_cons.mp parts
  rw [Expr.nesting] at room
  obtain ⟨last, predicatesRun, left⟩ :=
    predicatesRead within predicates (by omega) after (Or.inr rfl)
  have opening := paddedRead (stopsCons rfl _) (charRead '(' _)
    (textNoGap base (')' :: ((predicatesText ps).toList ++ rest)))
  have body := within.reads base (by omega) (c := ')') (by simp)
    ((predicatesText ps).toList ++ rest)
  have closing := paddedSkip (stopsCons rfl _) (charRead ')' ((predicatesText ps).toList ++ rest))
  have both := andThenRead (thenSkipRead (skipThenRead opening body) closing) predicatesRun
  refine ⟨last, ?_, left⟩
  rw [filteredText]
  unfold parenthesized
  rw [mapRead _ both]
  cases ps with
  | nil => exact absurd rfl formed
  | cons p ps => rfl

theorem primaryRead (within : ReadsWithin n inner) (headed : e.isHeaded = true)
    (head : ∀ l op r, e ≠ .binary l op r) (regular : e.Everywhere Regular) (room : e.nesting ≤ n)
    (after : AfterStep rest) :
    ∃ last, (primary inner).run (e.text.toList ++ rest) = some (e, last) ∧ Left rest last := by
  obtain ⟨formed, spelled, _⟩ := (everywhere.mp regular).1
  cases e with
  | number x => exact ⟨rest, primaryNumber (numberSpelled spelled after.part), Or.inl rfl⟩
  | literal s =>
    have digit : Stops isDigit ((literalText s).toList ++ rest) := by
      obtain ⟨mark, quote, _, text⟩ := literalTextIs formed
      rw [text]
      rcases quote with rfl | rfl <;> exact stopsCons rfl _
    rw [Expr.text]
    exact ⟨rest, primaryLiteral digit (literalRead formed rest), Or.inl rfl⟩
  | call name es =>
    have read := callTextRead within regular room rest
    rw [callText] at read ⊢
    exact ⟨skipGap rest, primaryCall formed.1 read, Or.inr rfl⟩
  | filtered e ps =>
    obtain ⟨last, read, left⟩ := filteredRead within regular room after
    refine ⟨last, ?_, left⟩
    rw [filteredText] at read ⊢
    unfold primary
    rw [eitherSecond (numberStops (stopsCons rfl _)),
      eitherSecond (literalStops (stopsCons rfl _) (stopsCons rfl _)),
      eitherSecond (callStops (stopsCons rfl _))]
    exact read
  | binary l op r => exact absurd rfl (head l op r)
  | _ => cases headed

/- A step is nothing else than a step, though a name looks like the beginning of a call. -/

theorem namedNoPrimary (isName : IsName w) (stop : Stops isNamePart rest)
    (noCall : opensNext rest = false ∨ isKindName (String.ofList w) = true) :
    (primary inner).run (w ++ rest) = none := by
  have refused : (opensNext rest && !isKindName (String.ofList w)) = false := by
    rcases noCall with shut | kind
    · rw [shut, Bool.false_and]
    · rw [kind, Bool.not_true, Bool.and_false]
  have called : (call inner).run (w ++ rest) = none := by
    unfold call
    exact mapOther _ (andThenOther (providedRefused (nameRead isName stop) refused))
  have begins := beginsAppend (nameBegins isName) rest
  unfold primary
  rw [eitherSecond (numberStops (beginsStops begins fun _ start => (startIsNoOther start).1)),
    eitherSecond (literalStops (beginsOther begins rfl) (beginsOther begins rfl)),
    eitherSecond called]
  exact parenthesizedStops
    (beginsStops begins fun _ start => (startIsNoOther start).2.2.2.2) (beginsOther begins rfl)

theorem markNoPrimary (head : isHeadStart c = false) (gap : isGap c = false) (cs : List Char) :
    (primary inner).run (c :: cs) = none := by
  simp only [isHeadStart, Bool.or_eq_false_iff] at head
  obtain ⟨⟨⟨⟨digit, single⟩, double⟩, paren⟩, start⟩ := head
  exact primaryStops (stopsCons digit cs) (stopsCons single cs) (stopsCons double cs)
    (stopsCons start cs) (stopsCons gap cs) (stopsCons paren cs)

theorem kindIsKindName (k : NodeKind) : isKindName k.name = true := by cases k <;> decide

theorem axisNoPrimary (axis : Axis) (cs : List Char) :
    (primary inner).run ((axisText (some axis)).toList ++ cs) = none := by
  by_cases sign : axis = .attribute
  · subst sign
    exact markNoPrimary rfl rfl _
  · have shape : (axisText (some axis)).toList ++ cs = axis.name.toList ++ ':' :: ':' :: cs := by
      cases axis <;> first | rfl | exact absurd rfl sign
    have isName : IsName axis.name.toList := by cases axis <;> decide
    rw [shape]
    exact namedNoPrimary isName (stopsCons (by decide) _)
      (Or.inl (opensNextStops (by decide) (by decide)))

theorem testNoPrimary {test : NodeTest} (formed : Formed (.step none test ps))
    (after : AfterName rest) : (primary inner).run (test.text.toList ++ rest) = none := by
  cases test with
  | any =>
    exact markNoPrimary rfl rfl _
  | name s => exact namedNoPrimary formed after.part (Or.inl after.shut)
  | kind k =>
    have shape : (NodeTest.kind k).text.toList ++ rest = k.name.toList ++ '(' :: ')' :: rest := by
      simp [NodeTest.text]
    rw [shape]
    refine namedNoPrimary (kindIsName k) (stopsCons (by decide) _) (Or.inr ?_)
    rw [String.ofList_toList]
    exact kindIsKindName k

theorem stepNoPrimary (isStep : e.isStep = true) (regular : Regular e) (after : AfterStep rest) :
    (primary inner).run (e.text.toList ++ rest) = none := by
  cases e with
  | step axis test ps =>
    rw [stepText]
    cases axis with
    | none => exact testNoPrimary regular.1 (afterPredicates after.toAfterName ps)
    | some axis => exact axisNoPrimary axis _
  | parent =>
    exact markNoPrimary rfl rfl _
  | current =>
    exact markNoPrimary rfl rfl _
  | _ => cases isStep

theorem spacedPath (isPath : op.isPath = true) (cs : List Char) :
    ∃ more, op.spaced.toList ++ cs = '/' :: more := by
  cases op <;> first | exact ⟨_, rfl⟩ | cases isPath

theorem relativeNoPrimary (relative : e.isRelative = true) (regular : e.Everywhere Regular)
    (after : AfterStep rest) : (primary inner).run (e.text.toList ++ rest) = none := by
  refine alongPath Expr.isRelative (P := fun e => ∀ rest, AfterStep rest →
    e.Everywhere Regular → (primary inner).run (e.text.toList ++ rest) = none)
    (fun _ _ _ => rfl) ?_ ?_ e relative rest after regular
  · intro e relative head rest after regular
    exact stepNoPrimary (relativeHead relative head) (everywhere.mp regular).1 after
  · intro l op r isPath _ ih rest _ regular
    obtain ⟨more, text⟩ := spacedPath isPath (r.text.toList ++ rest)
    rw [binaryText, text]
    exact ih _ (afterStroke more) ((everywhere.mp regular).2 l (by simp [Expr.operands]))

theorem strokeRead (isPath : op.isPath = true) (stop : Stops (· = '/') rest) :
    stroke.run (op.spaced.toList ++ rest) = some (op, rest) := by
  cases op with
  | path => exact strokeSingle stop
  | descendantPath => exact strokeDouble rest
  | _ => cases isPath

theorem leveledPath (leveled : Leveled (.binary l op r)) (isPath : op.isPath = true) :
    r.isStep = true := by
  rw [Leveled, if_pos isPath] at leveled
  exact leveled.2

def ReadsHeads (n : Nat) (first : Parser true Expr) (kind : Expr → Bool) : Prop :=
  ∀ ⦃e⦄, kind e = true → (∀ l op r, e ≠ .binary l op r) → e.Everywhere Regular → e.nesting ≤ n →
    ∀ ⦃rest⦄, AfterStep rest →
      ∃ last, first.run (e.text.toList ++ rest) = some (e, last) ∧ Left rest last

theorem stepsChain (kind : Expr → Bool) {goal : List Char → Prop}
    (through : ∀ l op r, kind (.binary l op r) = (op.isPath && kind l))
    (within : ReadsWithin n inner) (heads : ReadsHeads n first kind) (is : kind e = true)
    (regular : e.Everywhere Regular) (room : e.nesting ≤ n) (after : AfterStep rest)
    {more : List (Operator × Expr)} (others : ∀ start, Left rest start → ∃ last,
      (stroke.andThen (step inner)).many.run start = some (more, last) ∧ goal last) :
    ∃ last, (steps inner first).run (e.text.toList ++ rest) = some (chained e more, last) ∧
      goal last := by
  refine alongPath kind (P := fun e => e.Everywhere Regular → e.nesting ≤ n →
    ∀ rest, AfterStep rest → ∀ more : List (Operator × Expr), (∀ start, Left rest start → ∃ last,
      (stroke.andThen (step inner)).many.run start = some (more, last) ∧ goal last) →
    ∃ last, (steps inner first).run (e.text.toList ++ rest) = some (chained e more, last) ∧
      goal last) through ?_ ?_ e is regular room rest after more others
  · intro e is head regular room rest after more others
    obtain ⟨start, headRun, left⟩ := heads is head regular room after
    obtain ⟨last, moreRun, met⟩ := others start left
    exact ⟨last, mapRead _ (andThenRead headRun moreRun), met⟩
  · intro l op r isPath _ ih regular room rest after more others
    obtain ⟨⟨_, _, leveled⟩, parts⟩ := everywhere.mp regular
    obtain ⟨left, parts⟩ := List.forall_mem_cons.mp parts
    have right := List.forall_mem_singleton.mp parts
    have isStep := leveledPath leveled isPath
    rw [Expr.nesting] at room
    obtain ⟨behind, text⟩ := spacedPath isPath (r.text.toList ++ rest)
    have noStroke : Stops (· = '/') (r.text.toList ++ rest) :=
      beginsOther (beginsAppend (stepBegins isStep (everywhere.mp right).1.1) rest) rfl
    have strokeRun := strokeRead isPath noStroke
    obtain ⟨between, stepRun, leftover⟩ := stepRead within isStep right (by omega) after
    obtain ⟨last, moreRun, met⟩ := others between leftover
    rw [text] at strokeRun
    rw [binaryText, text]
    refine ih left (by omega) _ (afterStroke behind) ((op, r) :: more) fun start begun => ?_
    rw [leftWhole (stopsCons rfl behind) begun]
    exact ⟨last, manyStep (andThenRead strokeRun stepRun) moreRun, met⟩

theorem stepsRead (kind : Expr → Bool)
    (through : ∀ l op r, kind (.binary l op r) = (op.isPath && kind l))
    (within : ReadsWithin n inner) (heads : ReadsHeads n first kind) (is : kind e = true)
    (regular : e.Everywhere Regular) (room : e.nesting ≤ n) (after : AfterPath rest) :
    ∃ last, (steps inner first).run (e.text.toList ++ rest) = some (e, last) ∧ Left rest last :=
  stepsChain kind through within heads is regular room after.toAfterStep fun start left =>
    ⟨start, manyStrokesStop (leftStroke after left), left⟩

theorem relativeRead (within : ReadsWithin n inner) (relative : e.isRelative = true)
    (regular : e.Everywhere Regular) (room : e.nesting ≤ n) (after : AfterPath rest) :
    ∃ last, (XPath.relative inner).run (e.text.toList ++ rest) = some (e, last) ∧
      Left rest last :=
  stepsRead Expr.isRelative (fun _ _ _ => rfl) within
    (fun _ relative head regular room _ after =>
      stepRead within (relativeHead relative head) regular room after)
    relative regular room after

theorem headedRead (within : ReadsWithin n inner) (headed : e.isHeaded = true)
    (regular : e.Everywhere Regular) (room : e.nesting ≤ n) (after : AfterPath rest) :
    ∃ last, (steps inner (primary inner)).run (e.text.toList ++ rest) = some (e, last) ∧
      Left rest last :=
  stepsRead Expr.isHeaded (fun _ _ _ => rfl) within
    (fun _ headed head regular room _ after => primaryRead within headed head regular room after)
    headed regular room after

theorem strokesRead (descendant : Bool) (stop : Stops (· = '/') rest) :
    ∃ op, stroke.run ((strokes descendant).toList ++ rest) = some (op, rest) ∧
      decide (op = .descendantPath) = descendant := by
  cases descendant
  · exact ⟨.path, strokeSingle stop, rfl⟩
  · exact ⟨.descendantPath, strokeDouble rest, rfl⟩

theorem rootRead (descendant : Bool) (after : AfterPath rest) :
    (absolute inner).run ((Expr.root descendant).text.toList ++ rest) =
      some (.root descendant, rest) := by
  obtain ⟨op, strokeRun, rfl⟩ := strokesRead descendant after.stroke
  have noRelative : (XPath.relative inner).optional.run rest = some (none, rest) :=
    optionalNone (stepsStop (stepStops after.noStep))
  rw [Expr.text]
  unfold absolute
  exact mapRead _ (andThenRead strokeRun noRelative)

theorem absoluteRead (within : ReadsWithin n inner) (descendant : Bool)
    (relative : e.isRelative = true) (regular : e.Everywhere Regular) (room : e.nesting ≤ n)
    (after : AfterPath rest) :
    ∃ last, (absolute inner).run ((Expr.absolute descendant e).text.toList ++ rest) =
      some (.absolute descendant e, last) ∧ Left rest last := by
  have noStroke : Stops (· = '/') (e.text.toList ++ rest) :=
    beginsOther (beginsAppend (relativeBegins relative regular) rest) rfl
  obtain ⟨op, strokeRun, rfl⟩ := strokesRead descendant noStroke
  obtain ⟨last, relativeRun, left⟩ := relativeRead within relative regular room after
  refine ⟨last, ?_, left⟩
  rw [absoluteText]
  unfold absolute
  exact mapRead _ (andThenRead strokeRun (optionalRead relativeRun))

theorem pathRead (within : ReadsWithin n inner) (regular : e.Everywhere Regular)
    (room : e.nesting ≤ n) (isPath : 3 ≤ e.level) (after : AfterPath rest) :
    (path inner).run (e.text.toList ++ rest) = some (e, skipGap rest) := by
  obtain ⟨⟨formed, _, leveled⟩, parts⟩ := everywhere.mp regular
  have body : ∃ last, ((absolute inner).either <|
      (steps inner (primary inner)).either (XPath.relative inner)).run (e.text.toList ++ rest) =
      some (e, last) ∧ Left rest last := by
    rcases pathKinds leveled isPath with relative | headed | ⟨d, rfl⟩ | ⟨d, r, rfl⟩
    · obtain ⟨last, read, left⟩ := relativeRead within relative regular room after
      refine ⟨last, ?_, left⟩
      have noStroke : Stops (· = '/') (e.text.toList ++ rest) :=
        beginsOther (beginsAppend (relativeBegins relative regular) rest) rfl
      rw [eitherSecond (absoluteStops noStroke),
        eitherSecond (stepsStop (relativeNoPrimary relative regular after.toAfterStep))]
      exact read
    · obtain ⟨last, read, left⟩ := headedRead within headed regular room after
      refine ⟨last, ?_, left⟩
      have noStroke : Stops (· = '/') (e.text.toList ++ rest) :=
        beginsOther (beginsAppend (headedBegins headed regular) rest) rfl
      rw [eitherSecond (absoluteStops noStroke)]
      exact eitherFirst read
    · exact ⟨rest, eitherFirst (rootRead d after), Or.inl rfl⟩
    · obtain ⟨last, read, left⟩ :=
        absoluteRead within d formed (parts r (by simp [Expr.operands])) room after
      exact ⟨last, eitherFirst read, left⟩
  obtain ⟨last, read, left⟩ := body
  unfold path
  rw [paddedSkip (textNoGap regular rest) read, leftGap left]

end ElementLocator.XPath
