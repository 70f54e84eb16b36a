import ElementLocator.Proofs.XPath.Nesting
/-! Steps are read from their written form, whatever follows them that cannot belong to them. Of
gaps after a predicate nothing is left. -/
namespace ElementLocator.XPath
open ElementLocator.Text
open ElementLocator.Text.Parser

variable {inner : Parser true Expr} {n : Nat} {cs mid rest w : List Char} {e : Expr}
  {axis : Option Axis} {test : NodeTest} {ps : List Expr} {c : Char}

structure AfterName (rest : List Char) : Prop where
  part : Stops isNamePart rest
  colon : Stops (· = ':') rest
  shut : opensNext rest = false

structure AfterStep (rest : List Char) : Prop extends AfterName rest where
  bracket : Stops (· = '[') (skipGap rest)

theorem afterMark (noPart : isNamePart c = false) (noGap : isGap c = false)
    (other : c ≠ ':' ∧ c ≠ '(') (cs : List Char) : AfterName (c :: cs) where
  part := stopsCons noPart cs
  colon := stopsCons (decide_eq_false other.1) cs
  shut := opensNextStops noGap other.2

theorem afterStepMark (after : AfterName (c :: cs)) (noGap : isGap c = false) (other : c ≠ '[') :
    AfterStep (c :: cs) where
  toAfterName := after
  bracket := by
    rw [skipGapStops (stopsCons noGap cs)]
    exact stopsCons (decide_eq_false other) cs

theorem afterStroke (cs : List Char) : AfterStep ('/' :: cs) :=
  afterStepMark (afterMark (by decide) (by decide) (by decide) cs) (by decide) (by decide)

theorem afterPredicates (after : AfterName rest) (ps : List Expr) :
    AfterName ((predicatesText ps).toList ++ rest) := by
  cases ps with
  | nil => exact after
  | cons p ps =>
    rw [firstPredicateText]
    exact afterMark (by decide) (by decide) (by decide) _

theorem testRead (formed : Formed (.step axis test ps)) (after : AfterName rest) :
    nodeTest.run (test.text.toList ++ rest) = some (test, rest) := by
  cases test with
  | any => exact nodeTestAny rest
  | name s =>
    have read := nodeTestName formed after.part after.shut
    rwa [String.ofList_toList] at read
  | kind k => cases k <;> rfl

theorem axisRead (axis : Axis) (rest : List Char) :
    XPath.axis.run ((axisText (some axis)).toList ++ rest) = some (axis, rest) := by
  cases axis <;> rfl

theorem axisNameParts (a : Axis) : ∀ c ∈ a.name.toList, isNamePart c = true := by
  cases a <;> exact List.all_eq_true.mp rfl

theorem axisOther (isName : IsName w) (part : Stops isNamePart rest)
    (colon : Stops (· = ':') rest) : XPath.axis.run (w ++ rest) = none := by
  have noAt : Stops (· = '@') (w ++ rest) :=
    beginsOther (beginsAppend (nameBegins isName) rest) (by decide)
  have noAxis : (axisName.thenSkip (word "::")).run (w ++ rest) = none := by
    cases found : axisName.run (w ++ rest) with
    | none => exact thenSkipOther found
    | some pair =>
      obtain ⟨a, mid⟩ := pair
      apply thenSkipBroken found
      apply wordStops (v := "::") rfl
      rcases behindWord (nameParts isName) part (axisNameParts a) (axisNameFound found) with
        rfl | ⟨c, cs, rfl, isPart⟩
      · exact colon
      · exact stopsCons (notSame isPart (by decide)) cs
  unfold XPath.axis
  rw [eitherSecond (mapOther _ (charOther noAt))]
  exact noAxis

theorem kindIsName (k : NodeKind) : IsName k.name.toList := by cases k <;> decide

theorem noAxisRead (formed : Formed (.step axis test ps)) (after : AfterName rest) :
    XPath.axis.run (test.text.toList ++ rest) = none := by
  cases test with
  | any => exact axisStopsAny rest
  | name s => exact axisOther formed after.part after.colon
  | kind k =>
    have shape : (NodeTest.kind k).text.toList ++ rest = k.name.toList ++ '(' :: ')' :: rest := by
      simp [NodeTest.text]
    rw [shape]
    exact axisOther (kindIsName k) (stopsCons (by decide) _) (stopsCons (by decide) _)

theorem optionalAxisRead (formed : Formed (.step axis test ps)) (after : AfterName rest) :
    XPath.axis.optional.run ((axisText axis).toList ++ (test.text.toList ++ rest)) =
      some (axis, test.text.toList ++ rest) := by
  cases axis with
  | none => exact optionalNone (noAxisRead formed after)
  | some a => exact optionalRead (axisRead a _)

structure ReadsWithin (n : Nat) (inner : Parser true Expr) : Prop where
  reads : ∀ ⦃e⦄, e.Everywhere Regular → e.nesting < n → ∀ ⦃c⦄, c = ']' ∨ c = ')' ∨ c = ',' →
    ∀ rest, inner.run (e.text.toList ++ c :: rest) = some (e, c :: rest)
  stops : ∀ rest, inner.run (')' :: rest) = none

def Left (rest after : List Char) : Prop := after = rest ∨ after = skipGap rest

theorem skipGapTwice (cs : List Char) : skipGap (skipGap cs) = skipGap cs :=
  skipGapStops (dropWhileStop isGap cs)

theorem leftGap {after : List Char} (h : Left rest after) : skipGap after = skipGap rest := by
  rcases h with rfl | rfl
  · rfl
  · exact skipGapTwice rest

theorem leftWhole {after : List Char} (stop : Stops isGap rest) (h : Left rest after) :
    after = rest := by
  rcases h with rfl | rfl
  · rfl
  · exact skipGapStops stop

theorem predicateOther (stop : Stops (· = '[') (skipGap cs)) : (predicate inner).run cs = none := by
  have opening : (char '[').padded.run cs = none := by simp [padded, charOther stop]
  exact thenSkipOther (skipThenOther opening)

theorem predicatesRead (within : ReadsWithin n inner)
    (regular : ∀ p ∈ ps, p.Everywhere Regular) (room : nestingIn ps ≤ n) (after : AfterStep rest)
    (start : Left ((predicatesText ps).toList ++ rest) cs) :
    ∃ last, (predicate inner).many.run cs = some (ps, last) ∧ Left rest last := by
  induction ps generalizing cs with
  | nil =>
    refine ⟨cs, manyStop (predicateOther ?_), start⟩
    rw [leftGap start]
    exact after.bracket
  | cons p ps ih =>
    obtain ⟨first, others⟩ := List.forall_mem_cons.mp regular
    rw [nestingIn] at room
    rw [firstPredicateText] at start
    rw [leftWhole (stopsCons rfl _) start]
    have body := within.reads first (by omega) (Or.inl rfl) ((predicatesText ps).toList ++ rest)
    have head := predicateSkip body (textNoGap first _)
    obtain ⟨last, more, left⟩ := ih others (by omega) (Or.inr rfl)
    exact ⟨last, manyStep head more, left⟩

theorem partStops {x : Char} (part : isNamePart x = true) (stop : Stops isNamePart rest) :
    Stops (· = x) rest := by
  intro c first
  apply decide_eq_false
  rintro rfl
  rw [stop c first] at part
  cases part

theorem stepCurrent (stop : Stops (· = '.') rest) :
    (step inner).run ('.' :: rest) = some (.current, rest) := by
  have noParent : (word "..").run ('.' :: rest) = none := by
    apply wordOther
    rintro ⟨more, same⟩
    obtain ⟨_, rfl⟩ := List.cons.inj (show '.' :: '.' :: more = '.' :: rest from same)
    simpa using stopsHead stop
  unfold step
  rw [eitherSecond (mapOther _ noParent)]
  exact eitherFirst (mapRead _ (wordRead (w := ".") (by decide) rest))

theorem fullNoPoint (formed : Formed (.step axis test ps)) (rest : List Char) :
    Stops (· = '.') ((axisText axis).toList ++ (test.text.toList ++ rest)) := by
  cases axis with
  | some a => cases a <;> exact stopsCons rfl _
  | none =>
    cases test with
    | any => exact stopsCons rfl _
    | name s => exact beginsOther (beginsAppend (nameBegins formed) rest) rfl
    | kind k => cases k <;> exact stopsCons rfl _

theorem axisTextBegins {found : Option Axis} (h : AxisText found w) :
    w = [] ∨ Begins isStepStart w := by
  cases h with
  | none => exact Or.inl rfl
  | sign => exact Or.inr ⟨'@', [], rfl, rfl⟩
  | named a => cases a <;> exact Or.inr ⟨_, _, rfl, rfl⟩

theorem derivedTestBegins (h : DerivesTest cs test rest) : Begins isStepStart cs := by
  cases h with
  | any => exact ⟨'*', rest, rfl, rfl⟩
  | kind k => cases k <;> exact ⟨_, _, rfl, rfl⟩
  | name isName =>
    exact beginsAppend (beginsOf (nameBegins isName) (by simp +contextual [isStepStart])) _

theorem stepStops (stop : Stops isStepStart cs) : (step inner).run cs = none := by
  have nothing (h : Begins isStepStart cs) : False := by
    obtain ⟨c, more, rfl, start⟩ := h
    rw [stopsHead stop] at start
    cases start
  cases found : (step inner).run cs with
  | none => rfl
  | some pair =>
    obtain ⟨e, rest⟩ := pair
    refine (nothing ?_).elim
    rcases eitherFound found with h | h
    · obtain ⟨_, dots, _⟩ := mapFound h
      exact ⟨'.', '.' :: rest, wordFound dots, rfl⟩
    · rcases eitherFound h with h | h
      · obtain ⟨_, dot, _⟩ := mapFound h
        exact ⟨'.', rest, wordFound dot, rfl⟩
      · obtain ⟨_, all, _⟩ := mapFound h
        obtain ⟨mid, axisRun, more⟩ := andThenFound all
        obtain ⟨after, testRun, _⟩ := andThenFound more
        obtain ⟨w, axisText, rfl⟩ := axisFound axisRun
        rcases axisTextBegins axisText with rfl | begins
        · exact derivedTestBegins (nodeTestDerives testRun)
        · exact beginsAppend begins mid

theorem stepRead (within : ReadsWithin n inner) (isStep : e.isStep = true)
    (regular : e.Everywhere Regular) (room : e.nesting ≤ n) (after : AfterStep rest) :
    ∃ last, (step inner).run (e.text.toList ++ rest) = some (e, last) ∧ Left rest last := by
  obtain ⟨⟨formed, _, _⟩, parts⟩ := everywhere.mp regular
  cases e with
  | parent => exact ⟨rest, stepParent rest, Or.inl rfl⟩
  | current => exact ⟨rest, stepCurrent (partStops rfl after.part), Or.inl rfl⟩
  | step axis test ps =>
    rw [Expr.nesting] at room
    have afterTest := afterPredicates after.toAfterName ps
    have inside : ∀ p ∈ ps, p.Everywhere Regular := parts
    obtain ⟨last, predicates, left⟩ :=
      predicatesRead within inside (by omega) after (Or.inl rfl)
    refine ⟨last, ?_, left⟩
    rw [stepText, stepFull (fullNoPoint formed _)]
    exact fullStepRead (optionalAxisRead formed afterTest) (testRead formed afterTest) predicates
  | _ => cases isStep

end ElementLocator.XPath
