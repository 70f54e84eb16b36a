import ElementLocator.Proofs.XPath.Predicate
import ElementLocator.XPath.Source
/-! The pieces that rendered paths are put together from, and how the grammar groups them: a
predicate belongs to the element step before it, and none can follow a parent step. -/
namespace ElementLocator.XPath
open ElementLocator.Text
open ElementLocator.Text.Parser

inductive Fragment where
  | predicate (a : Attribute) (v : Value)
  | child
  | parent
  | anywhere
  | sibling

def Fragment.text : Fragment → List Char
  | .predicate a v => '[' :: (condition a v ++ [']'])
  | .child => ['/', '*']
  | .parent => ['/', '.', '.']
  | .anywhere => ['/', '/', '*']
  | .sibling => '/' :: ("following-sibling::".toList ++ ['*'])

def Fragment.Fits : Fragment → Prop
  | .predicate a v => Plain (a, v)
  | _ => True

def textOf (fs : List Fragment) : List Char := fs.flatMap Fragment.text

def attached : List Fragment → Bool
  | [] => true
  | .parent :: .predicate _ _ :: _ => false
  | _ :: rest => attached rest

def taken : List Fragment → List Expr × List (Operator × Expr) × List Fragment
  | [] => ([], [], [])
  | .predicate a v :: rest =>
      let (ps, more, left) := taken rest
      (asked a v :: ps, more, left)
  | .child :: rest =>
      let (ps, more, left) := taken rest
      ([], (.path, .step none .any ps) :: more, left)
  | .anywhere :: rest =>
      let (ps, more, left) := taken rest
      ([], (.descendantPath, .step none .any ps) :: more, left)
  | .sibling :: rest =>
      let (ps, more, left) := taken rest
      ([], (.path, .step (some .followingSibling) .any ps) :: more, left)
  | .parent :: .predicate a v :: rest => ([], [(.path, .parent)], .predicate a v :: rest)
  | .parent :: rest =>
      let (_, more, left) := taken rest
      ([], (.path, .parent) :: more, left)

variable {inner : Parser true Expr} {cs mid left : List Char} {fs : List Fragment}

theorem startOf (f : Fragment) : ∃ c cs, f.text = c :: cs ∧ (c = '[' ∨ c = '/') := by
  cases f with
  | predicate => exact ⟨_, _, rfl, Or.inl rfl⟩
  | _ => exact ⟨_, _, rfl, Or.inr rfl⟩

theorem textStops {ok : Char → Bool} (h : ok '[' = false ∧ ok '/' = false) (fs : List Fragment) :
    Stops ok (textOf fs) := by
  cases fs with
  | nil => exact stopsNil ok
  | cons f fs =>
    obtain ⟨c, cs, text, start⟩ := startOf f
    rw [textOf, List.flatMap_cons, text]
    rcases start with rfl | rfl
    · exact stopsCons h.1 _
    · exact stopsCons h.2 _

theorem textOfPredicate (a : Attribute) (v : Value) (fs : List Fragment) :
    textOf (.predicate a v :: fs) = '[' :: (condition a v ++ ']' :: textOf fs) := by
  simp [textOf, Fragment.text]

def Reads (inner : Parser true Expr) (cs : List Char) (ps : List Expr)
    (more : List (Operator × Expr)) (left : List Char) : Prop :=
  ∃ mid, (predicate inner).many.run cs = some (ps, mid) ∧
    (stroke.andThen (step inner)).many.run mid = some (more, left)

theorem readsPredicate {more : List (Operator × Expr)} {ps : List Expr} {e : Expr}
    (h : (predicate inner).run cs = some (e, mid)) (reads : Reads inner mid ps more left) :
    Reads inner cs (e :: ps) more left := by
  obtain ⟨after, predicatesRun, moreRun⟩ := reads
  exact ⟨after, manyStep h predicatesRun, moreRun⟩

theorem readsStep {axis : Option Axis} {op : Operator} {ps : List Expr}
    {more : List (Operator × Expr)} {afterStroke : List Char}
    (strokeRun : stroke.run ('/' :: cs) = some (op, afterStroke))
    (noDot : Stops (· = '.') afterStroke)
    (axisRun : XPath.axis.optional.run afterStroke = some (axis, '*' :: mid))
    (reads : Reads inner mid ps more left) :
    Reads inner ('/' :: cs) [] ((op, .step axis .any ps) :: more) left := by
  obtain ⟨after, predicatesRun, moreRun⟩ := reads
  have element := fullStepRead axisRun (nodeTestAny mid) predicatesRun
  rw [← stepFull noDot] at element
  exact ⟨_, predicatesStop (stopsCons rfl cs) (stopsCons rfl cs),
    manyStep (andThenRead strokeRun element) moreRun⟩

theorem readsParent {more : List (Operator × Expr)}
    (moreRun : (stroke.andThen (step inner)).many.run mid = some (more, left)) :
    Reads inner ('/' :: '.' :: '.' :: mid) [] ((.path, .parent) :: more) left :=
  ⟨_, predicatesStop (stopsCons rfl _) (stopsCons rfl _),
    manyStep (andThenRead (strokeSingle (stopsCons rfl _)) (stepParent mid)) moreRun⟩

theorem readsStrokes {more : List (Operator × Expr)} {ps : List Expr} (gap : Stops isGap cs)
    (noPredicate : Stops (· = '[') cs) (reads : Reads inner cs ps more left) :
    ps = [] ∧ (stroke.andThen (step inner)).many.run cs = some (more, left) := by
  obtain ⟨after, predicatesRun, moreRun⟩ := reads
  rw [predicatesStop gap noPredicate] at predicatesRun
  cases predicatesRun
  exact ⟨rfl, moreRun⟩

theorem fragmentsRead (fits : ∀ f ∈ fs, f.Fits) :
    Reads (expression (expression (expression inner))) (textOf fs) (taken fs).1 (taken fs).2.1
      (textOf (taken fs).2.2) := by
  induction fs with
  | nil =>
    exact ⟨[], predicatesStop (stopsNil _) (stopsNil _), manyStrokesStop (stopsNil _)⟩
  | cons f rest ih =>
    have reads := ih fun g hg => fits g (by simp [hg])
    cases f with
    | predicate a v =>
      have plain : Plain (a, v) := fits (.predicate a v) (by simp)
      rw [textOfPredicate]
      exact readsPredicate (predicateRead (conditionRead plain (closesCons (by simp) _))
        (conditionGap plain _) (textStops (by decide) rest)) reads
    | child =>
      exact readsStep (strokeSingle (stopsCons (by decide) _)) (stopsCons (by decide) _)
        (optionalNone (axisStopsAny _)) reads
    | anywhere =>
      exact readsStep (strokeDouble _) (stopsCons rfl _)
        (optionalNone (axisStopsAny _)) reads
    | sibling =>
      exact readsStep (strokeSingle (stopsCons rfl _)) (stopsCons rfl _)
        (optionalRead (axisFollowing _)) reads
    | parent =>
      cases rest with
      | nil => exact readsParent (readsStrokes (stopsNil _) (stopsNil _) reads).2
      | cons g rest =>
        cases g with
        | predicate a v => exact readsParent (manyStrokesStop (stopsCons rfl _))
        | _ =>
          have strokes := readsStrokes (stopsCons rfl _) (stopsCons rfl _) reads
          exact readsParent strokes.2

theorem takenLeft (fs : List Fragment) :
    (attached fs = true ∧ (taken fs).2.2 = []) ∨
      (attached fs = false ∧ ∃ a v rest, (taken fs).2.2 = .predicate a v :: rest) := by
  induction fs with
  | nil => exact Or.inl ⟨rfl, rfl⟩
  | cons f rest ih =>
    cases f with
    | parent =>
      cases rest with
      | nil => exact Or.inl ⟨rfl, rfl⟩
      | cons g rest =>
        cases g with
        | predicate a v => exact Or.inr ⟨rfl, a, v, rest, rfl⟩
        | _ => exact ih
    | _ => exact ih

theorem attachedIff (fs : List Fragment) : attached fs = true ↔ (taken fs).2.2 = [] := by
  rcases takenLeft fs with ⟨attaches, none⟩ | ⟨loose, a, v, rest, some⟩
  · simp [attaches, none]
  · simp [loose, some]

theorem leftCloses (fs : List Fragment) : Closes (textOf (taken fs).2.2) := by
  rcases takenLeft fs with ⟨_, none⟩ | ⟨_, a, v, rest, some⟩
  · rw [none]
    exact closesNil
  · rw [some, textOfPredicate]
    exact closesCons (by simp) _

def sourceOf (fs : List Fragment) : List Char := '/' :: '/' :: '*' :: textOf fs

def exprOf (fs : List Fragment) : Expr :=
  .absolute true (chained (.step none .any (taken fs).1) (taken fs).2.1)

theorem sourceRead (fits : ∀ f ∈ fs, f.Fits) :
    reader.run (sourceOf fs) = some (exprOf fs, textOf (taken fs).2.2) := by
  have reads : Reads (nested .never 127) (textOf fs) _ _ _ := fragmentsRead fits
  obtain ⟨mid, predicatesRun, moreRun⟩ := reads
  have closes := leftCloses fs
  have first : (step (nested .never 127)).run ('*' :: textOf fs) =
      some (.step none .any (taken fs).1, mid) := by
    rw [stepFull (stopsCons rfl _)]
    exact fullStepRead (optionalNone (axisStopsAny _)) (nodeTestAny _) predicatesRun
  have relativeRun : (relative (nested .never 127)).run ('*' :: textOf fs) =
      some (chained (.step none .any (taken fs).1) (taken fs).2.1, textOf (taken fs).2.2) := by
    unfold relative steps
    exact mapRead _ (andThenRead first moreRun)
  have absoluteRun : (absolute (nested .never 127)).run (sourceOf fs) =
      some (exprOf fs, textOf (taken fs).2.2) := by
    unfold absolute
    exact mapRead _ (andThenRead (strokeDouble _) (optionalRead relativeRun))
  have pathRun : (path (nested .never 127)).run (sourceOf fs) =
      some (exprOf fs, textOf (taken fs).2.2) :=
    paddedRead (stopsCons (by decide) _) (eitherFirst absoluteRun) (closesStops closes (by decide))
  exact expressionPath pathRun closes

theorem lastOfText (f : Fragment) : ∃ w d, f.text = w ++ [d] ∧ isBlank d = false := by
  cases f with
  | predicate a v => exact ⟨'[' :: condition a v, ']', rfl, by decide⟩
  | child => exact ⟨['/'], '*', rfl, by decide⟩
  | parent => exact ⟨['/', '.'], '.', rfl, by decide⟩
  | anywhere => exact ⟨['/', '/'], '*', rfl, by decide⟩
  | sibling => exact ⟨'/' :: "following-sibling::".toList, '*', rfl, by decide⟩

theorem sourceTrimmed (fs : List Fragment) : trim (sourceOf fs) = sourceOf fs := by
  rcases List.eq_nil_or_concat fs with rfl | ⟨before, f, rfl⟩
  · rfl
  · obtain ⟨w, d, text, last⟩ := lastOfText f
    have shape : sourceOf (before ++ [f]) = '/' :: (('/' :: '*' :: textOf before ++ w) ++ [d]) := by
      simp [sourceOf, textOf, text]
    rw [List.concat_eq_append, shape]
    exact trimKept rfl last

theorem fragmentsTidy {k : Nat} (fits : ∀ f ∈ fs, f.Fits) : Tidy (k + 3) (textOf fs) := by
  induction fs with
  | nil => exact Tidy.nil
  | cons f rest ih =>
    have more := ih fun g hg => fits g (by simp [hg])
    cases f with
    | predicate a v =>
      rw [textOfPredicate]
      exact predicateTidy (fits (.predicate a v) (by simp)) more
    | child =>
      exact Tidy.mark rfl rfl rfl
        (Tidy.mark rfl rfl rfl more)
    | anywhere =>
      exact Tidy.mark rfl rfl rfl
        (Tidy.mark rfl rfl rfl
          (Tidy.mark rfl rfl rfl more))
    | sibling =>
      have any : Tidy (k + 3) ('*' :: textOf rest) :=
        Tidy.mark rfl rfl rfl more
      have axis : Tidy (k + 3) ("following-sibling::".toList ++ '*' :: textOf rest) :=
        Tidy.word (List.all_eq_true.mp rfl) rfl (stopsCons rfl _) any
      exact Tidy.mark rfl rfl rfl axis
    | parent =>
      have dots : Tidy (k + 3) (['.', '.'] ++ textOf rest) :=
        Tidy.word (List.all_eq_true.mp (by decide)) (by decide) (textStops (by decide) rest) more
      exact Tidy.mark (by decide) (by decide) (by decide) dots

theorem sourceTidy {k : Nat} (fits : ∀ f ∈ fs, f.Fits) : Tidy (k + 3) (sourceOf fs) :=
  Tidy.mark rfl rfl rfl
    (Tidy.mark rfl rfl rfl
      (Tidy.mark rfl rfl rfl (fragmentsTidy fits)))

theorem sourceWithin (fits : ∀ f ∈ fs, f.Fits) :
    withinNesting maxNesting 0 none (sourceOf fs) = true := by
  have within : withinNesting maxNesting 0 none (sourceOf fs ++ []) =
      withinNesting maxNesting 0 none [] := tidyWithin (sourceTidy (k := 0) fits) (by decide) []
  simpa [withinNesting] using within

theorem sourceParsed (fits : ∀ f ∈ fs, f.Fits) (attaches : attached fs = true) :
    parse (String.ofList (sourceOf fs)) = .ok (exprOf fs) := by
  have left := (attachedIff fs).mp attaches
  simp [parse, sourceWithin fits, sourceTrimmed, sourceRead fits, left, textOf]

theorem sourceRefused (fits : ∀ f ∈ fs, f.Fits) (loose : attached fs = false) :
    ∃ fault, parse (String.ofList (sourceOf fs)) = .error fault := by
  rcases takenLeft fs with ⟨attaches, _⟩ | ⟨_, a, v, rest, left⟩
  · rw [loose] at attaches
    cases attaches
  · simp [parse, sourceWithin fits, sourceTrimmed, sourceRead fits, left, textOfPredicate]

theorem sourceScanned (fits : ∀ f ∈ fs, f.Fits) : scanProblems (sourceOf fs) = [] :=
  tidyProblems (sourceTidy (k := 0) fits) rfl

theorem sourceAccepted (fits : ∀ f ∈ fs, f.Fits) :
    ((∃ e, parse (String.ofList (sourceOf fs)) = .ok e) ↔ attached fs = true) ∧
      (problems (String.ofList (sourceOf fs)) = [] ↔ attached fs = true) := by
  have scanned := sourceScanned fits
  cases attaches : attached fs with
  | true =>
    have read := sourceParsed fits attaches
    simp [problems, scanned, read]
  | false =>
    obtain ⟨fault, refused⟩ := sourceRefused fits attaches
    simp [problems, scanned, refused]

end ElementLocator.XPath
