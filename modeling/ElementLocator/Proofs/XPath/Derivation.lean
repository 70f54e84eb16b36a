import ElementLocator.Proofs.XPath.Reading
import ElementLocator.XPath.Source
import ElementLocator.XPath.Text
/-! The grammar of XPath as rules for a text, the expression that it begins with and what follows.
Whatever the reader accepts can be derived; the order in which it tries things plays no part. -/
namespace ElementLocator.XPath
open ElementLocator.Text
open ElementLocator.Text.Parser
open ElementLocator.Decimal (Binary64 Magnitude value)

def Gaps (g : List Char) : Prop := ∀ c ∈ g, isGap c = true

inductive NumberText : List Char → Binary64 → Prop where
  | whole {w : List Char} (nonempty : w ≠ []) (digits : ∀ c ∈ w, isDigit c = true) :
      NumberText w ⟨false, Magnitude.ofDecimal (value w) 0⟩
  | fraction {w v : List Char} (nonempty : w ≠ []) (digits : ∀ c ∈ w, isDigit c = true)
      (more : v ≠ []) (decimals : ∀ c ∈ v, isDigit c = true) :
      NumberText (w ++ '.' :: v)
        ⟨false, Magnitude.ofDecimal (value (w ++ v)) (-(v.length : Int))⟩

inductive AxisText : Option Axis → List Char → Prop where
  | none : AxisText none []
  | sign : AxisText (some .attribute) ['@']
  | named (axis : Axis) : AxisText (some axis) (axis.name.toList ++ [':', ':'])

inductive DerivesTest : List Char → NodeTest → List Char → Prop where
  | any (rest : List Char) : DerivesTest ('*' :: rest) .any rest
  | kind {g h : List Char} (k : NodeKind) (gaps : Gaps g) (inside : Gaps h) (rest : List Char) :
      DerivesTest (k.name.toList ++ (g ++ '(' :: (h ++ ')' :: rest))) (.kind k) rest
  | name {w rest : List Char} (isName : IsName w) (stop : Stops isNamePart rest) :
      DerivesTest (w ++ rest) (.name (String.ofList w)) rest

def Expr.isRelative : Expr → Bool
  | .binary left op _ => op.isPath && left.isRelative
  | e => e.isStep

mutual
inductive Derives : List Char → Expr → List Char → Prop where
  | before {g cs rest : List Char} {e : Expr} (gaps : Gaps g) (body : Derives cs e rest) :
      Derives (g ++ cs) e rest
  | after {g cs rest : List Char} {e : Expr} (gaps : Gaps g) (body : Derives cs e (g ++ rest)) :
      Derives cs e rest
  | number {w : List Char} {x : Binary64} (spelled : NumberText w x) (rest : List Char) :
      Derives (w ++ rest) (.number x) rest
  | literal {mark : Char} {w : List Char} (quote : mark = '\'' ∨ mark = '"')
      (inside : ∀ c ∈ w, c ≠ mark) (rest : List Char) :
      Derives (mark :: (w ++ mark :: rest)) (.literal (String.ofList w)) rest
  | root (descendant : Bool) (rest : List Char) :
      Derives ((strokes descendant).toList ++ rest) (.root descendant) rest
  | absolute {cs rest : List Char} {e : Expr} (descendant : Bool) (body : Derives cs e rest)
      (relative : e.isRelative = true) :
      Derives ((strokes descendant).toList ++ cs) (.absolute descendant e) rest
  | binary {cs mid rest : List Char} {l r : Expr} {op : Operator}
      (left : Derives cs l (op.symbol.toList ++ mid)) (right : Derives mid r rest)
      (toStep : op.isPath = true → r.isStep = true)
      (wordEnds : op.isLogical = true → Stops isNamePart mid) : Derives cs (.binary l op r) rest
  | step {axis : Option Axis} {test : NodeTest} {ps : List Expr} {w cs mid rest : List Char}
      (axisText : AxisText axis w) (testText : DerivesTest cs test mid)
      (predicates : DerivesPredicates mid ps rest) : Derives (w ++ cs) (.step axis test ps) rest
  | parent (rest : List Char) : Derives ('.' :: '.' :: rest) .parent rest
  | current (rest : List Char) : Derives ('.' :: rest) .current rest
  | call {w g cs rest : List Char} {es : List Expr} (isName : IsName w)
      (function : isKindName (String.ofList w) = false) (gaps : Gaps g)
      (args : DerivesArgs cs es (')' :: rest)) :
      Derives (w ++ (g ++ '(' :: cs)) (.call (String.ofList w) es) rest
  | group {cs rest : List Char} {e : Expr} (body : Derives cs e (')' :: rest)) :
      Derives ('(' :: cs) e rest
  | filtered {cs mid rest : List Char} {e : Expr} {ps : List Expr}
      (base : Derives cs e (')' :: mid)) (predicates : DerivesPredicates mid ps rest)
      (nonempty : ps ≠ []) : Derives ('(' :: cs) (.filtered e ps) rest

inductive DerivesPredicates : List Char → List Expr → List Char → Prop where
  | none {g : List Char} (gaps : Gaps g) (rest : List Char) : DerivesPredicates (g ++ rest) [] rest
  | more {g cs mid rest : List Char} {p : Expr} {ps : List Expr} (gaps : Gaps g)
      (first : Derives cs p (']' :: mid)) (others : DerivesPredicates mid ps rest) :
      DerivesPredicates (g ++ '[' :: cs) (p :: ps) rest

inductive DerivesArgs : List Char → List Expr → List Char → Prop where
  | none {g : List Char} (gaps : Gaps g) (rest : List Char) : DerivesArgs (g ++ rest) [] rest
  | one {cs rest : List Char} {e : Expr} (only : Derives cs e rest) : DerivesArgs cs [e] rest
  | more {cs mid rest : List Char} {a b : Expr} {es : List Expr} (first : Derives cs a (',' :: mid))
      (others : DerivesArgs mid (b :: es) rest) : DerivesArgs cs (a :: b :: es) rest
end

structure Follows (P : List Char → Expr → List Char → Prop)
    (Q R : List Char → List Expr → List Char → Prop) : Prop where
  before {g cs rest : List Char} {e : Expr} (gaps : Gaps g) (body : P cs e rest) :
    P (g ++ cs) e rest
  after {g cs rest : List Char} {e : Expr} (gaps : Gaps g) (body : P cs e (g ++ rest)) : P cs e rest
  number {w : List Char} {x : Binary64} (spelled : NumberText w x) (rest : List Char) :
    P (w ++ rest) (.number x) rest
  literal {mark : Char} {w : List Char} (quote : mark = '\'' ∨ mark = '"')
    (inside : ∀ c ∈ w, c ≠ mark) (rest : List Char) :
    P (mark :: (w ++ mark :: rest)) (.literal (String.ofList w)) rest
  root (descendant : Bool) (rest : List Char) :
    P ((strokes descendant).toList ++ rest) (.root descendant) rest
  absolute {cs rest : List Char} {e : Expr} (descendant : Bool) (relative : e.isRelative = true)
    (body : P cs e rest) : P ((strokes descendant).toList ++ cs) (.absolute descendant e) rest
  binary {cs mid rest : List Char} {l r : Expr} {op : Operator}
    (toStep : op.isPath = true → r.isStep = true)
    (wordEnds : op.isLogical = true → Stops isNamePart mid)
    (left : P cs l (op.symbol.toList ++ mid)) (right : P mid r rest) : P cs (.binary l op r) rest
  step {axis : Option Axis} {test : NodeTest} {ps : List Expr} {w cs mid rest : List Char}
    (axisText : AxisText axis w) (testText : DerivesTest cs test mid)
    (predicates : Q mid ps rest) : P (w ++ cs) (.step axis test ps) rest
  parent (rest : List Char) : P ('.' :: '.' :: rest) .parent rest
  current (rest : List Char) : P ('.' :: rest) .current rest
  call {w g cs rest : List Char} {es : List Expr} (isName : IsName w)
    (function : isKindName (String.ofList w) = false) (gaps : Gaps g)
    (args : R cs es (')' :: rest)) :
    P (w ++ (g ++ '(' :: cs)) (.call (String.ofList w) es) rest
  group {cs rest : List Char} {e : Expr} (body : P cs e (')' :: rest)) : P ('(' :: cs) e rest
  filtered {cs mid rest : List Char} {e : Expr} {ps : List Expr} (nonempty : ps ≠ [])
    (base : P cs e (')' :: mid)) (predicates : Q mid ps rest) : P ('(' :: cs) (.filtered e ps) rest
  noPredicate {g : List Char} (gaps : Gaps g) (rest : List Char) : Q (g ++ rest) [] rest
  predicate {g cs mid rest : List Char} {p : Expr} {ps : List Expr} (gaps : Gaps g)
    (first : P cs p (']' :: mid)) (others : Q mid ps rest) : Q (g ++ '[' :: cs) (p :: ps) rest
  noArg {g : List Char} (gaps : Gaps g) (rest : List Char) : R (g ++ rest) [] rest
  oneArg {cs rest : List Char} {e : Expr} (only : P cs e rest) : R cs [e] rest
  arg {cs mid rest : List Char} {a b : Expr} {es : List Expr} (first : P cs a (',' :: mid))
    (others : R mid (b :: es) rest) : R cs (a :: b :: es) rest

theorem derivations {P : List Char → Expr → List Char → Prop}
    {Q R : List Char → List Expr → List Char → Prop} (rules : Follows P Q R) {cs rest : List Char}
    {e : Expr} (h : Derives cs e rest) : P cs e rest :=
  @Derives.rec (fun cs e rest _ => P cs e rest) (fun cs ps rest _ => Q cs ps rest)
    (fun cs es rest _ => R cs es rest) (fun gaps _ => rules.before gaps)
    (fun gaps _ => rules.after gaps) rules.number rules.literal rules.root
    (fun descendant _ relative => rules.absolute descendant relative)
    (fun _ _ toStep wordEnds => rules.binary toStep wordEnds)
    (fun axisText testText _ => rules.step axisText testText) rules.parent rules.current
    (fun isName function gaps _ => rules.call isName function gaps) (fun _ => rules.group)
    (fun _ _ nonempty => rules.filtered nonempty) rules.noPredicate
    (fun gaps _ _ => rules.predicate gaps) rules.noArg (fun _ => rules.oneArg)
    (fun _ _ => rules.arg) cs e rest h

def Sound {c : Bool} (p : Parser c Expr) : Prop :=
  ∀ ⦃cs e rest⦄, p.run cs = some (e, rest) → Derives cs e rest

variable {c : Bool} {inner p : Parser true Expr} {cs mid rest w : List Char} {e : Expr}
  {es ps : List Expr} {more : List (Operator × Expr)}

theorem gapsBefore (cs : List Char) : ∃ g, Gaps g ∧ cs = g ++ skipGap cs :=
  ⟨cs.takeWhile isGap, takeWhileAll isGap cs, List.takeWhile_append_dropWhile.symm⟩

theorem gapsJoin {g h : List Char} (one : Gaps g) (other : Gaps h) : Gaps (g ++ h) :=
  List.forall_mem_append.mpr ⟨one, other⟩

theorem derivesSkipped (h : Derives (skipGap cs) e rest) : Derives cs e rest := by
  obtain ⟨g, gaps, same⟩ := gapsBefore cs
  rw [same]
  exact .before gaps h

theorem derivesSkipping (h : Derives cs e rest) : Derives cs e (skipGap rest) := by
  obtain ⟨g, gaps, same⟩ := gapsBefore rest
  rw [same] at h
  exact .after gaps h

theorem eitherSound {p q : Parser c Expr} (one : Sound p) (other : Sound q) :
    Sound (p.either q) := by
  intro cs e rest h
  rcases eitherFound h with h | h
  · exact one h
  · exact other h

theorem paddedSound {p : Parser c Expr} (sound : Sound p) : Sound p.padded := by
  intro cs e rest h
  obtain ⟨mid, found, rfl⟩ := paddedFound h
  exact derivesSkipping (derivesSkipped (sound found))

theorem paddedCharFound {x : Char} {u : Unit} (h : (char x).padded.run cs = some (u, rest)) :
    ∃ g mid, Gaps g ∧ cs = g ++ x :: mid ∧ rest = skipGap mid := by
  obtain ⟨mid, found, rfl⟩ := paddedFound h
  obtain ⟨g, gaps, same⟩ := gapsBefore cs
  rw [charFound found] at same
  exact ⟨g, mid, gaps, same, rfl⟩

theorem operatorFound {op found : Operator} (h : (operator op).run cs = some (found, rest)) :
    found = op ∧ cs = op.symbol.toList ++ rest := by
  obtain ⟨_, word, rfl⟩ := mapFound h
  exact ⟨rfl, wordFound word⟩

def Recognizes (reader : Parser true Operator) (kind : Operator → Bool) : Prop :=
  ∀ ⦃cs op rest⦄, reader.run cs = some (op, rest) → kind op = true ∧ cs = op.symbol.toList ++ rest ∧
    (op.isLogical = true → Stops isNamePart rest)

theorem strokeRecognizes : Recognizes stroke Operator.isPath := by
  intro cs op rest h
  rcases eitherFound h with h | h
  · obtain ⟨rfl, same⟩ := operatorFound h
    exact ⟨rfl, same, nofun⟩
  · obtain ⟨rfl, same⟩ := operatorFound h
    exact ⟨rfl, same, nofun⟩

theorem comparisonRecognizes : Recognizes comparison fun op => !op.isPath := by
  intro cs op rest h
  rcases eitherFound h with h | h
  · obtain ⟨rfl, same⟩ := operatorFound h
    exact ⟨rfl, same, nofun⟩
  · obtain ⟨rfl, same⟩ := operatorFound h
    exact ⟨rfl, same, nofun⟩

theorem startsStop (h : (!startsNamePart rest) = true) : Stops isNamePart rest := by
  cases rest with
  | nil => exact stopsNil _
  | cons c cs => exact stopsCons (by simpa [startsNamePart] using h) cs

theorem logicalRecognizes {op : Operator} (noPath : op.isPath = false) :
    Recognizes (logical op) fun op => !op.isPath := by
  intro cs found rest h
  obtain ⟨word, ends⟩ := providedFound h
  obtain ⟨rfl, same⟩ := operatorFound word
  exact ⟨by simp [noPath], same, fun _ => startsStop ends⟩

def Joins (pair : Parser true (Operator × Expr)) : Prop :=
  ∀ ⦃cs mid rest l op r⦄, Derives cs l mid → pair.run mid = some ((op, r), rest) →
    Derives cs (.binary l op r) rest

theorem chainedDerives {pair : Parser true (Operator × Expr)} (joins : Joins pair)
    (left : Derives cs e mid) (h : pair.many.run mid = some (more, rest)) :
    Derives cs (chained e more) rest := by
  induction more generalizing e mid with
  | nil =>
    rcases manyFound h with ⟨_, rfl⟩ | ⟨_, _, _, same, _⟩
    · exact left
    · cases same
  | cons m more ih =>
    rcases manyFound h with ⟨same, _⟩ | ⟨_, _, _, same, next, others⟩
    · cases same
    · cases same
      exact ih (joins left next) others

theorem operatorJoins {reader : Parser true Operator} {operand : Parser true Expr}
    (recognizes : Recognizes reader fun op => !op.isPath) (sound : Sound operand) :
    Joins (reader.padded.andThen operand) := by
  intro cs mid rest l op r left h
  obtain ⟨start, opRun, operandRun⟩ := andThenFound h
  obtain ⟨after, found, rfl⟩ := paddedFound opRun
  obtain ⟨noPath, same, ends⟩ := recognizes found
  have here := derivesSkipping left
  rw [same] at here
  refine .binary here (derivesSkipped (sound operandRun)) ?_ ends
  intro isPath
  simp [isPath] at noPath

theorem operatorsSound {reader : Parser true Operator} {operand : Parser true Expr}
    (recognizes : Recognizes reader fun op => !op.isPath) (sound : Sound operand) :
    Sound (operators reader operand) := by
  intro cs e rest h
  obtain ⟨_, both, rfl⟩ := mapFound h
  obtain ⟨mid, first, others⟩ := andThenFound both
  exact chainedDerives (operatorJoins recognizes sound) (sound first) others

theorem numberSound : Sound number := by
  intro cs e rest h
  obtain ⟨⟨w, fraction⟩, both, rfl⟩ := mapFound h
  obtain ⟨mid, whole, more⟩ := andThenFound both
  obtain ⟨rfl, nonempty, digits, _⟩ := span1Found whole
  rcases optionalFound more with ⟨v, rfl, found⟩ | ⟨rfl, rfl⟩
  · obtain ⟨_, start, point, decimals⟩ := skipThenFound found
    obtain ⟨rfl, behind, all, _⟩ := span1Found decimals
    rw [charFound point]
    have spelled := NumberText.fraction nonempty digits behind all
    have derived := Derives.number spelled rest
    rwa [List.append_assoc, List.cons_append] at derived
  · have derived := Derives.number (NumberText.whole nonempty digits) rest
    simpa using derived

theorem quotedBySound {mark : Char} (quote : mark = '\'' ∨ mark = '"') :
    Sound (quotedBy mark) := by
  intro cs e rest h
  obtain ⟨w, found, rfl⟩ := mapFound h
  obtain ⟨_, mid, front, closing⟩ := thenSkipFound found
  obtain ⟨_, start, opening, inside⟩ := skipThenFound front
  obtain ⟨rfl, all, _⟩ := spanFound inside
  rw [charFound opening, charFound closing]
  exact .literal quote (fun c member => by simpa using all c member) rest

theorem nameFound {s : String} (h : name.run cs = some (s, rest)) :
    ∃ w, cs = w ++ rest ∧ IsName w ∧ s = String.ofList w ∧ Stops isNamePart rest := by
  obtain ⟨⟨c, w⟩, both, rfl⟩ := mapFound h
  obtain ⟨mid, first, others⟩ := andThenFound both
  obtain ⟨rfl, start⟩ := oneFound first
  obtain ⟨rfl, parts, stop⟩ := spanFound others
  exact ⟨c :: w, rfl, ⟨c, w, rfl, start, parts⟩, rfl, stop⟩

theorem axisNameFound {axis : Axis} (h : axisName.run cs = some (axis, rest)) :
    cs = axis.name.toList ++ rest := by
  have named {a axis : Axis} {rest : List Char}
      (h : ((word a.name).map fun _ => a).run cs = some (axis, rest)) :
      cs = axis.name.toList ++ rest := by
    obtain ⟨_, found, rfl⟩ := mapFound h
    exact wordFound found
  unfold axisName at h
  iterate 11
    rcases eitherFound h with h | h
    · exact named h
  exact named h

theorem axisFound {found : Option Axis} (h : axis.optional.run cs = some (found, rest)) :
    ∃ w, AxisText found w ∧ cs = w ++ rest := by
  rcases optionalFound h with ⟨a, rfl, axisRun⟩ | ⟨rfl, rfl⟩
  · rcases eitherFound axisRun with h | h
    · obtain ⟨_, sign, rfl⟩ := mapFound h
      exact ⟨_, .sign, charFound sign⟩
    · obtain ⟨_, mid, named, colons⟩ := thenSkipFound h
      refine ⟨_, .named a, ?_⟩
      rw [axisNameFound named, wordFound colons]
      simp
  · exact ⟨[], .none, rfl⟩

theorem nodeTestDerives {test : NodeTest} (h : nodeTest.run cs = some (test, rest)) :
    DerivesTest cs test rest := by
  rcases eitherFound h with h | h
  · obtain ⟨_, star, rfl⟩ := mapFound h
    rw [charFound star]
    exact .any rest
  · rcases eitherFound h with h | h
    · obtain ⟨k, found, rfl⟩ := mapFound h
      rw [nodeKindParts] at found
      obtain ⟨_, mid, kindRun, parens⟩ := thenSkipFound found
      obtain ⟨_, start, opening, closing⟩ := thenSkipFound parens
      obtain ⟨g, after, gaps, rfl, rfl⟩ := paddedCharFound opening
      obtain ⟨i, inside, same⟩ := gapsBefore after
      rw [charFound closing] at same
      rw [kindWordFound kindRun, same]
      exact .kind k gaps inside rest
    · obtain ⟨s, found, rfl⟩ := mapFound h
      obtain ⟨w, rfl, isName, rfl, stop⟩ := nameFound found
      exact .name isName stop

theorem predicateFound (sound : Sound inner) (h : (predicate inner).run cs = some (e, rest)) :
    ∃ g mid after, Gaps g ∧ cs = g ++ '[' :: mid ∧ Derives mid e (']' :: after) ∧
      rest = skipGap after := by
  obtain ⟨_, closing, front, last⟩ := thenSkipFound h
  obtain ⟨_, start, opening, body⟩ := skipThenFound front
  obtain ⟨g, mid, gaps, rfl, rfl⟩ := paddedCharFound opening
  obtain ⟨k, after, others, rfl, rfl⟩ := paddedCharFound last
  exact ⟨g, mid, after, gaps, rfl, .after others (derivesSkipped (sound body)), rfl⟩

theorem predicatesSkipped (h : DerivesPredicates (skipGap cs) ps rest) :
    DerivesPredicates cs ps rest := by
  obtain ⟨g, gaps, same⟩ := gapsBefore cs
  rw [same]
  generalize skipGap cs = after at h
  cases h with
  | none others rest =>
    rw [← List.append_assoc]
    exact .none (gapsJoin gaps others) rest
  | more others first more =>
    rw [← List.append_assoc]
    exact .more (gapsJoin gaps others) first more

theorem predicatesDerive (sound : Sound inner)
    (h : (predicate inner).many.run cs = some (ps, rest)) : DerivesPredicates cs ps rest := by
  induction ps generalizing cs with
  | nil =>
    rcases manyFound h with ⟨_, rfl⟩ | ⟨_, _, _, same, _⟩
    · exact .none (g := []) (by simp [Gaps]) rest
    · cases same
  | cons p ps ih =>
    rcases manyFound h with ⟨same, _⟩ | ⟨_, _, mid, same, next, others⟩
    · cases same
    · cases same
      obtain ⟨g, start, after, gaps, rfl, body, rfl⟩ := predicateFound sound next
      exact .more gaps body (predicatesSkipped (ih others))

theorem stepSound (sound : Sound inner) (h : (step inner).run cs = some (e, rest)) :
    Derives cs e rest ∧ e.isStep = true := by
  rcases eitherFound h with h | h
  · obtain ⟨_, dots, rfl⟩ := mapFound h
    rw [wordFound dots]
    exact ⟨.parent rest, rfl⟩
  · rcases eitherFound h with h | h
    · obtain ⟨_, dot, rfl⟩ := mapFound h
      rw [wordFound dot]
      exact ⟨.current rest, rfl⟩
    · obtain ⟨⟨axis, test, ps⟩, all, rfl⟩ := mapFound h
      obtain ⟨mid, axisRun, more⟩ := andThenFound all
      obtain ⟨after, testRun, predicatesRun⟩ := andThenFound more
      obtain ⟨w, axisText, rfl⟩ := axisFound axisRun
      exact ⟨.step axisText (nodeTestDerives testRun) (predicatesDerive sound predicatesRun), rfl⟩

theorem strokeJoins (sound : Sound inner) : Joins (stroke.andThen (step inner)) := by
  intro cs mid rest l op r left h
  obtain ⟨start, strokeRun, stepRun⟩ := andThenFound h
  obtain ⟨isPath, same, ends⟩ := strokeRecognizes strokeRun
  obtain ⟨right, isStep⟩ := stepSound sound stepRun
  rw [same] at left
  exact .binary left right (fun _ => isStep) ends

theorem stepsSound {first : Parser true Expr} (sound : Sound inner) (head : Sound first) :
    Sound (steps inner first) := by
  intro cs e rest h
  obtain ⟨_, both, rfl⟩ := mapFound h
  obtain ⟨mid, firstRun, others⟩ := andThenFound both
  exact chainedDerives (strokeJoins sound) (head firstRun) others

theorem chainedRelative (relative : e.isRelative = true) (paths : ∀ m ∈ more, m.1.isPath = true) :
    (chained e more).isRelative = true := by
  induction more generalizing e with
  | nil => exact relative
  | cons m more ih =>
    obtain ⟨isPath, others⟩ := List.forall_mem_cons.mp paths
    exact ih (by simp [Expr.isRelative, isPath, relative]) others

theorem stepRelative (h : e.isStep = true) : e.isRelative = true := by
  cases e <;> first | rfl | cases h

theorem manyStrokes (h : (stroke.andThen (step inner)).many.run cs = some (more, rest)) :
    ∀ m ∈ more, m.1.isPath = true := by
  induction more generalizing cs with
  | nil => simp
  | cons m more ih =>
    rcases manyFound h with ⟨same, _⟩ | ⟨_, _, mid, same, next, others⟩
    · cases same
    · cases same
      obtain ⟨start, strokeRun, _⟩ := andThenFound next
      exact List.forall_mem_cons.mpr ⟨(strokeRecognizes strokeRun).1, ih others⟩

theorem relativeSound (sound : Sound inner) (h : (relative inner).run cs = some (e, rest)) :
    Derives cs e rest ∧ e.isRelative = true := by
  unfold relative at h
  refine ⟨stepsSound sound (fun _ _ _ h => (stepSound sound h).1) h, ?_⟩
  unfold steps at h
  obtain ⟨⟨first, more⟩, both, rfl⟩ := mapFound h
  obtain ⟨mid, firstRun, others⟩ := andThenFound both
  exact chainedRelative (stepRelative (stepSound sound firstRun).2) (manyStrokes others)

theorem strokesOf {op : Operator} (isPath : op.isPath = true) :
    op.symbol = strokes (op = .descendantPath) := by
  cases op <;> first | rfl | cases isPath

theorem absoluteSound (sound : Sound inner) : Sound (absolute inner) := by
  intro cs e rest h
  obtain ⟨⟨op, found⟩, both, rfl⟩ := mapFound h
  obtain ⟨mid, strokeRun, more⟩ := andThenFound both
  obtain ⟨isPath, rfl, _⟩ := strokeRecognizes strokeRun
  rw [strokesOf isPath]
  rcases optionalFound more with ⟨e, rfl, relativeRun⟩ | ⟨rfl, rfl⟩
  · obtain ⟨derived, relative⟩ := relativeSound sound relativeRun
    exact .absolute _ derived relative
  · exact .root _ _

theorem moreArgs (sound : Sound inner) {more : List Expr} (first : Derives cs e mid)
    (h : ((char ',').padded.skipThen inner).many.run mid = some (more, rest)) :
    DerivesArgs cs (e :: more) rest := by
  induction more generalizing cs e mid with
  | nil =>
    rcases manyFound h with ⟨_, rfl⟩ | ⟨_, _, _, same, _⟩
    · exact .one first
    · cases same
  | cons b more ih =>
    rcases manyFound h with ⟨same, _⟩ | ⟨_, _, after, same, next, others⟩
    · cases same
    · cases same
      obtain ⟨_, start, comma, body⟩ := skipThenFound next
      obtain ⟨g, more, gaps, rfl, rfl⟩ := paddedCharFound comma
      exact .more (.after gaps first) (ih (derivesSkipped (sound body)) others)

theorem argsDerive (sound : Sound inner)
    (h : (inner.separated (char ',').padded).run cs = some (es, rest)) :
    DerivesArgs cs es rest := by
  rcases separatedFound h with ⟨rfl, rfl⟩ | ⟨e, more, mid, rfl, first, others⟩
  · exact .none (g := []) (by simp [Gaps]) rest
  · exact moreArgs sound (sound first) others

theorem argsSkipped (h : DerivesArgs (skipGap cs) es rest) : DerivesArgs cs es rest := by
  obtain ⟨g, gaps, same⟩ := gapsBefore cs
  rw [same]
  generalize skipGap cs = after at h
  cases h with
  | none others rest =>
    rw [← List.append_assoc]
    exact .none (gapsJoin gaps others) rest
  | one only => exact .one (.before gaps only)
  | more first others => exact .more (.before gaps first) others

theorem argsSkipping {g : List Char} (gaps : Gaps g) (h : DerivesArgs cs es (g ++ rest)) :
    DerivesArgs cs es rest := by
  induction es generalizing cs with
  | nil =>
    cases h with
    | none others =>
      rw [← List.append_assoc]
      exact .none (gapsJoin others gaps) rest
  | cons e es ih =>
    cases h with
    | one only => exact .one (.after gaps only)
    | more first others => exact .more first (ih others)

theorem callSound (sound : Sound inner) : Sound (call inner) := by
  intro cs e rest h
  obtain ⟨⟨s, es⟩, both, rfl⟩ := mapFound h
  obtain ⟨mid, nameRun, body⟩ := andThenFound both
  obtain ⟨nameRun, accepted⟩ := providedFound nameRun
  obtain ⟨w, rfl, isName, rfl, _⟩ := nameFound nameRun
  obtain ⟨_, closing, front, last⟩ := thenSkipFound body
  obtain ⟨_, start, opening, args⟩ := skipThenFound front
  obtain ⟨g, after, gaps, rfl, rfl⟩ := paddedCharFound opening
  obtain ⟨k, behind, others, rfl, rfl⟩ := paddedCharFound last
  have function : isKindName (String.ofList w) = false := by
    simpa using (Bool.and_eq_true_iff.mp accepted).2
  have derived := argsSkipping others (argsSkipped (argsDerive sound args))
  exact derivesSkipping (.call isName function gaps derived)

theorem parenthesizedSound (sound : Sound inner) : Sound (parenthesized inner) := by
  intro cs e rest h
  obtain ⟨⟨base, ps⟩, both, rfl⟩ := mapFound h
  obtain ⟨mid, body, predicatesRun⟩ := andThenFound both
  obtain ⟨_, closing, front, last⟩ := thenSkipFound body
  obtain ⟨_, start, opening, inside⟩ := skipThenFound front
  obtain ⟨g, after, gaps, rfl, rfl⟩ := paddedCharFound opening
  obtain ⟨k, behind, others, rfl, rfl⟩ := paddedCharFound last
  have base := Derives.after others (derivesSkipped (sound inside))
  have predicates := predicatesSkipped (predicatesDerive sound predicatesRun)
  apply Derives.before gaps
  cases ps with
  | nil =>
    cases predicates with
    | none gaps rest => exact .after gaps (.group base)
  | cons p ps => exact .filtered base predicates (by simp)

theorem pathSound (sound : Sound inner) : Sound (path inner) := by
  have literals : Sound literal :=
    eitherSound (quotedBySound (Or.inl rfl)) (quotedBySound (Or.inr rfl))
  have heads : Sound (primary inner) :=
    eitherSound numberSound (eitherSound literals
      (eitherSound (callSound sound) (parenthesizedSound sound)))
  exact paddedSound (eitherSound (absoluteSound sound)
    (eitherSound (stepsSound sound heads) fun _ _ _ h => (relativeSound sound h).1))

theorem expressionSound (sound : Sound inner) : Sound (expression inner) :=
  operatorsSound (logicalRecognizes rfl) (operatorsSound (logicalRecognizes rfl)
    (operatorsSound comparisonRecognizes (pathSound sound)))

theorem nestedSound (levels : Nat) : Sound (nested .never levels) := by
  induction levels with
  | zero => exact expressionSound fun _ _ _ h => nomatch h
  | succ levels ih => exact expressionSound ih

theorem parsedDerives {source : String} (parsed : parse source = .ok e) :
    withinNesting maxNesting 0 none source.toList = true ∧ Derives (trim source.toList) e [] := by
  unfold parse at parsed
  simp only at parsed
  split at parsed
  · rename_i within
    split at parsed
    · rename_i found
      cases parsed
      exact ⟨within, nestedSound maxNesting found⟩
    · cases parsed
    · cases parsed
  · cases parsed

end ElementLocator.XPath
