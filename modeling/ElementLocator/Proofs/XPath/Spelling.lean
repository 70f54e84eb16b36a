import ElementLocator.Proofs.XPath.Derivation
import ElementLocator.Proofs.XPath.Words
/-! A source piece by piece, as the grammar reads it: figures, names with their axes, logical
operators, and what separates them. An expression is spelled by its operators and its names, and
nothing stands between a logical operator and its operands that a scan would take for either. -/
namespace ElementLocator.XPath
open ElementLocator.Text

def shownParts (axis : Option Axis) (name : List Char) : List (List Char) :=
  if axis.isSome then (split '$' name).tail else split '$' name

mutual
def Expr.logical : Expr → List Operator
  | .absolute _ e => e.logical
  | .binary l op r => l.logical ++ ((if op.isLogical then [op] else []) ++ r.logical)
  | .step _ _ ps => logicalIn ps
  | .call _ es => logicalIn es
  | .filtered e ps => e.logical ++ logicalIn ps
  | _ => []

def logicalIn : List Expr → List Operator
  | [] => []
  | e :: es => e.logical ++ logicalIn es
end

mutual
def Expr.nameParts : Expr → List (List Char)
  | .absolute _ e => e.nameParts
  | .binary l _ r => l.nameParts ++ r.nameParts
  | .step axis (.name s) ps => shownParts axis s.toList ++ namePartsIn ps
  | .step _ _ ps => namePartsIn ps
  | .call name es => shownParts none name.toList ++ namePartsIn es
  | .filtered e ps => e.nameParts ++ namePartsIn ps
  | _ => []

def namePartsIn : List Expr → List (List Char)
  | [] => []
  | e :: es => e.nameParts ++ namePartsIn es
end

def isFigure (c : Char) : Bool := isDigit c || c = '.'

inductive OperandText : List Char → List (List Char) → Prop where
  | axis {axis : Axis} {w : List Char} (text : AxisText (some axis) w) : OperandText w []
  | kind {axis : Option Axis} {w : List Char} (text : AxisText axis w) (k : NodeKind) :
      OperandText (w ++ k.name.toList) []
  | name {axis : Option Axis} {w n : List Char} (text : AxisText axis w) (isName : IsName n) :
      OperandText (w ++ n) (shownParts axis n)

inductive Piece where
  | separator
  | operand
  | operator

inductive Spells (last : Piece) (rest : List Char) :
    Piece → List Char → List Operator → List (List Char) → Prop where
  | done : Spells last rest last rest [] []
  | mark {b : Piece} {c : Char} {cs : List Char} {ops : List Operator} {names : List (List Char)}
      (noPart : isLongPart c = false) (noQuote : isQuote c = false)
      (more : Spells last rest .separator cs ops names) : Spells last rest b (c :: cs) ops names
  | literal {b : Piece} {c : Char} {w cs : List Char} {ops : List Operator}
      {names : List (List Char)} (quote : isQuote c = true) (inside : ∀ x ∈ w, x ≠ c)
      (more : Spells last rest .separator cs ops names) :
      Spells last rest b (c :: (w ++ c :: cs)) ops names
  | figures {b : Piece} {w cs : List Char} {ops : List Operator} {names : List (List Char)}
      (apart : b ≠ .operand) (nonempty : w ≠ []) (figures : ∀ c ∈ w, isFigure c = true)
      (more : Spells last rest .operand cs ops names) : Spells last rest b (w ++ cs) ops names
  | operand {b : Piece} {w cs : List Char} {shown : List (List Char)} {ops : List Operator}
      {names : List (List Char)} (apart : b ≠ .operand) (text : OperandText w shown)
      (stop : Stops isNamePart cs) (more : Spells last rest .operand cs ops names) :
      Spells last rest b (w ++ cs) ops (shown ++ names)
  | operator {b : Piece} {op : Operator} {cs : List Char} {ops : List Operator}
      {names : List (List Char)} (apart : b ≠ .operator) (logical : op.isLogical = true)
      (stop : Stops isNamePart cs) (more : Spells last rest .operator cs ops names) :
      Spells last rest b (op.symbol.toList ++ cs) (op :: ops) names

variable {a b k : Piece} {c : Char} {cs mid rest g w : List Char} {ops ops' : List Operator}
  {names names' : List (List Char)} {e l r p : Expr} {es ps : List Expr} {op : Operator}

theorem spellsAppend (first : Spells b mid a cs ops names)
    (second : Spells k rest b mid ops' names') :
    Spells k rest a cs (ops ++ ops') (names ++ names') := by
  induction first with
  | done => exact second
  | mark noPart noQuote _ ih => exact .mark noPart noQuote ih
  | literal quote inside _ ih => exact .literal quote inside ih
  | figures apart nonempty figures _ ih => exact .figures apart nonempty figures ih
  | operand apart text stop _ ih =>
    rw [List.append_assoc]
    exact .operand apart text stop ih
  | operator apart logical stop _ ih => exact .operator apart logical stop ih

theorem spellsLonger (h : Spells k rest b cs ops names) (stop : Stops isNamePart g) :
    Spells k (rest ++ g) b (cs ++ g) ops names := by
  induction h with
  | done => exact .done
  | mark noPart noQuote _ ih => exact .mark noPart noQuote ih
  | literal quote inside _ ih =>
    rw [List.cons_append, List.append_assoc]
    exact .literal quote inside ih
  | figures apart nonempty figures _ ih =>
    rw [List.append_assoc]
    exact .figures apart nonempty figures ih
  | operand apart text ends _ ih =>
    rw [List.append_assoc]
    exact .operand apart text (stopsAppend ends stop) ih
  | operator apart logical ends _ ih =>
    rw [List.append_assoc]
    exact .operator apart logical (stopsAppend ends stop) ih

def Marks (g : List Char) : Prop := ∀ c ∈ g, isLongPart c = false ∧ isQuote c = false

instance (g : List Char) : Decidable (Marks g) :=
  decidable_of_iff (g.all (fun c => !isLongPart c && !isQuote c) = true) (by simp [Marks])

def Piece.past (b : Piece) (g : List Char) : Piece := if g.isEmpty then b else .separator

theorem pastOther {x : Piece} (other : b ≠ x) (noSeparator : .separator ≠ x) (g : List Char) :
    b.past g ≠ x := by
  unfold Piece.past
  split
  · exact other
  · exact noSeparator

theorem pastMarks (nonempty : g ≠ []) : b.past g = .separator := by
  cases g with
  | nil => exact absurd rfl nonempty
  | cons c g => rfl

theorem spellsMarks (marks : Marks g) (rest : List Char) :
    Spells (b.past g) rest b (g ++ rest) [] [] := by
  induction g generalizing b with
  | nil => exact .done
  | cons c g ih =>
    obtain ⟨⟨noPart, noQuote⟩, others⟩ := List.forall_mem_cons.mp marks
    have more := ih (b := .separator) others
    have same : Piece.separator.past g = b.past (c :: g) := by cases g <;> rfl
    rw [same] at more
    exact .mark noPart noQuote more

theorem marksClass {ok : Char → Bool} (all : ∀ c ∈ g, ok c = true)
    (apart : ∀ c, ok c = true → isAlphanumeric c = false)
    (others : ['_', '-', '.', '@', ':', '$', '"', '\''].any ok = false) : Marks g := by
  intro c member
  have is := all c member
  simp only [List.any_cons, List.any_nil, Bool.or_false, Bool.or_eq_false_iff] at others
  obtain ⟨low, dash, point, sign, colon, dollar, double, single⟩ := others
  simp [isLongPart, isWordPart, isQuote, apart c is, notSame is low, notSame is dash,
    notSame is point, notSame is sign, notSame is colon, notSame is dollar, notSame is double,
    notSame is single]

theorem gapsMarks (gaps : Gaps g) : Marks g :=
  marksClass gaps (fun _ is => blankNoAlphanumeric (gapIsBlank is)) (by decide)

theorem strokesMarks (descendant : Bool) : Marks (strokes descendant).toList := by
  cases descendant <;> decide

theorem symbolMarks (noLogical : op.isLogical = false) : Marks op.symbol.toList := by
  cases op <;> first | decide | cases noLogical

theorem gapsStop (gaps : Gaps g) (noPart : isNamePart c = false) (rest : List Char) :
    Stops isNamePart (g ++ c :: rest) := by
  refine stopsAppend ?_ (stopsCons noPart rest)
  cases g with
  | nil => exact stopsNil _
  | cons d g => exact stopsCons (gapIsNoPart (gaps d (by simp))) g

def SpellsExpr (cs : List Char) (e : Expr) (rest : List Char) : Prop :=
  ∀ b, b ≠ .operand → ∃ k, k ≠ .operator ∧ Spells k rest b cs e.logical e.nameParts

def SpellsPredicates (cs : List Char) (ps : List Expr) (rest : List Char) : Prop :=
  ∀ b, b ≠ .operator → ∃ k, k ≠ .operator ∧ Spells k rest b cs (logicalIn ps) (namePartsIn ps)

def SpellsArgs (cs : List Char) (es : List Expr) (rest : List Char) : Prop :=
  ∃ k, Spells k rest .separator cs (logicalIn es) (namePartsIn es)

theorem exprBefore (marks : Marks g) (body : SpellsExpr cs e rest) :
    SpellsExpr (g ++ cs) e rest := by
  intro b apart
  obtain ⟨k, ends, spelled⟩ := body (b.past g) (pastOther apart nofun g)
  exact ⟨k, ends, spellsAppend (spellsMarks marks cs) spelled⟩

theorem exprAfter (marks : Marks g) (body : SpellsExpr cs e (g ++ rest)) :
    SpellsExpr cs e rest := by
  intro b apart
  obtain ⟨k, ends, spelled⟩ := body b apart
  have whole := spellsAppend spelled (spellsMarks marks rest)
  rw [List.append_nil, List.append_nil] at whole
  exact ⟨k.past g, pastOther ends nofun g, whole⟩

theorem exprFigures (nonempty : w ≠ []) (figures : ∀ c ∈ w, isFigure c = true)
    (silent : e.logical = [] ∧ e.nameParts = []) (rest : List Char) :
    SpellsExpr (w ++ rest) e rest := by
  intro b apart
  rw [silent.1, silent.2]
  exact ⟨.operand, nofun, .figures apart nonempty figures .done⟩

theorem numberFigures {x : Decimal.Binary64} (spelled : NumberText w x) :
    w ≠ [] ∧ ∀ c ∈ w, isFigure c = true := by
  have figure {c : Char} (digit : isDigit c = true) : isFigure c = true := by
    simp [isFigure, digit]
  cases spelled with
  | whole nonempty digits => exact ⟨nonempty, fun c member => figure (digits c member)⟩
  | fraction nonempty digits more decimals =>
    refine ⟨by simp, ?_⟩
    intro c member
    rcases List.mem_append.mp member with front | back
    · exact figure (digits c front)
    · rcases List.mem_cons.mp back with rfl | back
      · rfl
      · exact figure (decimals c back)

theorem exprBinary (wordEnds : op.isLogical = true → Stops isNamePart mid)
    (left : SpellsExpr cs l (op.symbol.toList ++ mid)) (right : SpellsExpr mid r rest) :
    SpellsExpr cs (.binary l op r) rest := by
  intro b apart
  obtain ⟨j, ends, before⟩ := left b apart
  cases logical : op.isLogical with
  | true =>
    obtain ⟨k, finish, behind⟩ := right .operator nofun
    have whole := spellsAppend before (.operator ends logical (wordEnds logical) behind)
    simp only [Expr.logical, Expr.nameParts, logical]
    exact ⟨k, finish, whole⟩
  | false =>
    obtain ⟨k, finish, behind⟩ := right .separator nofun
    have nonempty : op.symbol.toList ≠ [] := by cases op <;> decide
    have between := spellsMarks (b := j) (symbolMarks logical) mid
    rw [pastMarks nonempty] at between
    have whole := spellsAppend before (spellsAppend between behind)
    simp only [Expr.logical, Expr.nameParts, logical]
    exact ⟨k, finish, whole⟩

theorem exprAbsolute (descendant : Bool) (body : SpellsExpr cs e rest) :
    SpellsExpr ((strokes descendant).toList ++ cs) (.absolute descendant e) rest := by
  intro b apart
  simp only [Expr.logical, Expr.nameParts]
  exact exprBefore (strokesMarks descendant) body b apart

theorem exprRoot (descendant : Bool) (rest : List Char) :
    SpellsExpr ((strokes descendant).toList ++ rest) (.root descendant) rest := by
  intro b apart
  simp only [Expr.logical, Expr.nameParts]
  have nonempty : (strokes descendant).toList ≠ [] := by cases descendant <;> decide
  have spelled := spellsMarks (b := b) (strokesMarks descendant) rest
  rw [pastMarks nonempty] at spelled
  exact ⟨.separator, nofun, spelled⟩

theorem exprLiteral (quote : c = '\'' ∨ c = '"') (inside : ∀ x ∈ w, x ≠ c) (rest : List Char) :
    SpellsExpr (c :: (w ++ c :: rest)) (.literal (String.ofList w)) rest := by
  intro b apart
  simp only [Expr.logical, Expr.nameParts]
  have isMark : isQuote c = true := by rcases quote with rfl | rfl <;> rfl
  exact ⟨.separator, nofun, .literal isMark inside .done⟩

theorem predicatesNone (marks : Marks g) (rest : List Char) :
    SpellsPredicates (g ++ rest) [] rest := by
  intro b apart
  exact ⟨b.past g, pastOther apart nofun g, spellsMarks marks rest⟩

theorem noMorePredicates (rest : List Char) : SpellsPredicates rest [] rest :=
  fun b apart => ⟨b, apart, .done⟩

theorem predicatesMore (marks : Marks g) (first : SpellsExpr cs p (']' :: mid))
    (others : SpellsPredicates mid ps rest) : SpellsPredicates (g ++ '[' :: cs) (p :: ps) rest := by
  intro b apart
  rw [logicalIn, namePartsIn]
  obtain ⟨j, _, inside⟩ := first .separator nofun
  obtain ⟨k, ends, behind⟩ := others .separator nofun
  have closed : Spells k rest j (']' :: mid) (logicalIn ps) (namePartsIn ps) :=
    .mark (by decide) (by decide) behind
  have opened := Spells.mark (b := b.past g) (c := '[') (by decide) (by decide)
    (spellsAppend inside closed)
  have whole := spellsAppend (spellsMarks marks ('[' :: cs)) opened
  exact ⟨k, ends, whole⟩

theorem exprGroup (body : SpellsExpr cs e (')' :: mid)) (predicates : SpellsPredicates mid ps rest)
    (b : Piece) : ∃ k, k ≠ .operator ∧ Spells k rest b ('(' :: cs) (e.logical ++ logicalIn ps)
      (e.nameParts ++ namePartsIn ps) := by
  obtain ⟨j, _, inside⟩ := body .separator nofun
  obtain ⟨k, ends, behind⟩ := predicates .separator nofun
  have closed : Spells k rest j (')' :: mid) (logicalIn ps) (namePartsIn ps) :=
    .mark (by decide) (by decide) behind
  exact ⟨k, ends, .mark (by decide) (by decide) (spellsAppend inside closed)⟩

theorem exprStep {axis : Option Axis} {test : NodeTest} (axisText : AxisText axis w)
    (testText : DerivesTest cs test mid) (predicates : SpellsPredicates mid ps rest) :
    SpellsExpr (w ++ cs) (.step axis test ps) rest := by
  intro b apart
  cases testText with
  | any _ =>
    simp only [Expr.logical, Expr.nameParts]
    obtain ⟨k, ends, behind⟩ := predicates .separator nofun
    have star {a : Piece} : Spells k rest a ('*' :: mid) (logicalIn ps) (namePartsIn ps) :=
      .mark (by decide) (by decide) behind
    cases axis with
    | none =>
      cases axisText
      exact ⟨k, ends, star⟩
    | some axis => exact ⟨k, ends, .operand apart (.axis axisText) (stopsCons (by decide) mid) star⟩
  | @kind g h kind gaps inside _ =>
    simp only [Expr.logical, Expr.nameParts]
    obtain ⟨k, ends, behind⟩ := predicates .separator nofun
    have closed : Spells k rest (Piece.separator.past h) (')' :: mid) (logicalIn ps)
        (namePartsIn ps) := .mark (by decide) (by decide) behind
    have opened : Spells k rest (Piece.operand.past g) ('(' :: (h ++ ')' :: mid)) (logicalIn ps)
        (namePartsIn ps) := .mark (by decide) (by decide)
          (spellsAppend (spellsMarks (gapsMarks inside) _) closed)
    have called := Spells.operand apart (.kind axisText kind) (gapsStop gaps (by decide) _)
      (spellsAppend (spellsMarks (gapsMarks gaps) _) opened)
    rw [List.append_assoc] at called
    exact ⟨k, ends, called⟩
  | @name n _ isName stop =>
    simp only [Expr.logical, Expr.nameParts, String.toList_ofList]
    obtain ⟨k, ends, behind⟩ := predicates .operand nofun
    rw [← List.append_assoc]
    exact ⟨k, ends, .operand apart (.name axisText isName) stop behind⟩

theorem exprCall (isName : IsName w) (gaps : Gaps g) (args : SpellsArgs cs es (')' :: rest)) :
    SpellsExpr (w ++ (g ++ '(' :: cs)) (.call (String.ofList w) es) rest := by
  intro b apart
  simp only [Expr.logical, Expr.nameParts, String.toList_ofList]
  obtain ⟨k, inside⟩ := args
  have closed : Spells .separator rest k (')' :: rest) [] [] :=
    .mark (by decide) (by decide) .done
  have content := spellsAppend inside closed
  rw [List.append_nil, List.append_nil] at content
  have opened : Spells .separator rest (Piece.operand.past g) ('(' :: cs) (logicalIn es)
      (namePartsIn es) := .mark (by decide) (by decide) content
  exact ⟨.separator, nofun, .operand apart (.name .none isName) (gapsStop gaps (by decide) _)
    (spellsAppend (spellsMarks (gapsMarks gaps) _) opened)⟩

theorem argsNone (marks : Marks g) (rest : List Char) : SpellsArgs (g ++ rest) [] rest :=
  ⟨_, spellsMarks marks rest⟩

theorem argsOne (only : SpellsExpr cs e rest) : SpellsArgs cs [e] rest := by
  obtain ⟨k, _, spelled⟩ := only .separator nofun
  simp only [SpellsArgs, logicalIn, namePartsIn, List.append_nil]
  exact ⟨k, spelled⟩

theorem argsMore (first : SpellsExpr cs e (',' :: mid)) (others : SpellsArgs mid es rest) :
    SpellsArgs cs (e :: es) rest := by
  obtain ⟨j, _, before⟩ := first .separator nofun
  obtain ⟨k, behind⟩ := others
  rw [SpellsArgs, logicalIn, namePartsIn]
  exact ⟨k, spellsAppend before (.mark (by decide) (by decide) behind)⟩

theorem spellingFollows : Follows SpellsExpr SpellsPredicates SpellsArgs where
  before gaps body := exprBefore (gapsMarks gaps) body
  after gaps body := exprAfter (gapsMarks gaps) body
  number spelled rest := exprFigures (numberFigures spelled).1 (numberFigures spelled).2
    ⟨rfl, rfl⟩ rest
  literal quote inside rest := exprLiteral quote inside rest
  root descendant rest := exprRoot descendant rest
  absolute descendant _ body := exprAbsolute descendant body
  binary _ wordEnds left right := exprBinary wordEnds left right
  step axisText testText predicates := exprStep axisText testText predicates
  parent rest := exprFigures (w := ['.', '.']) nofun (by simp [isFigure]) ⟨rfl, rfl⟩ rest
  current rest := exprFigures (w := ['.']) nofun (by simp [isFigure]) ⟨rfl, rfl⟩ rest
  call isName _ gaps args := exprCall isName gaps args
  group body := fun b _ => by
    obtain ⟨k, ends, spelled⟩ := exprGroup body (noMorePredicates _) b
    simp only [logicalIn, namePartsIn, List.append_nil] at spelled
    exact ⟨k, ends, spelled⟩
  filtered _ base predicates := fun b _ => by
    simp only [Expr.logical, Expr.nameParts]
    exact exprGroup base predicates b
  noPredicate gaps rest := predicatesNone (gapsMarks gaps) rest
  predicate gaps first others := predicatesMore (gapsMarks gaps) first others
  noArg gaps rest := argsNone (gapsMarks gaps) rest
  oneArg only := argsOne only
  arg first others := argsMore first others

theorem blanksMarks (blank : ∀ c ∈ g, isBlank c = true) : Marks g :=
  marksClass blank (fun _ is => blankNoAlphanumeric is) (by decide)

theorem blanksStop (blank : ∀ c ∈ g, isBlank c = true) : Stops isNamePart g := by
  intro c first
  have is := blank c (List.mem_of_mem_head? first)
  have other (x : Char) (noBlank : isBlank x = false) : decide (c = x) = false := notSame is noBlank
  simp [isNamePart, blankNoAlphanumeric is, other '_' (by decide), other '-' (by decide),
    other '.' (by decide), other '$' (by decide)]

theorem parsedSpells {source : String} (parsed : parse source = .ok e) :
    ∃ k, Spells k [] .separator source.toList e.logical e.nameParts := by
  obtain ⟨front, back, parts, before, behind⟩ := trimParts source.toList
  obtain ⟨k, _, spelled⟩ := derivations spellingFollows (parsedDerives parsed).2 .separator nofun
  have longer : Spells k back .separator (trim source.toList ++ back) e.logical e.nameParts :=
    spellsLonger spelled (blanksStop behind)
  have ending : Spells (k.past back) [] k back [] [] := by
    simpa using spellsMarks (b := k) (blanksMarks behind) []
  have start := spellsMarks (b := .separator) (blanksMarks before) (trim source.toList ++ back)
  have same : Piece.separator.past front = .separator := by cases front <;> rfl
  rw [same] at start
  have whole := spellsAppend start (spellsAppend longer ending)
  rw [← parts, List.append_nil, List.append_nil] at whole
  exact ⟨_, whole⟩

end ElementLocator.XPath
