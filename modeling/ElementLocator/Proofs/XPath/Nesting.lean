import ElementLocator.Proofs.XPath.Written
import ElementLocator.Proofs.XPath.Tidy
/-! How deep brackets and parentheses lie in an expression. The scan of a source counts at least as
many as the expression needs, and in the written form of an expression it counts no more. -/
namespace ElementLocator.XPath
open ElementLocator.Text

def NodeTest.nesting : NodeTest → Nat
  | .kind _ => 1
  | _ => 0

mutual
def Expr.nesting : Expr → Nat
  | .absolute _ e => e.nesting
  | .binary l _ r => max l.nesting r.nesting
  | .step _ test ps => max test.nesting (nestingIn ps)
  | .call _ es => max 1 (nestingIn es)
  | .filtered e ps => max (1 + e.nesting) (nestingIn ps)
  | _ => 0

def nestingIn : List Expr → Nat
  | [] => 0
  | e :: es => max (1 + e.nesting) (nestingIn es)
end

variable {limit depth : Nat} {w rest : List Char} {c : Char} {e : Expr} {ps es : List Expr}

def Unnested (w : List Char) : Prop := w.all (fun c => !isGroup c && !isQuote c) = true

theorem unnestedClass {ok : Char → Bool} (all : ∀ c ∈ w, ok c = true)
    (others : ['[', '(', ']', ')', '"', '\''].any ok = false) : Unnested w := by
  refine List.all_eq_true.mpr fun c member => ?_
  simp only [List.any_cons, List.any_nil, Bool.or_false, Bool.or_eq_false_iff] at others
  obtain ⟨opening, paren, closing, parenClosing, double, single⟩ := others
  have is := all c member
  simp [isGroup, isQuote, notSame is opening, notSame is paren, notSame is closing,
    notSame is parenClosing, notSame is double, notSame is single]

theorem withinSpan (plain : Unnested w) (rest : List Char) :
    withinNesting limit depth none (w ++ rest) = withinNesting limit depth none rest := by
  induction w with
  | nil => rfl
  | cons c w ih =>
    obtain ⟨here, others⟩ := Bool.and_eq_true_iff.mp (List.all_cons.symm.trans plain)
    rw [Bool.and_eq_true, Bool.not_eq_true', Bool.not_eq_true'] at here
    rw [List.cons_append, withinPlain here.1 here.2, ih others]

theorem withinOpening (opening : c = '[' ∨ c = '(') (rest : List Char) :
    withinNesting limit depth none (c :: rest) = true ↔
      depth < limit ∧ withinNesting limit (depth + 1) none rest = true := by
  rcases opening with rfl | rfl <;> simp [withinNesting]

theorem withinClosing (closing : c = ']' ∨ c = ')') (rest : List Char) :
    withinNesting limit (depth + 1) none (c :: rest) = withinNesting limit depth none rest := by
  rcases closing with rfl | rfl <;> simp [withinNesting]

theorem withinLiteral (quote : c = '\'' ∨ c = '"') (inside : ∀ x ∈ w, x ≠ c) (rest : List Char) :
    withinNesting limit depth none (c :: (w ++ c :: rest)) =
      withinNesting limit depth none rest := by
  rw [withinNesting, if_pos quote.symm, withinQuoted inside]

theorem gapsUnnested {g : List Char} (gaps : Gaps g) : Unnested g := unnestedClass gaps (by decide)

theorem nameUnnested (isName : IsName w) : Unnested w :=
  unnestedClass (nameParts isName) (by decide)

theorem digitsUnnested (digits : ∀ c ∈ w, isDigit c = true) : Unnested w :=
  unnestedClass digits (by decide)

theorem kindUnnested (k : NodeKind) : Unnested k.name.toList := by cases k <;> rfl

theorem strokesUnnested (descendant : Bool) : Unnested (strokes descendant).toList := by
  cases descendant <;> rfl

theorem symbolUnnested (op : Operator) : Unnested op.symbol.toList := by cases op <;> rfl

theorem axisUnnested {axis : Option Axis} (h : AxisText axis w) : Unnested w := by
  cases h with
  | none => rfl
  | sign => rfl
  | named axis => cases axis <;> rfl

theorem numberUnnested {x : Decimal.Binary64} (h : NumberText w x) : Unnested w := by
  cases h with
  | whole _ digits => exact digitsUnnested digits
  | fraction _ digits _ decimals =>
    have front := digitsUnnested digits
    have back := digitsUnnested decimals
    rw [Unnested] at front back ⊢
    rw [List.all_append, List.all_cons, front, back]
    rfl

def Passes (limit : Nat) (cs : List Char) (levels : Nat) (rest : List Char) : Prop :=
  ∀ depth ≤ limit, withinNesting limit depth none cs = true →
    depth + levels ≤ limit ∧ withinNesting limit depth none rest = true

theorem passesSpan {levels : Nat} {cs : List Char} (plain : Unnested w)
    (h : Passes limit cs levels rest) : Passes limit (w ++ cs) levels rest := by
  intro depth room within
  rw [withinSpan plain] at within
  exact h depth room within

theorem passesNothing (rest : List Char) : Passes limit rest 0 rest :=
  fun _ room within => ⟨room, within⟩

theorem passesGroup {start finish : Char} {cs mid : List Char} {levels : Nat}
    (opening : start = '[' ∨ start = '(') (closing : finish = ']' ∨ finish = ')')
    (h : Passes limit cs levels (finish :: mid)) :
    Passes limit (start :: cs) (1 + levels) mid := by
  intro depth _ within
  obtain ⟨room, inner⟩ := (withinOpening opening cs).mp within
  obtain ⟨deep, after⟩ := h (depth + 1) room inner
  rw [withinClosing closing] at after
  exact ⟨by omega, after⟩

theorem passesBoth {cs mid : List Char} {m n : Nat} (first : Passes limit cs m mid)
    (second : Passes limit mid n rest) : Passes limit cs (max m n) rest := by
  intro depth room within
  obtain ⟨deep, after⟩ := first depth room within
  obtain ⟨other, last⟩ := second depth room after
  exact ⟨by omega, last⟩

theorem testPasses {test : NodeTest} {cs : List Char} (h : DerivesTest cs test rest) :
    Passes limit cs test.nesting rest := by
  cases h with
  | any rest => exact passesSpan (w := ['*']) rfl (passesNothing rest)
  | name isName => exact passesSpan (nameUnnested isName) (passesNothing rest)
  | kind k gaps inside rest =>
    have body : Passes limit (_ ++ ')' :: rest) 0 (')' :: rest) :=
      passesSpan (gapsUnnested inside) (passesNothing (')' :: rest))
    exact passesSpan (kindUnnested k) (passesSpan (gapsUnnested gaps)
      (passesGroup (Or.inr rfl) (Or.inr rfl) body))

theorem passesAfter {g cs : List Char} {levels : Nat} (gaps : Gaps g)
    (h : Passes limit cs levels (g ++ rest)) : Passes limit cs levels rest := by
  intro depth room within
  obtain ⟨deep, after⟩ := h depth room within
  rw [withinSpan (gapsUnnested gaps)] at after
  exact ⟨deep, after⟩

def PassesArgs (limit : Nat) (cs : List Char) (es : List Expr) (rest : List Char) : Prop :=
  ∀ depth < limit, withinNesting limit (depth + 1) none cs = true →
    depth + nestingIn es ≤ limit ∧ withinNesting limit (depth + 1) none rest = true

theorem passesCall {cs : List Char} {name : String}
    (args : PassesArgs limit cs es (')' :: rest)) :
    Passes limit ('(' :: cs) (Expr.call name es).nesting rest := by
  intro depth _ within
  obtain ⟨room, inner⟩ := (withinOpening (Or.inr rfl) cs).mp within
  obtain ⟨deep, after⟩ := args depth room inner
  rw [withinClosing (Or.inr rfl)] at after
  rw [Expr.nesting]
  exact ⟨by omega, after⟩

theorem passesArg {cs : List Char} {e : Expr} (first : Passes limit cs e.nesting rest) :
    PassesArgs limit cs [e] rest := by
  intro depth room within
  obtain ⟨deep, after⟩ := first (depth + 1) room within
  simp only [nestingIn]
  exact ⟨by omega, after⟩

theorem passesMoreArgs {cs mid : List Char} {e : Expr}
    (first : Passes limit cs e.nesting (',' :: mid)) (others : PassesArgs limit mid es rest) :
    PassesArgs limit cs (e :: es) rest := by
  intro depth room within
  obtain ⟨deep, after⟩ := first (depth + 1) room within
  rw [withinPlain rfl rfl] at after
  obtain ⟨more, last⟩ := others depth room after
  simp only [nestingIn]
  exact ⟨by omega, last⟩

theorem nestingFollows : Follows (fun cs e rest => Passes limit cs e.nesting rest)
    (fun cs ps rest => Passes limit cs (nestingIn ps) rest)
    (fun cs es rest => PassesArgs limit cs es rest) where
  before gaps body := passesSpan (gapsUnnested gaps) body
  after gaps body := passesAfter gaps body
  number spelled rest := passesSpan (numberUnnested spelled) (passesNothing rest)
  literal quote inside rest := fun _ room within =>
    ⟨room, (withinLiteral quote inside rest).symm.trans within⟩
  root descendant rest := passesSpan (strokesUnnested descendant) (passesNothing rest)
  absolute descendant _ body := passesSpan (strokesUnnested descendant) body
  binary _ _ left right := passesBoth left (passesSpan (symbolUnnested _) right)
  step axisText testText predicates :=
    passesSpan (axisUnnested axisText) (passesBoth (testPasses testText) predicates)
  parent rest := passesSpan (w := ['.', '.']) rfl (passesNothing rest)
  current rest := passesSpan (w := ['.']) rfl (passesNothing rest)
  call isName _ gaps args :=
    passesSpan (nameUnnested isName) (passesSpan (gapsUnnested gaps) (passesCall args))
  group body := fun depth room within =>
    have ⟨deep, after⟩ := passesGroup (Or.inr rfl) (Or.inr rfl) body depth room within
    ⟨by omega, after⟩
  filtered _ base predicates := passesBoth (passesGroup (Or.inr rfl) (Or.inr rfl) base) predicates
  noPredicate gaps rest := passesSpan (gapsUnnested gaps) (passesNothing rest)
  predicate gaps first others := passesSpan (gapsUnnested gaps)
    (passesBoth (passesGroup (Or.inl rfl) (Or.inl rfl) first) others)
  noArg gaps rest := fun depth room within => by
    rw [withinSpan (gapsUnnested gaps)] at within
    exact ⟨by simp only [nestingIn]; omega, within⟩
  oneArg only := passesArg only
  arg first others := passesMoreArgs first others

theorem withinPrefix {quote : Option Char} {cs : List Char}
    (h : withinNesting limit depth quote (cs ++ rest) = true) :
    withinNesting limit depth quote cs = true := by
  induction cs generalizing depth quote with
  | nil => rw [withinNesting]
  | cons c cs ih =>
    cases quote with
    | some mark => exact ih h
    | none =>
      rw [List.cons_append, withinNesting] at h
      rw [withinNesting]
      split
      · rename_i mark
        rw [if_pos mark] at h
        exact ih h
      · rename_i noMark
        rw [if_neg noMark] at h
        split
        · rename_i opening
          rw [if_pos opening, Bool.and_eq_true] at h
          rw [Bool.and_eq_true]
          exact ⟨h.1, ih h.2⟩
        · rename_i noOpening
          rw [if_neg noOpening] at h
          split
          · rename_i closing
            rw [if_pos closing] at h
            exact ih h
          · rename_i noClosing
            rw [if_neg noClosing] at h
            exact ih h

theorem withinTrimmed {cs : List Char} (h : withinNesting limit depth none cs = true) :
    withinNesting limit depth none (trim cs) = true := by
  obtain ⟨front, back, parts, blank, _⟩ := trimParts cs
  have plain : Unnested front := unnestedClass blank (by decide)
  rw [parts, withinSpan plain] at h
  exact withinPrefix h

theorem parsedNesting {source : String} (parsed : parse source = .ok e) :
    e.nesting ≤ maxNesting := by
  obtain ⟨within, derived⟩ := parsedDerives parsed
  obtain ⟨deep, _⟩ := derivations nestingFollows derived 0 (Nat.zero_le maxNesting)
    (withinTrimmed within)
  omega

def Transparent (limit : Nat) (e : Expr) : Prop :=
  ∀ depth rest, depth + e.nesting ≤ limit → withinNesting limit depth none (e.text.toList ++ rest) =
    withinNesting limit depth none rest

theorem withinGroup {start finish : Char} (opening : start = '[' ∨ start = '(')
    (closing : finish = ']' ∨ finish = ')') (room : depth < limit)
    (content : withinNesting limit (depth + 1) none (w ++ finish :: rest) =
      withinNesting limit (depth + 1) none (finish :: rest)) :
    withinNesting limit depth none (start :: (w ++ finish :: rest)) =
      withinNesting limit depth none rest := by
  rw [Bool.eq_iff_iff, withinOpening opening, content, withinClosing closing]
  exact ⟨And.right, fun within => ⟨room, within⟩⟩

theorem predicatesWithin (transparent : ∀ p ∈ ps, Transparent limit p)
    (room : depth + nestingIn ps ≤ limit) (rest : List Char) :
    withinNesting limit depth none ((predicatesText ps).toList ++ rest) =
      withinNesting limit depth none rest := by
  induction ps with
  | nil => rfl
  | cons p ps ih =>
    obtain ⟨first, others⟩ := List.forall_mem_cons.mp transparent
    rw [nestingIn] at room
    rw [firstPredicateText, withinGroup (Or.inl rfl) (Or.inl rfl) (by omega)
      (first (depth + 1) _ (by omega))]
    exact ih others (by omega)

theorem argsWithin (transparent : ∀ e ∈ es, Transparent limit e)
    (room : depth + nestingIn es ≤ limit) (rest : List Char) :
    withinNesting limit (depth + 1) none ((argsText es).toList ++ rest) =
      withinNesting limit (depth + 1) none rest := by
  induction es with
  | nil => rfl
  | cons a es ih =>
    obtain ⟨first, others⟩ := List.forall_mem_cons.mp transparent
    rw [nestingIn] at room
    cases es with
    | nil => exact first (depth + 1) rest (by omega)
    | cons b es =>
      rw [firstArgumentText, first (depth + 1) _ (by omega), withinPlain rfl rfl,
        withinPlain rfl rfl]
      exact ih others (by omega)

theorem testWithin {axis : Option Axis} {test : NodeTest} (formed : Formed (.step axis test ps))
    (room : depth + test.nesting ≤ limit) (rest : List Char) :
    withinNesting limit depth none (test.text.toList ++ rest) =
      withinNesting limit depth none rest := by
  cases test with
  | any => exact withinPlain rfl rfl rest
  | name s => exact withinSpan (nameUnnested formed) rest
  | kind k =>
    have text : (NodeTest.kind k).text.toList ++ rest =
        k.name.toList ++ '(' :: ([] ++ ')' :: rest) := by
      simp [NodeTest.text]
    rw [NodeTest.nesting] at room
    rw [text, withinSpan (kindUnnested k),
      withinGroup (Or.inr rfl) (Or.inr rfl) (by omega) rfl]

theorem spacedUnnested (op : Operator) : Unnested op.spaced.toList := by cases op <;> rfl

theorem textTransparent (regular : e.Everywhere Regular) : Transparent limit e := by
  revert regular
  refine inside (P := fun e => e.Everywhere Regular → Transparent limit e) ?_ e
  intro e ih regular depth rest room
  obtain ⟨⟨formed, spelled, _⟩, parts⟩ := everywhere.mp regular
  have part x (member : x ∈ e.operands) : Transparent limit x := ih x member (parts x member)
  cases e with
  | literal s =>
    obtain ⟨mark, quote, free, text⟩ := literalTextIs formed
    rw [Expr.text, text, List.cons_append, List.append_assoc]
    exact withinLiteral quote free rest
  | number x => exact withinSpan (numberUnnested spelled) rest
  | root descendant => exact withinSpan (strokesUnnested descendant) rest
  | absolute descendant e =>
    rw [absoluteText, withinSpan (strokesUnnested descendant)]
    exact part e (by simp [Expr.operands]) depth rest room
  | binary l op r =>
    rw [Expr.nesting] at room
    rw [binaryText, part l (by simp [Expr.operands]) depth _ (by omega),
      withinSpan (spacedUnnested op)]
    exact part r (by simp [Expr.operands]) depth rest (by omega)
  | step axis test ps =>
    rw [Expr.nesting] at room
    rw [stepText, withinSpan (axisUnnested (writtenAxis axis)), testWithin formed (by omega)]
    have transparent : ∀ p ∈ ps, Transparent limit p := part
    exact predicatesWithin transparent (by omega) rest
  | parent => exact withinSpan (w := ['.', '.']) rfl rest
  | current => exact withinSpan (w := ['.']) rfl rest
  | call name es =>
    rw [Expr.nesting] at room
    rw [callText, withinSpan (nameUnnested formed.1)]
    have transparent : ∀ e ∈ es, Transparent limit e := part
    exact withinGroup (Or.inr rfl) (Or.inr rfl) (by omega) (argsWithin transparent (by omega) _)
  | filtered e ps =>
    rw [Expr.nesting] at room
    obtain ⟨base, predicates⟩ := List.forall_mem_cons.mp part
    rw [filteredText, withinGroup (Or.inr rfl) (Or.inr rfl) (by omega)
      (base (depth + 1) _ (by omega))]
    exact predicatesWithin predicates (by omega) rest

end ElementLocator.XPath
