import ElementLocator.Proofs.XPath.Predicate
import ElementLocator.Proofs.XPath.RoundTrip
/-! The literal of a string stands for that string and for no other. Where it ends does not depend
on what follows, and an expression is read alike whatever strings its literals are written for. -/
namespace ElementLocator.XPath
open ElementLocator.Text
open ElementLocator.Text.Parser

mutual
def Expr.filled (values : String → String) : Expr → Expr
  | .literal s => literalExpr (values s)
  | .absolute d e => .absolute d (e.filled values)
  | .binary l op r => .binary (l.filled values) op (r.filled values)
  | .step axis test ps => .step axis test (filledIn values ps)
  | .call name es => .call name (filledIn values es)
  | .filtered e ps => .filtered (e.filled values) (filledIn values ps)
  | .number x => .number x
  | .root d => .root d
  | .parent => .parent
  | .current => .current

def filledIn (values : String → String) : List Expr → List Expr
  | [] => []
  | e :: es => e.filled values :: filledIn values es
end

variable {inner : Parser true Expr} {rest more : List Char} {e : Expr} {a : Attribute}
  {s t text : String} {p : List Char} {ps : List (List Char)} {values : String → String}

theorem literalFormed (quoted : Quoted s p) : Formed (.literal s) := by
  cases quoted with
  | double free => exact Or.inr free
  | single free => exact Or.inl free

theorem moreLiteralsRegular (free : ∀ p ∈ ps, ∀ c ∈ p, c ≠ '"') :
    EverywhereIn Regular (moreLiterals ps) := by
  induction ps with
  | nil => trivial
  | cons p ps ih =>
    rw [List.forall_mem_cons] at free
    have quote : Formed (.literal "\"") := literalFormed quoteQuoted
    have piece : Formed (.literal (String.ofList p)) := literalFormed (doubledQuoted free.1)
    exact ⟨⟨quote, trivial, trivial⟩, ⟨piece, trivial, trivial⟩, ih free.2⟩

theorem literalRegular (s : String) : (literalExpr s).Everywhere Regular := by
  rcases literalOfShape s with ⟨same, quoted⟩ | ⟨p, ps, pieces, same, _⟩
  · rw [same]
    exact ⟨literalFormed quoted, trivial, trivial⟩
  · have free := splitFree '"' s.toList
    rw [pieces, List.forall_mem_cons] at free
    have first : Formed (.literal (String.ofList p)) := literalFormed (doubledQuoted free.1)
    have others := moreLiteralsRegular free.2
    rw [same]
    exact ⟨⟨⟨concatIsName, by decide⟩, trivial, trivial⟩, ⟨first, trivial, trivial⟩, others⟩

theorem moreLiteralsNesting (ps : List (List Char)) : nestingIn (moreLiterals ps) ≤ 1 := by
  induction ps with
  | nil => exact Nat.zero_le 1
  | cons p ps ih =>
    simp only [moreLiteralsCons, nestingIn, Expr.nesting]
    omega

theorem literalNesting (s : String) : (literalExpr s).nesting ≤ 1 := by
  rcases literalOfShape s with ⟨same, _⟩ | ⟨p, ps, _, same, _⟩
  · simp [same, Expr.nesting]
  · have others := moreLiteralsNesting ps
    simp only [same, Expr.nesting, nestingIn]
    omega

theorem doubledText (free : ∀ c ∈ p, c ≠ '"') :
    (literalText (String.ofList p)).toList = doubled p := by
  have absent : '"' ∉ p := fun member => free '"' member rfl
  simp [literalText, doubled, absent]

theorem moreLiteralsText (first : ∀ c ∈ p, c ≠ '"') (free : ∀ p ∈ ps, ∀ c ∈ p, c ≠ '"') :
    (argsText (.literal (String.ofList p) :: moreLiterals ps)).toList =
      doubled p ++ morePieces ps := by
  induction ps generalizing p with
  | nil => simpa [moreLiterals, morePieces, argsText, Expr.text] using doubledText first
  | cons q ps ih =>
    rw [List.forall_mem_cons] at free
    have tail := ih free.1 free.2
    have quote : (literalText "\"").toList = ['\'', '"', '\''] := by decide
    rw [moreLiteralsCons, argsText, argsText]
    simp only [Expr.text, String.toList_append, doubledText first, quote, tail]
    simp [morePieces]

theorem quotedText (quoted : Quoted s p) : literalText s = literalOf s := by
  cases quoted with
  | double free =>
    have absent : '"' ∉ s.toList := fun member => free '"' member rfl
    simp [literalText, literalOf, absent]
  | single free =>
    have absent : '\'' ∉ s.toList := fun member => free '\'' member rfl
    simp [literalText, literalOf, absent]

theorem literalExprText (s : String) : (literalExpr s).text = literalOf s := by
  rcases literalOfShape s with ⟨same, quoted⟩ | ⟨p, ps, pieces, same, text⟩
  · rw [same, Expr.text, quotedText quoted]
  · have free := splitFree '"' s.toList
    rw [pieces, List.forall_mem_cons] at free
    have arguments := moreLiteralsText free.1 free.2
    rw [String.ext_iff, same, text]
    simp [Expr.text, arguments]

theorem literalParsed (s : String) : parse (literalOf s) = .ok (literalExpr s) := by
  have room : (literalExpr s).nesting ≤ maxNesting :=
    Nat.le_trans (literalNesting s) (by decide)
  rw [← literalExprText]
  exact textParsed (literalRegular s) room

theorem literalPrefixFree (same : (literalOf s).toList ++ rest = (literalOf t).toList ++ more) :
    s = t ∧ rest = more := by
  obtain ⟨_, one, _⟩ := literalOperand .never s rest
  obtain ⟨_, other, _⟩ := literalOperand .never t more
  rw [same, other, Option.some_inj, Prod.mk.injEq] at one
  have value := literalValueOfLiteral s
  rw [← one.1, literalValueOfLiteral] at value
  cases value
  exact ⟨rfl, List.append_cancel_left same⟩

theorem literalInjective : Function.Injective literalOf := by
  intro s t same
  have whole : (literalOf s).toList ++ [] = (literalOf t).toList ++ [] := by rw [same]
  exact (literalPrefixFree whole).1

theorem literalKind (s : String) :
    (literalExpr s).isStep = false ∧ (literalExpr s).isRelative = false ∧
      (literalExpr s).isHeaded = true ∧ (literalExpr s).level = 3 := by
  rcases literalOfShape s with ⟨same, _⟩ | ⟨p, ps, _, same, _⟩ <;>
    rw [same] <;> exact ⟨rfl, rfl, rfl, rfl⟩

theorem filledKind (values : String → String) (e : Expr) :
    (e.filled values).isStep = e.isStep ∧ (e.filled values).isRelative = e.isRelative ∧
      (e.filled values).isHeaded = e.isHeaded ∧ (e.filled values).level = e.level := by
  refine inside (P := fun e => (e.filled values).isStep = e.isStep ∧
    (e.filled values).isRelative = e.isRelative ∧ (e.filled values).isHeaded = e.isHeaded ∧
    (e.filled values).level = e.level) ?_ e
  intro e ih
  cases e with
  | literal s => exact literalKind (values s)
  | binary l op r =>
    obtain ⟨_, relative, headed, _⟩ := ih l (by simp [Expr.operands])
    simp [Expr.filled, Expr.isStep, Expr.isRelative, Expr.isHeaded, Expr.level, relative, headed]
  | _ => exact ⟨rfl, rfl, rfl, rfl⟩

theorem filledInMap (values : String → String) (es : List Expr) :
    filledIn values es = es.map (Expr.filled values) := by
  induction es with
  | nil => rfl
  | cons e es ih => rw [filledIn, ih, List.map_cons]

theorem filledOperands (noLiteral : ∀ s, e ≠ .literal s) :
    (e.filled values).operands = e.operands.map (Expr.filled values) := by
  cases e with
  | literal s => exact absurd rfl (noLiteral s)
  | _ => simp [Expr.filled, Expr.operands, filledInMap]

theorem filledHere (noLiteral : ∀ s, e ≠ .literal s) (regular : Regular e) :
    Regular (e.filled values) := by
  obtain ⟨formed, exactly, leveled⟩ := regular
  cases e with
  | literal s => exact absurd rfl (noLiteral s)
  | absolute d e => exact ⟨(filledKind values e).2.1.trans formed, trivial, trivial⟩
  | binary l op r =>
    obtain ⟨_, relative, headed, left⟩ := filledKind values l
    obtain ⟨step, _, _, right⟩ := filledKind values r
    refine ⟨trivial, trivial, ?_⟩
    simpa only [Expr.filled, Leveled, relative, headed, left, step, right] using leveled
  | filtered e ps =>
    exact ⟨by simpa [Expr.filled, Formed, filledInMap] using formed, trivial, trivial⟩
  | step axis test ps => cases test <;> exact ⟨formed, trivial, trivial⟩
  | _ => exact ⟨formed, exactly, leveled⟩

theorem filledRegular (regular : e.Everywhere Regular) :
    (e.filled values).Everywhere Regular := by
  revert regular
  refine inside (P := fun e => e.Everywhere Regular → (e.filled values).Everywhere Regular) ?_ e
  intro e ih regular
  by_cases literal : ∃ s, e = .literal s
  · obtain ⟨s, rfl⟩ := literal
    exact literalRegular (values s)
  · have noLiteral : ∀ s, e ≠ .literal s := fun s same => literal ⟨s, same⟩
    rw [everywhere] at regular ⊢
    rw [filledOperands noLiteral, List.forall_mem_map]
    exact ⟨filledHere noLiteral regular.1, fun x member => ih x member (regular.2 x member)⟩

theorem filledParsed (regular : e.Everywhere Regular)
    (room : (e.filled values).nesting ≤ maxNesting) :
    parse (e.filled values).text = .ok (e.filled values) :=
  textParsed (filledRegular regular) room

theorem stringPredicateRead (written : a.predicate (.str s) = .ok text) (rest : List Char) :
    (predicate (expression (expression (expression inner)))).run (text.toList ++ rest) =
      some (asked a (.str s), skipGap rest) ∧ entryOf (asked a (.str s)) = .ok (a, .str s) := by
  obtain ⟨plain, rfl⟩ := plainOfPredicate written
  have body : (expression (expression (expression inner))).run
      (condition a (.str s) ++ ']' :: rest) = some (asked a (.str s), ']' :: rest) :=
    conditionRead plain (closesCons (by simp) rest)
  refine ⟨?_, entryOfAsked plain rfl⟩
  simpa [predicateText] using predicateSkip body (conditionGap plain (']' :: rest))

/-- Every string is read back from its literal, and its literal is that of no other string. What
stands behind a literal does not move its end. An expression is read the same, up to the values of
its literals, whatever strings these are written for, and so is the predicate of an attribute. -/
theorem literalsEncode :
    (∀ s, parse (literalOf s) = .ok (literalExpr s) ∧ literalValue? (literalExpr s) = some s ∧
        (literalExpr s).text = literalOf s) ∧
      Function.Injective literalOf ∧
      (∀ s t rest more, (literalOf s).toList ++ rest = (literalOf t).toList ++ more →
        s = t ∧ rest = more) ∧
      (∀ inner s rest, ∃ behind, (primary (expression inner)).run ((literalOf s).toList ++ rest) =
        some (literalExpr s, behind) ∧ (behind = rest ∨ behind = skipGap rest)) ∧
      (∀ (e : Expr) (values : String → String), e.Everywhere Regular →
        (e.filled values).nesting ≤ maxNesting →
        parse (e.filled values).text = .ok (e.filled values)) ∧
      ∀ inner a s text rest, Attribute.predicate a (.str s) = .ok text →
        (predicate (expression (expression (expression inner)))).run (text.toList ++ rest) =
          some (asked a (.str s), skipGap rest) ∧ entryOf (asked a (.str s)) = .ok (a, .str s) :=
  ⟨fun s => ⟨literalParsed s, literalValueOfLiteral s, literalExprText s⟩, literalInjective,
    fun _ _ _ _ => literalPrefixFree, literalOperand, fun _ _ => filledParsed,
    fun _ _ _ _ rest written => stringPredicateRead written rest⟩

theorem closersEncoded :
    let value := "'\")] or ('"
    let e : Expr := .absolute true (.step none .any [.call "contains"
      [.step (some .attribute) (.name "text") [], .literal ""]])
    (e.Everywhere Regular ∧ (e.filled fun _ => value).nesting ≤ maxNesting ∧
        parse "//*[contains(@text, concat(\"'\", '\"', \")] or ('\"))]" =
          .ok (e.filled fun _ => value)) ∧
      (Attribute.predicate .textContains (.str value) =
          .ok "[contains(@text, concat(\"'\", '\"', \")] or ('\"))]" ∧
        (predicate (expression (expression (expression .never)))).run
          "[contains(@text, concat(\"'\", '\"', \")] or ('\"))] /*".toList =
          some (asked .textContains (.str value), "/*".toList)) := by
  intro value e
  have regular : e.Everywhere Regular := by
    simp [e, Expr.Everywhere, EverywhereIn, Regular, Formed, Exact, Leveled, Expr.isRelative,
      Expr.isStep]
    decide
  have room : (e.filled fun _ => value).nesting ≤ maxNesting := by decide +kernel
  have source : (e.filled fun _ => value).text =
      "//*[contains(@text, concat(\"'\", '\"', \")] or ('\"))]" := by decide +kernel
  have condition : predicateText .textContains (.str value) =
      "[contains(@text, concat(\"'\", '\"', \")] or ('\"))]" := by decide +kernel
  have written : Attribute.predicate .textContains (.str value) = .ok _ :=
    predicateOfPlain (plainStr.mpr rfl)
  rw [condition] at written
  obtain ⟨_, _, _, _, tree, test⟩ := literalsEncode
  have parsed := tree e (fun _ => value) regular room
  rw [source] at parsed
  exact ⟨⟨regular, room, parsed⟩, written,
    (test .never .textContains value _ " /*".toList written).1⟩

end ElementLocator.XPath
