import ElementLocator.Proofs.XPath.Entry
/-! What predicates state. The conversion finds an entry for a predicate exactly if the predicate
states it, and no predicate states two. -/
namespace ElementLocator.XPath
open ElementLocator.Decimal (Binary64)
open ElementLocator.Text (sameLetters)

structure Counts (x : Binary64) (n : UInt32) : Prop where
  positive : x.negative = false
  whole : x.magnitude.natural? = some (n.toNat + 1)
  small : n.toNat + 1 < UInt32.size

def Spelled (a : Attribute) (s : String) : Value → Prop
  | .str t => a.kind = .string ∧ t = s
  | .bool b => a.kind = .boolean ∧
      sameLetters s.toList (if b then ['t', 'r', 'u', 'e'] else ['f', 'a', 'l', 's', 'e']) = true
  | _ => False

inductive States : Expr → Attribute → Value → Prop where
  | occurrence {x : Binary64} {n : UInt32} (counts : Counts x n) :
      States (.number x) .occurrence (.int n)
  | position {x : Binary64} {n : UInt32} (counts : Counts x n) :
      States (.binary (.call "position" []) .equal (.number x)) .index (.int n)
  | positionLast {x : Binary64} {n : UInt32} (counts : Counts x n) :
      States (.binary (.number x) .equal (.call "position" [])) .index (.int n)
  | compared {operand literal : Expr} {name s : String} {a : Attribute} {v : Value}
      (operandIs : attributeOperand? operand = some name)
      (literalIs : literalValue? literal = some s) (tests : a.xpathName = some name)
      (equality : a.mode = .equals) (spelled : Spelled a s v) :
      States (.binary operand .equal literal) a v
  | comparedLast {operand literal : Expr} {name s : String} {a : Attribute} {v : Value}
      (operandIs : attributeOperand? operand = some name)
      (literalIs : literalValue? literal = some s) (tests : a.xpathName = some name)
      (equality : a.mode = .equals) (spelled : Spelled a s v) :
      States (.binary literal .equal operand) a v
  | called {function name s : String} {operand literal : Expr} {a : Attribute}
      (operandIs : attributeOperand? operand = some name)
      (literalIs : literalValue? literal = some s) (tests : a.xpathName = some name)
      (compares : a.mode.function? = some function) :
      States (.call function [operand, literal]) a (.str s)
  | present {name : String} {a : Attribute} (tests : a.xpathName = some name)
      (boolean : a.kind = .boolean) :
      States (.step (some .attribute) (.name name) []) a (.bool true)

variable {p e left right operand literal : Expr} {a b : Attribute} {v w : Value} {name s : String}
  {x : Binary64} {n : UInt32} {args : List Expr}

theorem countsIff : positionBefore x = .ok n ↔ Counts x n := by
  unfold positionBefore
  constructor
  · intro h
    split at h
    · rename_i m positive whole
      split at h
      · rename_i range
        cases h
        have back : (UInt32.ofNat (m - 1)).toNat = m - 1 := UInt32.toNat_ofNat_of_lt' (by omega)
        exact ⟨positive, by rw [back, whole]; congr 1; omega, by omega⟩
      · cases h
    · cases h
  · rintro ⟨positive, whole, small⟩
    rw [positive, whole]
    simp [small]

theorem spelledOnce (yes : sameLetters s.toList ['t', 'r', 'u', 'e'] = true) :
    sameLetters s.toList ['f', 'a', 'l', 's', 'e'] = false := by
  have letters := of_decide_eq_true yes
  rw [sameLetters, letters]
  decide

theorem spelledIff (tests : a.xpathName = some name) :
    a.valueOfLiteral s = .ok v ↔ Spelled a s v := by
  unfold Attribute.valueOfLiteral
  rcases Attribute.testedKind tests with kind | kind
  · rw [kind]
    cases v <;> simp [kind, Spelled, @eq_comm _ s]
  · rw [kind]
    cases yes : sameLetters s.toList ['t', 'r', 'u', 'e'] with
    | true =>
      have only := spelledOnce yes
      cases v with
      | bool b => cases b <;> simp [kind, Spelled, yes, only]
      | _ => simp [kind, Spelled]
    | false =>
      cases no : sameLetters s.toList ['f', 'a', 'l', 's', 'e'] with
      | true =>
        cases v with
        | bool b => cases b <;> simp [kind, Spelled, yes, no]
        | _ => simp [kind, Spelled]
      | false =>
        cases v with
        | bool b => cases b <;> simp [kind, Spelled, yes, no]
        | _ => simp [kind, Spelled]

theorem stepOfOperand (h : attributeOperand? operand = some name) :
    ∃ axis test ps, operand = .step axis test ps := by
  cases operand with
  | step axis test ps => exact ⟨axis, test, ps, rfl⟩
  | _ => cases h

theorem noOperandLiteral (h : literalValue? e = some s) : attributeOperand? e = none := by
  cases operandIs : attributeOperand? e with
  | none => rfl
  | some name =>
    obtain ⟨axis, test, ps, rfl⟩ := stepOfOperand operandIs
    cases h

theorem pairIff : operandPair? operand literal = some (name, s) ↔
    attributeOperand? operand = some name ∧ literalValue? literal = some s := by
  simp only [operandPair?, Option.bind_eq_bind, Option.bind_eq_some_iff, Option.some.injEq,
    Prod.mk.injEq]
  constructor
  · rintro ⟨_, operandIs, _, literalIs, rfl, rfl⟩
    exact ⟨operandIs, literalIs⟩
  · rintro ⟨operandIs, literalIs⟩
    exact ⟨name, operandIs, s, literalIs, rfl, rfl⟩

theorem pairOfOperandLast (literalIs : literalValue? literal = some s) :
    operandPair? literal operand = none := by
  simp [operandPair?, noOperandLiteral literalIs]

theorem noPosition (operandIs : attributeOperand? operand = some name) (e : Expr) :
    comparedPosition? operand e = none ∧ comparedPosition? e operand = none := by
  obtain ⟨axis, test, ps, rfl⟩ := stepOfOperand operandIs
  constructor
  · rfl
  · unfold comparedPosition?
    split <;> simp_all

theorem foundIff {mode : MatchMode} :
    Attribute.ofXPath? name mode = some a ↔ a.xpathName = some name ∧ a.mode = mode := by
  constructor
  · exact Attribute.foundTraits
  · rintro ⟨tests, rfl⟩
    exact Attribute.testedFound tests

theorem comparedIff (name s : String) :
    (match Attribute.ofXPath? name .equals with
      | none => Except.error (Fault.conversion (.unsupportedXPathAttribute name))
      | some a => do
          let v ← a.valueOfLiteral s
          .ok (a, v)) = .ok (b, w) ↔
      b.xpathName = some name ∧ b.mode = .equals ∧ Spelled b s w := by
  cases found : Attribute.ofXPath? name .equals with
  | none =>
    constructor
    · intro h
      cases h
    · rintro ⟨tests, equality, _⟩
      rw [foundIff.mpr ⟨tests, equality⟩] at found
      cases found
  | some a =>
    obtain ⟨tests, equality⟩ := foundIff.mp found
    simp only [bindOk]
    constructor
    · rintro ⟨v, read, same⟩
      cases same
      exact ⟨tests, equality, (spelledIff tests).mp read⟩
    · rintro ⟨tests, equality, spelled⟩
      rw [foundIff.mpr ⟨tests, equality⟩] at found
      cases found
      exact ⟨w, (spelledIff tests).mpr spelled, rfl⟩

theorem comparisonIff :
    ofComparison left right = .ok (a, v) ↔ States (.binary left .equal right) a v := by
  unfold ofComparison
  constructor
  · intro h
    split at h
    · rename_i x position
      obtain ⟨n, counted, h⟩ := bindOk.mp h
      cases h
      unfold comparedPosition? at position
      split at position
      · cases position
        exact .position (countsIff.mp counted)
      · cases position
        exact .positionLast (countsIff.mp counted)
      · cases position
    · split at h
      · cases h
      · rename_i name s pair
        obtain ⟨tests, equality, spelled⟩ := (comparedIff name s).mp h
        rcases Option.or_eq_some_iff.mp pair with first | ⟨_, last⟩
        · obtain ⟨operandIs, literalIs⟩ := pairIff.mp first
          exact .compared operandIs literalIs tests equality spelled
        · obtain ⟨operandIs, literalIs⟩ := pairIff.mp last
          exact .comparedLast operandIs literalIs tests equality spelled
  · intro h
    cases h with
    | position counts | positionLast counts =>
      simp [comparedPosition?, countsIff.mpr counts, okBind]
    | compared operandIs literalIs tests equality spelled =>
      rw [(noPosition operandIs _).1, pairIff.mpr ⟨operandIs, literalIs⟩]
      exact (comparedIff _ _).mpr ⟨tests, equality, spelled⟩
    | comparedLast operandIs literalIs tests equality spelled =>
      rw [(noPosition operandIs _).2, pairOfOperandLast literalIs,
        pairIff.mpr ⟨operandIs, literalIs⟩]
      exact (comparedIff _ _).mpr ⟨tests, equality, spelled⟩

theorem functionIff {mode : MatchMode} :
    MatchMode.ofFunction? name = some mode ↔ mode.function? = some name := by
  constructor
  · intro h
    unfold MatchMode.ofFunction? at h
    split at h
    · cases h
      simp_all [MatchMode.function?]
    · split at h
      · cases h
        simp_all [MatchMode.function?]
      · split at h
        · cases h
          simp_all [MatchMode.function?]
        · cases h
  · exact fun h => (MatchMode.functionIsName h).2.2

theorem callIff : ofCall name args = .ok (a, v) ↔ States (.call name args) a v := by
  unfold ofCall
  constructor
  · intro h
    split at h
    · cases h
    · rename_i mode function
      split at h
      · split at h
        · rename_i operandIs literalIs
          split at h
          · cases h
          · rename_i found
            obtain ⟨tests, rfl⟩ := foundIff.mp found
            cases h
            exact .called operandIs literalIs tests (functionIff.mp function)
        · cases h
      · cases h
  · intro h
    cases h with
    | called operandIs literalIs tests compares =>
      simp [functionIff.mpr compares, operandIs, literalIs, foundIff.mpr ⟨tests, rfl⟩]

theorem presenceIff {axis : Option Axis} {test : NodeTest} {ps : List Expr} :
    ofPresence (.step axis test ps) = .ok (a, v) ↔ States (.step axis test ps) a v := by
  unfold ofPresence
  constructor
  · intro h
    split at h
    · cases h
    · rename_i name named
      split at h
      · rename_i found
        split at h
        · rename_i boolean
          cases h
          unfold Expr.attributeName? at named
          split at named
          · rename_i same
            cases named
            cases same
            exact .present (foundIff.mp found).1 boolean
          · cases named
        · cases h
      · cases h
  · intro h
    cases h with
    | present tests boolean =>
      have equality := Attribute.booleanEquals boolean
      simp [Expr.attributeName?, foundIff.mpr ⟨tests, equality⟩, boolean]

theorem statesIff : entryOf p = .ok (a, v) ↔ States p a v := by
  cases p with
  | number x =>
    rw [entryOf, bindOk]
    constructor
    · rintro ⟨n, counted, h⟩
      cases h
      exact .occurrence (countsIff.mp counted)
    · rintro ⟨counts⟩
      exact ⟨_, countsIff.mpr counts, rfl⟩
  | binary left op right =>
    by_cases equal : op = .equal
    · subst equal
      exact comparisonIff
    · constructor
      · intro h
        simp only [entryOf] at h
        split at h <;> cases h
      · intro h
        cases h <;> exact absurd rfl equal
  | call name args => exact callIff
  | step axis test ps => exact presenceIff
  | _ =>
    constructor
    · intro h
      cases h
    · intro h
      cases h

theorem statesOnce (first : States p a v) (second : States p b w) : a = b ∧ v = w := by
  have same := (statesIff.mpr first).symm.trans (statesIff.mpr second)
  cases same
  exact ⟨rfl, rfl⟩

end ElementLocator.XPath
