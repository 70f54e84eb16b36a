import ElementLocator.Proofs.Attribute.Takes
import ElementLocator.Proofs.Decimal.Whole
import ElementLocator.Proofs.XPath.Literal
/-! The predicate of an attribute with a value: when it is written, how it is read, and that it asks
for that attribute with that value. -/
namespace ElementLocator.XPath
open ElementLocator.Text
open ElementLocator.Text.Parser
open ElementLocator.Decimal (Magnitude digits)

variable {inner : Parser true Expr} {rest w : List Char} {a : Attribute} {v : Value}
  {name text : String}

def compared : Value → String
  | .str s => s
  | .bool true => "true"
  | _ => "false"

def tested (a : Attribute) : String := a.xpathName.getD ""

def condition (a : Attribute) : Value → List Char
  | .int n =>
      if a = .index then "position()=".toList ++ digits (n.toNat + 1) else digits (n.toNat + 1)
  | v =>
      let operands := '@' :: (tested a).toList
      let literal := (literalOf (compared v)).toList
      match a.mode.function? with
      | some function => function.toList ++ '(' :: (operands ++ ',' :: ' ' :: (literal ++ [')']))
      | none => operands ++ '=' :: literal

def asked (a : Attribute) : Value → Expr
  | .int n =>
      let number := .number ⟨false, Magnitude.ofDecimal (n.toNat + 1) 0⟩
      if a = .index then .binary (.call "position" []) .equal number else number
  | v =>
      let operand := .step (some .attribute) (.name (tested a)) []
      let literal := literalExpr (compared v)
      match a.mode.function? with
      | some function => .call function [operand, literal]
      | none => .binary operand .equal literal

def predicateText (a : Attribute) (v : Value) : String :=
  String.ofList ('[' :: (condition a v ++ [']']))

theorem predicateNamed (h : a.xpathName = some name) : a.predicate v = (do
    let literal ← a.literal v
    match a.mode.function? with
    | some function => .ok ("[" ++ function ++ "(@" ++ name ++ ", " ++ literal ++ ")]")
    | none => .ok ("[@" ++ name ++ "=" ++ literal ++ "]")) := by
  cases a <;> cases h <;> rfl

theorem plainOfLiteral {literal : String} (h : a.literal v = .ok literal) : Plain (a, v) := by
  unfold Attribute.literal at h
  split at h
  · rename_i kind
    exact plainStr.mpr kind
  · rename_i kind
    exact plainBool.mpr kind
  · cases h

theorem literalTaken (plain : Plain (a, v)) (h : a.xpathName = some name) :
    a.literal v = .ok (literalOf (compared v)) := by
  cases v with
  | str s => simp [Attribute.literal, plainStr.mp plain, compared]
  | bool b => cases b <;> simp [Attribute.literal, plainBool.mp plain, compared] <;> rfl
  | int n =>
    have kind := plainInt.mp plain
    rcases Attribute.testedKind h with other | other <;> rw [kind] at other <;> cases other
  | nested d => exact absurd plain plainNested

theorem conditionNamed (named : ∀ n, v ≠ .int n) :
    condition a v = match a.mode.function? with
      | some function =>
          function.toList ++ '(' :: '@' ::
            ((tested a).toList ++ ',' :: ' ' :: ((literalOf (compared v)).toList ++ [')']))
      | none => '@' :: ((tested a).toList ++ '=' :: (literalOf (compared v)).toList) := by
  cases v with
  | int n => exact absurd rfl (named n)
  | _ => simp only [condition]; split <;> simp

theorem askedNamed (named : ∀ n, v ≠ .int n) :
    asked a v = match a.mode.function? with
      | some function =>
          .call function
            [.step (some .attribute) (.name (tested a)) [], literalExpr (compared v)]
      | none =>
          .binary (.step (some .attribute) (.name (tested a)) []) .equal
            (literalExpr (compared v)) := by
  cases v with
  | int n => exact absurd rfl (named n)
  | _ => rfl

theorem plainShape (plain : Plain (a, v)) :
    (∃ n, v = .int n ∧ (a = .index ∨ a = .occurrence)) ∨
      (a.xpathName = some (tested a) ∧ ∀ n, v ≠ .int n) := by
  cases v with
  | str s =>
    obtain ⟨name, named⟩ := Attribute.testedOfKind (Or.inl (plainStr.mp plain))
    exact Or.inr ⟨by simp [tested, named], by simp⟩
  | bool b =>
    obtain ⟨name, named⟩ := Attribute.testedOfKind (Or.inr (plainBool.mp plain))
    exact Or.inr ⟨by simp [tested, named], by simp⟩
  | int n => exact Or.inl ⟨n, rfl, Attribute.numericIs (plainInt.mp plain)⟩
  | nested d => exact absurd plain plainNested

theorem predicateOfPlain (plain : Plain (a, v)) : a.predicate v = .ok (predicateText a v) := by
  rcases plainShape plain with ⟨n, rfl, rfl | rfl⟩ | ⟨named, noNumber⟩
  · simp [Attribute.predicate, predicateText, condition, Attribute.place, numeral, String.ext_iff]
  · simp [Attribute.predicate, predicateText, condition, Attribute.place, numeral, String.ext_iff]
  · rw [predicateNamed named, literalTaken plain named]
    simp only [predicateText, conditionNamed noNumber]
    cases a.mode.function? with
    | none => simp [bind, Except.bind, String.ext_iff]
    | some function => simp [bind, Except.bind, String.ext_iff]

theorem predicateOfUntested (h : a.xpathName = none) (written : a.predicate v = .ok text) :
    Plain (a, v) := by
  cases a <;> cases h <;> cases v <;> first | exact ⟨rfl, rfl⟩ | cases written

theorem plainOfPredicate (h : a.predicate v = .ok text) :
    Plain (a, v) ∧ text = predicateText a v := by
  have plain : Plain (a, v) := by
    cases named : a.xpathName with
    | none => exact predicateOfUntested named h
    | some name =>
      rw [predicateNamed named] at h
      cases literal : a.literal v with
      | error fault => rw [literal] at h; cases h
      | ok s => exact plainOfLiteral literal
  rw [predicateOfPlain plain] at h
  exact ⟨plain, (Except.ok.inj h).symm⟩

theorem digitsStart (n : Nat) {ok : Char → Bool} (other : ∀ c, isDigit c = true → ok c = false)
    (rest : List Char) : Stops ok (digits n ++ rest) := by
  cases same : digits n with
  | nil => exact absurd same (Decimal.digitsNonempty n)
  | cons c cs =>
    have all := Decimal.digitsAllDigits n
    rw [same, List.all_cons, Bool.and_eq_true] at all
    exact stopsCons (other c all.1) _

theorem digitIsNoGap {c : Char} (h : isDigit c = true) : isGap c = false := by
  cases gap : isGap c with
  | false => rfl
  | true =>
    simp only [isGap, Bool.or_eq_true, decide_eq_true_eq] at gap
    rcases gap with ((rfl | rfl) | rfl) | rfl <;> cases h

theorem digitIsNoStroke {c : Char} (h : isDigit c = true) : decide (c = '/') = false := by
  apply decide_eq_false
  rintro rfl
  cases h

theorem numberPath (n : Nat) (closes : Closes rest) :
    (path inner).run (digits n ++ rest) =
      some (.number ⟨false, Magnitude.ofDecimal n 0⟩, rest) :=
  pathPrimary (digitsStart n (fun _ => digitIsNoGap) rest)
    (digitsStart n (fun _ => digitIsNoStroke) rest)
    (primaryNumber (numberRead n (closesStops closes (by decide)) (closesStops closes (by decide))))
    (closesStops closes (by decide)) (closesStops closes (by decide))

theorem positionRead (n : Nat) (closes : Closes rest) :
    (expression (expression inner)).run ("position()=".toList ++ (digits n ++ rest)) =
      some (.binary (.call "position" []) .equal (.number ⟨false, Magnitude.ofDecimal n 0⟩),
        rest) := by
  have isName : IsName "position".toList := by decide
  have noArguments : ((expression inner).separated (Parser.char ',').padded).run
      (')' :: '=' :: (digits n ++ rest)) = some ([], ')' :: '=' :: (digits n ++ rest)) :=
    separatedNone (expressionNone _)
  have called : (call (expression inner)).run
      ("position".toList ++ '(' :: ')' :: '=' :: (digits n ++ rest)) =
      some (.call "position" [], '=' :: (digits n ++ rest)) :=
    callRead isName rfl (stopsCons rfl _) noArguments (stopsCons rfl _)
  have left : (path (expression inner)).run
      ("position".toList ++ '(' :: ')' :: '=' :: (digits n ++ rest)) =
      some (.call "position" [], '=' :: (digits n ++ rest)) :=
    pathCall isName called (stopsCons rfl _) (stopsCons rfl _)
  exact expressionEqual left (digitsStart n (fun _ => digitIsNoGap) rest) (numberPath n closes)
    closes

variable {w : List Char}

theorem comparisonRead (isName : IsName w) (s : String) (closes : Closes rest) :
    (expression (expression inner)).run ('@' :: (w ++ '=' :: ((literalOf s).toList ++ rest))) =
      some (.binary (.step (some .attribute) (.name (String.ofList w)) []) .equal (literalExpr s),
        rest) :=
  expressionEqual
    (pathAttribute isName (stopsCons (by decide) _) (opensNextStops (by decide) (by decide))
      (stopsCons (by decide) _) (stopsCons (by decide) _))
    (literalGap s rest) (literalOfRead s closes) closes

theorem functionRead {f : String} (isFunction : IsName f.toList) (noKind : isKindName f = false)
    (isName : IsName w) (s : String) (closes : Closes rest) :
    (expression (expression (expression inner))).run
      (f.toList ++ '(' :: '@' :: (w ++ ',' :: ' ' :: ((literalOf s).toList ++ ')' :: rest))) =
      some (.call f [.step (some .attribute) (.name (String.ofList w)) [], literalExpr s],
        rest) := by
  have tested : (expression (expression inner)).run
      ('@' :: (w ++ ',' :: ' ' :: ((literalOf s).toList ++ ')' :: rest))) =
      some (.step (some .attribute) (.name (String.ofList w)) [],
        ',' :: ' ' :: ((literalOf s).toList ++ ')' :: rest)) :=
    expressionPath
      (pathAttribute isName (stopsCons (by decide) _) (opensNextStops (by decide) (by decide))
        (stopsCons (by decide) _) (stopsCons (by decide) _))
      (closesCons (by simp) _)
  have second : ((Parser.char ',').padded.skipThen (expression (expression inner))).run
      (',' :: ' ' :: ((literalOf s).toList ++ ')' :: rest)) = some (literalExpr s, ')' :: rest) :=
    nextArgument (literalGap s _) (expressionPath (literalOfRead s (closesCons (by simp) _))
      (closesCons (by simp) _))
  have called := callRead isFunction (by simpa using noKind) (stopsCons (by decide) _)
    (separatedRead tested (manyStep second (manyStop (noArgument rest))))
    (closesStops closes (by decide))
  rw [String.ofList_toList] at called
  exact expressionPath (pathCall isFunction called (closesStops closes (by decide))
    (closesStops closes (by decide))) closes

theorem conditionRead (plain : Plain (a, v)) (closes : Closes rest) :
    (expression (expression (expression inner))).run (condition a v ++ rest) =
      some (asked a v, rest) := by
  rcases plainShape plain with ⟨n, rfl, rfl | rfl⟩ | ⟨named, noNumber⟩
  · have read : (expression (expression (expression inner))).run
        ("position()=".toList ++ (digits (n.toNat + 1) ++ rest)) =
        some (asked .index (.int n), rest) := positionRead (n.toNat + 1) closes
    simpa [condition] using read
  · exact expressionPath (numberPath (n.toNat + 1) closes) closes
  · have isName := Attribute.testedIsName named
    rw [conditionNamed noNumber, askedNamed noNumber]
    cases function : a.mode.function? with
    | none => simpa using comparisonRead isName (compared v) closes
    | some f =>
      obtain ⟨isFunction, noKind, _⟩ := MatchMode.functionIsName function
      simpa using functionRead isFunction noKind isName (compared v) closes

theorem conditionGap (plain : Plain (a, v)) (rest : List Char) :
    Stops isGap (condition a v ++ rest) := by
  rcases plainShape plain with ⟨n, rfl, rfl | rfl⟩ | ⟨_, noNumber⟩
  · exact stopsCons rfl _
  · exact digitsStart (n.toNat + 1) (fun _ => digitIsNoGap) rest
  · rw [conditionNamed noNumber]
    cases function : a.mode.function? with
    | none => exact stopsCons rfl _
    | some f =>
      obtain ⟨⟨c, cs, same, first, _⟩, _⟩ := MatchMode.functionIsName function
      simp only [same]
      exact stopsCons (startIsNoOther first).2.2.2.2 _

theorem digitIsPart {c : Char} (h : isDigit c = true) : isWordPart c = true := by
  simp [isWordPart, isAlphanumeric, digitIsNumeral h]

theorem digitsNoOperator (n : Nat) : operatorOf (digits n).reverse = [] := by
  have letter {x : Char} (h : isDigit x = false) : x ∉ (digits n).reverse := by
    intro member
    have digit := List.all_eq_true.mp (Decimal.digitsAllDigits n) x (List.mem_reverse.mp member)
    rw [h] at digit
    cases digit
  unfold operatorOf
  rw [if_neg, if_neg]
  · intro same
    exact letter (x := 'r') rfl (by simp [same])
  · intro same
    exact letter (x := 'd') rfl (by simp [same])

theorem digitsTidy {k : Nat} (n : Nat) : Tidy k (digits n) := by
  have parts : ∀ x ∈ digits n, isWordPart x = true := fun x hx =>
    digitIsPart (List.all_eq_true.mp (Decimal.digitsAllDigits n) x hx)
  have noOperator := digitsNoOperator n
  cases same : digits n with
  | nil => exact Tidy.nil
  | cons c cs =>
    rw [same] at parts noOperator
    have word : Tidy k (c :: (cs ++ [])) := Tidy.word parts noOperator (stopsNil _) Tidy.nil
    simpa using word

theorem testedParts (a : Attribute) : ∀ x ∈ '@' :: (tested a).toList, isWordPart x = true := by
  cases a <;> exact List.all_eq_true.mp rfl

theorem testedNoOperator (a : Attribute) : operatorOf ('@' :: (tested a).toList).reverse = [] := by
  cases a <;> decide

theorem functionTidy {mode : MatchMode} {f : String} {k : Nat} (h : mode.function? = some f)
    (more : Tidy k rest) (stop : Stops isWordPart rest) : Tidy k (f.toList ++ rest) := by
  cases mode <;> cases h <;>
    exact Tidy.word (List.all_eq_true.mp rfl) rfl stop more

theorem conditionTidy {k : Nat} (plain : Plain (a, v)) : Tidy (k + 2) (condition a v) := by
  rcases plainShape plain with ⟨n, rfl, rfl | rfl⟩ | ⟨_, noNumber⟩
  · have equal : Tidy (k + 2) ('=' :: digits (n.toNat + 1)) :=
      Tidy.mark rfl rfl rfl (digitsTidy _)
    have call : Tidy (k + 2) ("position".toList ++ '(' :: ([] ++ ')' :: _)) :=
      Tidy.word (List.all_eq_true.mp rfl) rfl (stopsCons rfl _)
        (Tidy.parentheses Tidy.nil equal)
    exact call
  · exact digitsTidy _
  · rw [conditionNamed noNumber]
    cases function : a.mode.function? with
    | none =>
      have literal : Tidy (k + 2) ('=' :: ((literalOf (compared v)).toList ++ [])) :=
        Tidy.mark rfl rfl rfl (literalTidy _ Tidy.nil)
      have whole := Tidy.word (testedParts a) (testedNoOperator a) (stopsCons rfl _) literal
      simpa using whole
    | some f =>
      have literal : Tidy (k + 1) (',' :: ' ' :: ((literalOf (compared v)).toList ++ [])) :=
        Tidy.mark rfl rfl rfl
          (Tidy.mark rfl rfl rfl (literalTidy _ Tidy.nil))
      have operands := Tidy.word (testedParts a) (testedNoOperator a) (stopsCons rfl _)
        literal
      have whole := functionTidy function (Tidy.parentheses operands Tidy.nil)
        (stopsCons rfl _)
      simpa using whole

theorem predicateTidy {k : Nat} (plain : Plain (a, v)) (more : Tidy (k + 3) rest) :
    Tidy (k + 3) ('[' :: (condition a v ++ ']' :: rest)) :=
  Tidy.brackets (conditionTidy plain) more

theorem placeRead (n : UInt32) :
    positionBefore ⟨false, Magnitude.ofDecimal (n.toNat + 1) 0⟩ =
      if n.toNat + 1 < UInt32.size then .ok n
      else .error (.conversion (.badPosition ⟨false, Magnitude.ofDecimal (n.toNat + 1) 0⟩)) := by
  have bound := n.toNat_lt_size
  have value : (Magnitude.ofDecimal (n.toNat + 1) 0).natural? = some (n.toNat + 1) :=
    Decimal.naturalOfDecimal (by omega) (by
      simp only [Decimal.leastNormal, UInt32.size] at *
      omega)
  simp [positionBefore, value]

theorem placeBefore {n : UInt32} (places : (Value.int n).hasPlace = true) :
    positionBefore ⟨false, Magnitude.ofDecimal (n.toNat + 1) 0⟩ = .ok n := by
  rw [placeRead, if_pos (of_decide_eq_true places)]

theorem valueOfCompared (plain : Plain (a, v)) (noNumber : ∀ n, v ≠ .int n) :
    a.valueOfLiteral (compared v) = .ok v := by
  cases v with
  | str s => simp [Attribute.valueOfLiteral, plainStr.mp plain, compared]
  | bool b =>
    have letters : sameLetters ['t', 'r', 'u', 'e'] ['t', 'r', 'u', 'e'] = true ∧
        sameLetters ['f', 'a', 'l', 's', 'e'] ['t', 'r', 'u', 'e'] = false ∧
        sameLetters ['f', 'a', 'l', 's', 'e'] ['f', 'a', 'l', 's', 'e'] = true := by decide
    cases b <;> simp [Attribute.valueOfLiteral, plainBool.mp plain, compared, letters]
  | int n => exact absurd rfl (noNumber n)
  | nested d => exact absurd plain plainNested

theorem functionValue {f : String} (plain : Plain (a, v)) (noNumber : ∀ n, v ≠ .int n)
    (function : a.mode.function? = some f) : v = .str (compared v) := by
  cases v with
  | str s => rfl
  | bool b =>
    rw [Attribute.booleanEquals (plainBool.mp plain)] at function
    cases function
  | int n => exact absurd rfl (noNumber n)
  | nested d => exact absurd plain plainNested

theorem comparedWithLiteral (name s : String) :
    comparedPosition? (.step (some .attribute) (.name name) []) (literalExpr s) = none := by
  rcases literalOfShape s with ⟨same, _⟩ | ⟨p, ps, _, same, _⟩ <;> rw [same] <;> rfl

theorem attributeOperand (name : String) :
    attributeOperand? (.step (some .attribute) (.name name) []) = some name := rfl

theorem entryOfAsked (plain : Plain (a, v)) (places : v.hasPlace = true) :
    entryOf (asked a v) = .ok (a, v) := by
  rcases plainShape plain with ⟨n, rfl, rfl | rfl⟩ | ⟨named, noNumber⟩
  · have compares : comparedPosition? (.call "position" [])
        (.number ⟨false, Magnitude.ofDecimal (n.toNat + 1) 0⟩) =
        some ⟨false, Magnitude.ofDecimal (n.toNat + 1) 0⟩ := rfl
    simp [asked, entryOf, ofComparison, compares, placeBefore places, bind, Except.bind]
  · simp [asked, entryOf, placeBefore places, bind, Except.bind]
  · have found := Attribute.testedFound named
    rw [askedNamed noNumber]
    cases function : a.mode.function? with
    | none =>
      rw [MatchMode.equalsOfNone function] at found
      simp [entryOf, ofComparison, comparedWithLiteral, operandPair?, attributeOperand,
        literalValueOfLiteral, found, valueOfCompared plain noNumber, bind, Except.bind]
    | some f =>
      obtain ⟨_, _, isMode⟩ := MatchMode.functionIsName function
      have value := functionValue plain noNumber function
      simp [entryOf, ofCall, isMode, attributeOperand, literalValueOfLiteral, found, ← value]

end ElementLocator.XPath
