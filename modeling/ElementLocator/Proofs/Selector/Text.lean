import ElementLocator.Proofs.Selector.Grammar
import ElementLocator.Proofs.Selector.Tokens
/-! Well formed selectors are read back from their text. -/
namespace ElementLocator.Selector
open ElementLocator.Text

def IsIdentifier (s : String) : Prop :=
  ∃ c cs, s.toList = c :: cs ∧ isNameStart c = true ∧ (∀ x ∈ cs, isNamePart x = true) ∧
    wordKind (c :: cs) = .name

def WrittenArg : Arg → Prop
  | .ident s => IsIdentifier s
  | .int n => 0 ≤ n.toInt
  | _ => True

def Written (calls : List Call) : Prop :=
  ∀ c ∈ calls, IsIdentifier c.name ∧ c.args.length ≤ 1 ∧ ∀ arg ∈ c.args, WrittenArg arg

structure WellFormed (s : Selector) : Prop where
  written : s.Everywhere Written
  nesting : s.depth ≤ maxNesting + 1

variable {s : Selector} {name : String} {args : List Arg} {arg : Arg} {calls : List Call}

theorem lexedIdentifier (h : IsIdentifier name) : Lexed name.toList fun ts =>
    ∃ t, ts = [t] ∧ t.kind = .name ∧ t.literal = name := by
  obtain ⟨c, cs, same, first, parts, kind⟩ := h
  rw [same]
  apply lexedMono (lexedWord first parts)
  rintro ts ⟨t, rfl, isKind, literal⟩
  exact ⟨t, rfl, isKind.trans kind, by rw [literal, ← same, String.ofList_toList]⟩

theorem signedOfNumeral {w : List Char} (nonempty : w ≠ []) (all : ∀ x ∈ w, isDigit x = true) :
    Decimal.signed? w = some (Decimal.value w : Int) := by
  have natural : Decimal.natural? w = some (Decimal.value w) := by
    simp only [Decimal.natural?, List.all_eq_true]
    rw [if_pos ⟨nonempty, all⟩]
  cases w with
  | nil => exact absurd rfl nonempty
  | cons c cs =>
    have digit : isDigit c = true := all c (by simp)
    have noMinus : c ≠ '-' := by
      rintro rfl
      cases digit
    have noPlus : c ≠ '+' := by
      rintro rfl
      cases digit
    simp [Decimal.signed?, Decimal.unsigned?, noMinus, noPlus, natural]

theorem signedOfDigits (n : Nat) : Decimal.signed? (Decimal.digits n) = some (n : Int) := by
  have all := List.all_eq_true.mp (Decimal.digitsAllDigits n)
  rw [signedOfNumeral (Decimal.digitsNonempty n) all, Decimal.valueOfDigits]

theorem int64Written {n : Int64} (positive : 0 ≤ n.toInt) :
    int64? (String.ofList (Decimal.digits n.toInt.natAbs)) = some n := by
  have low := n.le_toInt
  have high := n.toInt_lt
  have whole : ((n.toInt.natAbs : Nat) : Int) = n.toInt := Int.natAbs_of_nonneg positive
  rw [int64?, String.toList_ofList, signedOfDigits, whole]
  simp only
  rw [if_pos (by omega), Int64.ofInt_toInt]

theorem lexedInteger {n : Int64} (positive : 0 ≤ n.toInt) :
    Lexed (Decimal.digitsOfInt n.toInt) (Argument · [.int n]) := by
  have whole : Decimal.digitsOfInt n.toInt = Decimal.digits n.toInt.natAbs := by
    rw [Decimal.digitsOfInt, if_neg (by omega)]
  have all := List.all_eq_true.mp (Decimal.digitsAllDigits n.toInt.natAbs)
  rw [whole]
  apply lexedMono (lexedNumber (Decimal.digitsNonempty _) all)
  rintro ts ⟨t, rfl, kind, literal⟩
  exact .plain (by rw [Token.arg?, kind, literal]; simp [int64Written positive])

theorem lexedTruth (b : Bool) : Lexed (argText (.bool b)).toList (Argument · [.bool b]) := by
  cases b with
  | true =>
    have word : Lexed ['t', 'r', 'u', 'e'] _ :=
      lexedWord rfl (List.all_eq_true.mp rfl)
    rw [argText]
    apply lexedMono word
    rintro ts ⟨t, rfl, kind, literal⟩
    exact .plain (by rw [Token.arg?, kind]; rfl)
  | false =>
    have word : Lexed ['f', 'a', 'l', 's', 'e'] _ :=
      lexedWord rfl (List.all_eq_true.mp rfl)
    rw [argText]
    apply lexedMono word
    rintro ts ⟨t, rfl, kind, literal⟩
    exact .plain (by rw [Token.arg?, kind]; rfl)

theorem lexedArg (written : WrittenArg arg)
    (nested : ∀ s, arg = .nested s → Lexed s.chain.toList (Argument · [.nested s])) :
    Lexed (argText arg).toList (Argument · [arg]) := by
  cases arg with
  | str s =>
    rw [argText]
    apply lexedMono (lexedString s)
    rintro ts ⟨t, rfl, kind, literal⟩
    exact .plain (by rw [Token.arg?, kind, literal])
  | int n =>
    rw [argText, String.toList_ofList]
    exact lexedInteger written
  | bool b => exact lexedTruth b
  | ident s =>
    rw [argText]
    apply lexedMono (lexedIdentifier written)
    rintro ts ⟨t, rfl, kind, literal⟩
    exact .plain (by rw [Token.arg?, kind, literal])
  | nested s =>
    rw [argText]
    exact nested s rfl

theorem lexedArgs (few : args.length ≤ 1) (written : ∀ arg ∈ args, WrittenArg arg)
    (nested : ∀ s, .nested s ∈ args → Lexed s.chain.toList (Argument · [.nested s])) :
    Lexed (argsText args).toList (Argument · args) := by
  cases args with
  | nil =>
    rw [argsText]
    apply lexedMono lexedNil
    rintro ts rfl
    exact .none
  | cons arg rest =>
    cases rest with
    | nil =>
      rw [argsText]
      exact lexedArg (written arg (by simp)) fun s same => nested s (by simp [same])
    | cons other rest => simp at few

theorem chainText (calls : List Call) :
    (Selector.mk calls).chain = "new UiSelector()" ++ callsText calls := rfl

theorem lexedNested {calls : List Call} (chain : Lexed (callsText calls).toList (Chain · calls)) :
    Lexed (Selector.mk calls).chain.toList (Argument · [.nested (.mk calls)]) := by
  have closing := lexedMark (c := ')') rfl chain
  have opening := lexedMark (c := '(') rfl closing
  have constructor := lexedAppend
    (lexedWord (c := 'U') (w := ['i', 'S', 'e', 'l', 'e', 'c', 't', 'o', 'r']) rfl
      (List.all_eq_true.mp rfl)) opening fun _ _ => stopsCons rfl _
  have blank := lexedBlank (c := ' ') rfl constructor
  have whole := lexedAppend
    (lexedWord (c := 'n') (w := ['e', 'w']) rfl (List.all_eq_true.mp rfl))
    blank fun _ _ => stopsCons rfl _
  have shape : (Selector.mk calls).chain.toList = ['n', 'e', 'w'] ++ ' ' ::
      (['U', 'i', 'S', 'e', 'l', 'e', 'c', 't', 'o', 'r'] ++ '(' :: ')' ::
        (callsText calls).toList) := by
    rw [chainText]
    simp
  rw [shape]
  apply lexedMono whole
  rintro _ ⟨_, _, rfl, ⟨new, rfl, isNew, _⟩, _, _, rfl, ⟨word, rfl, isWord, _⟩, opening, _, rfl,
    isOpening, closing, rest, rfl, isClosing, more⟩
  exact .nested isNew isWord isOpening isClosing more

theorem lexedCall {name : String} {args : List Arg} {rest : List Call} (isName : IsIdentifier name)
    (inside : Lexed (argsText args).toList (Argument · args))
    (more : Lexed (callsText rest).toList (Chain · rest)) :
    Lexed (callsText (.mk name args :: rest)).toList (Chain · (.mk name args :: rest)) := by
  have closing := lexedMark (c := ')') rfl more
  have argument := lexedAppend inside closing fun _ _ => stopsCons rfl _
  have opening := lexedMark (c := '(') rfl argument
  have called := lexedAppend (lexedIdentifier isName) opening fun _ _ => stopsCons rfl _
  have dot := lexedMark (c := '.') rfl called
  have shape : (callsText (.mk name args :: rest)).toList = '.' :: (name.toList ++ '(' ::
      ((argsText args).toList ++ ')' :: (callsText rest).toList)) := by
    rw [callsText]
    simp
  rw [shape]
  apply lexedMono dot
  rintro _ ⟨dot, _, rfl, isDot, _, _, rfl, ⟨word, rfl, isWord, rfl⟩, opening, _, rfl, isOpening,
    inside, _, rfl, argument, closing, rest, rfl, isClosing, more⟩
  exact .call isDot isWord isOpening argument isClosing more

theorem chainLexed :
    (∀ s : Selector, s.Everywhere Written → Lexed s.chain.toList (Argument · [.nested s])) ∧
    ∀ calls : List Call, Written calls → EverywhereCalls Written calls →
      Lexed (callsText calls).toList (Chain · calls) := by
  refine chains ?level ?nil ?call
  case level =>
    intro calls ih written
    rw [Everywhere] at written
    exact lexedNested (ih written.1 written.2)
  case nil =>
    intro _ _
    rw [callsText]
    apply lexedMono lexedNil
    rintro ts rfl
    exact .nil
  case call =>
    intro name args rest nested ih written inner
    rw [EverywhereCalls, everywhereArgs] at inner
    obtain ⟨isName, few, writtenArgs⟩ := written (.mk name args) (by simp)
    have inside := lexedArgs few writtenArgs fun s member => nested s member (inner.1 s member)
    exact lexedCall isName inside (ih (fun c member => written c (by simp [member])) inner.2)

theorem unwrappedText (s : Selector) : unwrapped s.text.toList = s.text.toList := by
  cases s with
  | mk calls =>
    have shape : (Selector.mk calls).text.toList =
        'n' :: (("ew UiSelector()".toList ++ (callsText calls).toList) ++ [';']) := by
      rw [text, chainText]
      simp
    rw [unwrapped, shape, trimKept rfl rfl]
    rfl

theorem textTokens (written : s.Everywhere Written) (here : Nat) (rest : List Char) :
    ∃ ts semicolon there, Argument ts [.nested s] ∧ semicolon.kind = .semicolon ∧
      tokensFrom here (s.text.toList ++ rest) =
        (tokensFrom there rest).map fun more => ts ++ semicolon :: more := by
  obtain ⟨ts, there, derived, read⟩ :=
    chainLexed.1 s written here (';' :: rest) (stopsCons rfl rest)
  refine ⟨ts, ⟨.semicolon, String.ofList [';'], there⟩, there + ';'.utf8Size, derived, rfl, ?_⟩
  rw [text, String.toList_append, List.append_assoc]
  refine read.trans ?_
  have mark : punctuation? ';' = some .semicolon := rfl
  rw [tokensOfMark mark]
  cases tokensFrom (there + ';'.utf8Size) rest <;> rfl

theorem tokensOfText (written : s.Everywhere Written) : ∃ ts semicolon ending,
    tokensFrom 0 s.text.toList = .ok (ts ++ [semicolon, ending]) ∧ Argument ts [.nested s] ∧
      semicolon.kind = .semicolon ∧ ending.kind = .ending := by
  obtain ⟨ts, semicolon, there, derived, isSemicolon, read⟩ := textTokens written 0 []
  refine ⟨ts, semicolon, ⟨.ending, "", there⟩, ?_, derived, isSemicolon, rfl⟩
  rw [List.append_nil, tokensFrom.eq_1 there] at read
  exact read

theorem runSource {ts : List Token} {semicolon ending : Token} {spare : Nat}
    (derived : Argument ts [.nested s]) (isSemicolon : semicolon.kind = .semicolon)
    (room : s.depth ≤ spare + 1) (rest : List Token) :
    Progress.start.run spare ending (ts ++ semicolon :: rest) = ⟨.ok s, rest, 0⟩ := by
  cases derived with
  | plain is =>
    rename_i t
    cases kind : t.kind <;> simp [Token.arg?, kind] at is
  | @nested new uiSelector opening closing ts calls isNew isUiSelector isOpening isClosing chain =>
    rw [depth] at room
    have begun : Progress.take? spare .start new = some ⟨[], [], .new⟩ := by
      simp [Progress.take?, Progress.start, isNew]
    simp only [List.cons_append]
    rw [runStep begun, runConstructor isUiSelector isOpening isClosing,
      runToSemicolon chain (by omega) isSemicolon]

theorem parsedText (wellFormed : WellFormed s) : parse s.text = .ok s := by
  obtain ⟨ts, semicolon, ending, tokens, derived, isSemicolon, isEnding⟩ :=
    tokensOfText wellFormed.written
  have cursor : Cursor.ofTokens (ts ++ [semicolon, ending]) =
      ⟨ts ++ [semicolon], ending, maxNesting⟩ := by
    simp [Cursor.ofTokens, isEnding]
  have run : Progress.start.run maxNesting ending (ts ++ [semicolon]) = ⟨.ok s, [], 0⟩ :=
    runSource derived isSemicolon wellFormed.nesting []
  rw [parse, unwrappedText, tokens]
  simp only [bind, Except.bind, cursor, Cursor.next, run, Cursor.atEnd, Cursor.peek]
  simp [isEnding]

end ElementLocator.Selector
