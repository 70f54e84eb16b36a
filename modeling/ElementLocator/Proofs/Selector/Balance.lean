import ElementLocator.Proofs.Selector.Parsing
import ElementLocator.Selector.Check
/-! Parentheses and quotes in the source of a selector. A parenthesis outside of strings is a token,
the grammar closes each one that it opens, and so the check finds nothing wrong with the text of a
selector but the names in it. -/
namespace ElementLocator.Selector
open ElementLocator.Text

def Kind.nesting : Kind → Int
  | .opening => 1
  | .closing => -1
  | _ => 0

def nesting : List Token → Int
  | [] => 0
  | t :: rest => t.kind.nesting + nesting rest

variable {n : Int} {here start stop : Nat} {c : Char} {cs value w rest : List Char}
  {t : Token} {ts : List Token} {s : Selector} {source : String}

theorem nestingAppend (ts us : List Token) : nesting (ts ++ us) = nesting ts + nesting us := by
  induction ts with
  | nil => rw [List.nil_append, nesting, Int.zero_add]
  | cons t rest ih => rw [List.cons_append, nesting, nesting, ih, Int.add_assoc]

/- The scan follows the tokens. -/

theorem scanOther (noQuote : c ≠ '"') (noOpening : c ≠ '(') (noClosing : c ≠ ')') :
    Balance.scan ⟨n, false⟩ false (c :: cs) = Balance.scan ⟨n, false⟩ false cs := by
  simp [Balance.scan, noQuote, noOpening, noClosing]

theorem scanClass {ok : Char → Bool} (is : ok c = true)
    (others : ok '"' = false ∧ ok '(' = false ∧ ok ')' = false) :
    Balance.scan ⟨n, false⟩ false (c :: cs) = Balance.scan ⟨n, false⟩ false cs := by
  have other {d : Char} (refused : ok d = false) : c ≠ d := by
    rintro rfl
    rw [is] at refused
    cases refused
  exact scanOther (other others.1) (other others.2.1) (other others.2.2)

theorem scanSpan {ok : Char → Bool} (all : ∀ x ∈ w, ok x = true)
    (others : ok '"' = false ∧ ok '(' = false ∧ ok ')' = false) :
    Balance.scan ⟨n, false⟩ false (w ++ rest) = Balance.scan ⟨n, false⟩ false rest := by
  induction w with
  | nil => rfl
  | cons c w ih =>
    obtain ⟨first, later⟩ := List.forall_mem_cons.mp all
    rw [List.cons_append, scanClass first others]
    exact ih later

theorem scanBody (body : stringBody start here cs = .ok (value, stop, rest)) :
    Balance.scan ⟨n, true⟩ false cs = Balance.scan ⟨n, false⟩ false rest := by
  fun_induction stringBody start here cs generalizing value stop rest with
  | case1 => cases body
  | case2 here rest =>
    cases body
    simp [Balance.scan]
  | case3 => cases body
  | case4 => cases body
  | case5 here c cs meant known ih =>
    obtain ⟨⟨_, _, _⟩, inner, same⟩ := mapOk.mp body
    cases same
    rw [← ih inner]
    simp [Balance.scan]
  | case6 here c cs noQuote noLast noEscape ih =>
    obtain ⟨⟨_, _, _⟩, inner, same⟩ := mapOk.mp body
    cases same
    have plain : c ≠ '"' ∧ c ≠ '\\' := ⟨noQuote, noBackslash noLast noEscape⟩
    rw [← ih inner]
    simp [Balance.scan, plain]

theorem scanMark {kind : Kind} (mark : punctuation? c = some kind) :
    Balance.scan ⟨n, false⟩ false (c :: cs) = Balance.scan ⟨n + kind.nesting, false⟩ false cs := by
  rcases markKinds mark with ⟨rfl, rfl⟩ | ⟨rfl, rfl⟩ | ⟨rfl, rfl⟩ | ⟨rfl, rfl⟩ <;>
    simp [Balance.scan, Kind.nesting, Int.sub_eq_add_neg]

theorem wordNesting {kind : Kind} (word : Word w kind) : kind.nesting = 0 := by
  cases word <;> rfl

theorem nestingQuiet (quiet : t.kind.nesting = 0) (ts : List Token) :
    nesting (t :: ts) = nesting ts := by
  rw [nesting, quiet, Int.zero_add]

theorem scanTokens (h : Splits here cs ts) :
    Balance.scan ⟨n, false⟩ false cs = ⟨n + nesting ts, false⟩ := by
  induction h generalizing n with
  | ending here =>
    rw [nestingQuiet rfl, nesting, Int.add_zero]
    rfl
  | blank blank _ ih => rw [scanClass blank (by decide), ih]
  | string body _ ih =>
    rw [Balance.scan]
    simp only [Bool.false_eq_true, if_false, if_true]
    rw [scanBody body, ih, nestingQuiet rfl]
  | number digits _ _ ih =>
    rw [← List.cons_append, scanSpan digits (by decide), ih, nestingQuiet rfl]
  | @word here c w rest ts first parts _ _ ih =>
    have all : ∀ x ∈ c :: w, isNamePart x = true :=
      List.forall_mem_cons.mpr ⟨startIsPart first, parts⟩
    rw [← List.cons_append, scanSpan all (by decide), ih, nestingQuiet (wordNesting (wordOf (c :: w)))]
  | mark mark _ ih => rw [scanMark mark, ih, nesting, Int.add_assoc]

/- The grammar balances parentheses. -/

theorem constructorBalanced {head : List Token} (h : Constructor head) : nesting head = 0 := by
  cases h with
  | mk isNew isUiSelector isOpening isClosing =>
    simp [nesting, isNew, isUiSelector, isOpening, isClosing, Kind.nesting]

theorem denotesBalanced {arg : Arg} (h : Denotes t arg) : t.kind.nesting = 0 := by
  cases h with
  | string is | number is | yes is | no is | name is =>
    rw [is]
    rfl

mutual
theorem callsBalanced {ts : List Token} {calls : List Call} (h : DerivesCalls ts calls) :
    nesting ts = 0 := by
  cases h with
  | none => rfl
  | more first others =>
    rw [nestingAppend, callBalanced first, callsBalanced others, Int.add_zero]

theorem callBalanced {ts : List Token} {call : Call} (h : DerivesCall ts call) :
    nesting ts = 0 := by
  cases h with
  | mk isDot isName isOpening argument isClosing =>
    simp [nesting, nestingAppend, argsBalanced argument, isDot, isName, isOpening, isClosing,
      Kind.nesting]

theorem argsBalanced {ts : List Token} {args : List Arg} (h : DerivesArgs ts args) :
    nesting ts = 0 := by
  cases h with
  | none => rfl
  | plain denotes => rw [nestingQuiet (denotesBalanced denotes), nesting]
  | nested start derived =>
    rw [nestingAppend, constructorBalanced start, callsBalanced derived, Int.add_zero]
end

theorem derivesBalanced (h : Derives ts s) : nesting ts = 0 := by
  cases h with
  | @mk head ts tail calls start derived stop =>
    have before : nesting head = 0 := by
      rcases start with rfl | constructor
      · rfl
      · exact constructorBalanced constructor
    have after : nesting tail = 0 := by
      rcases stop with rfl | ⟨semicolon, rfl, isSemicolon⟩
      · rfl
      · simp [nesting, isSemicolon, Kind.nesting]
    rw [nestingAppend, nestingAppend, before, callsBalanced derived, after]
    rfl

theorem parsedBalanced (parsed : parse source = .ok s) :
    balanceProblems (balance (unwrapped source.toList)) = [] := by
  obtain ⟨ts, ending, found, isEnding, derived, _, _⟩ := parsedDerives parsed
  rw [tokens, unwrap, String.toList_ofList] at found
  have last : ending.kind.nesting = 0 := by
    rw [isEnding]
    rfl
  rw [balance, scanTokens (splits found), nestingAppend, derivesBalanced derived,
    nestingQuiet last]
  rfl

theorem textHasConstructor (written : s.Everywhere Written) :
    hasConstructor s.text.toList = true := by
  obtain ⟨ts, semicolon, ending, found, derived, _, _⟩ := tokensOfText written
  rw [hasConstructor, found]
  cases derived with
  | plain is =>
    rename_i t
    cases kind : t.kind <;> simp [Token.arg?, kind] at is
  | nested isNew isUiSelector isOpening isClosing chain =>
    simp [isNew, isUiSelector, isOpening, isClosing]

theorem problemsOfText (wellFormed : WellFormed s) :
    problems s.text = s.unknownNames.map .unknownMethod := by
  have parsed := parsedText wellFormed
  have balanced := parsedBalanced parsed
  rw [unwrappedText] at balanced
  rw [problems, unwrappedText, if_pos (textHasConstructor wellFormed.written), balanced,
    grammarProblems, String.ofList_toList, parsed]

theorem noUnknownNames (known : ∀ name ∈ s.names, (Attribute.ofMethod? name).isSome = true) :
    s.unknownNames = [] := by
  have none : s.names.filter (fun name => (Attribute.ofMethod? name).isNone) = [] := by
    rw [List.filter_eq_nil_iff]
    intro name member
    have := known name member
    simpa [Option.isNone_iff_eq_none, ← Option.isSome_iff_ne_none] using this
  rw [unknownNames, none]
  rfl

end ElementLocator.Selector
