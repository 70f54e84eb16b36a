import ElementLocator.Proofs.Selector.Balance
import ElementLocator.Proofs.Selector.Words
/-! The check of a selector's source against the reader. The check unwraps a source and hands it to
a reader that unwraps it again; behind a constructor the second time only takes white space away, so
both read the same words. -/
namespace ElementLocator.Selector
open ElementLocator.Text

def Constructed (source : String) : Prop :=
  ∃ ts, tokens (unwrap source) = .ok ts ∧
    (ts.take 4).map Token.kind = [.new, .uiSelector, .opening, .closing]

variable {cs : List Char} {ts : List Token} {s : Selector} {source : String}
  {x y : Except SourceFault (List Token)}

theorem sameWordsSymm (same : SameWords x y) : SameWords y x := by
  cases x <;> cases y <;> first | trivial | cases same | exact Eq.symm same

theorem trimPrefix (first : ∀ c ∈ cs.head?, isBlank c = false) : ∃ b, cs = trim cs ++ b := by
  obtain ⟨b, split, _⟩ := trimEndSplit (trimStart cs)
  have kept : trimStart cs = cs := by
    cases cs with
    | nil => rfl
    | cons c cs => rw [trimStart, List.dropWhile_cons_of_neg (by simp [first c rfl])]
  exact ⟨b, by rwa [← trim, kept] at split⟩

theorem quoteUnread (here : Nat) (cs : List Char) :
    ∃ fault, tokensFrom here ('\'' :: cs) = .error fault := by
  refine ⟨.lex (.unexpectedCharacter '\'') here, ?_⟩
  rw [tokensFrom, if_neg (by decide), if_neg (by decide), if_neg (by decide), if_neg (by decide)]
  rfl

theorem constructorUnquoted (constructed : hasConstructor cs = true) (rest : List Char) :
    trim cs ≠ '\'' :: rest := by
  intro quoted
  have same := wordsTrimmed 0 0 cs
  obtain ⟨fault, unread⟩ := quoteUnread 0 rest
  rw [quoted, unread] at same
  rw [hasConstructor] at constructed
  cases found : tokensFrom 0 cs with
  | ok ts =>
    rw [found] at same
    cases same
  | error other =>
    simp only [found] at constructed
    obtain ⟨more, rfl⟩ := List.isPrefixOf_iff_prefix.mp constructed
    have noBlank : ∀ c ∈ ("new UiSelector()".toList ++ more).head?, isBlank c = false := by
      intro c first
      cases first
      decide
    obtain ⟨b, split⟩ := trimPrefix noBlank
    rw [quoted] at split
    cases split

theorem unwrappedAgain (constructed : hasConstructor cs = true) : unwrapped cs = trim cs := by
  rw [unwrapped]
  split
  · rename_i rest quoted
    exact absurd quoted (constructorUnquoted constructed rest)
  · rfl

theorem parsedAgain (constructed : hasConstructor (unwrapped source.toList) = true) (s : Selector) :
    parse (unwrap source) = .ok s ↔ parse source = .ok s := by
  have same : SameWords (tokensFrom 0 (unwrapped source.toList))
      (tokensFrom 0 (unwrapped (unwrap source).toList)) := by
    rw [unwrap, String.toList_ofList, unwrappedAgain constructed]
    exact wordsTrimmed 0 0 (unwrapped source.toList)
  exact ⟨parsedSameWords (sameWordsSymm same), parsedSameWords same⟩

theorem constructedIff (found : tokens (unwrap source) = .ok ts) :
    hasConstructor (unwrapped source.toList) = true ↔ Constructed source := by
  have split := found
  rw [tokens, unwrap, String.toList_ofList] at split
  rw [hasConstructor, split, Constructed, found]
  constructor
  · intro kinds
    exact ⟨ts, rfl, of_decide_eq_true kinds⟩
  · rintro ⟨us, same, kinds⟩
    cases same
    exact decide_eq_true kinds

theorem unknownNamesEmpty :
    s.unknownNames = [] ↔ ∀ name ∈ s.names, (Attribute.ofMethod? name).isSome = true := by
  constructor
  · intro none name member
    rw [unknownNames] at none
    cases known : Attribute.ofMethod? name with
    | some a => rfl
    | none =>
      have unknown : name ∈ s.names.filter fun name => (Attribute.ofMethod? name).isNone := by
        simp [member, known]
      cases names : s.names.filter fun name => (Attribute.ofMethod? name).isNone with
      | nil => simp [names] at unknown
      | cons first others => simp [names, List.eraseDups_cons] at none
  · exact noUnknownNames

theorem grammarProblemsEmpty : grammarProblems source = [] ↔ ∃ s, parse source = .ok s ∧
    ∀ name ∈ s.names, (Attribute.ofMethod? name).isSome = true := by
  rw [grammarProblems]
  cases parse source with
  | error fault => simp
  | ok s => simp [unknownNamesEmpty]

theorem problemsEmpty : problems source = [] ↔
    hasConstructor (unwrapped source.toList) = true ∧
      balanceProblems (balance (unwrapped source.toList)) = [] ∧
        grammarProblems (unwrap source) = [] := by
  rw [problems, unwrap]
  cases hasConstructor (unwrapped source.toList) with
  | false => simp
  | true => cases found : balanceProblems (balance (unwrapped source.toList)) <;> simp

theorem validIff (source : String) :
    (problems source = [] ↔ ∃ s, parse source = .ok s ∧ Constructed source ∧
      ∀ name ∈ s.names, (Attribute.ofMethod? name).isSome = true) ∧
    (∀ s, parse source = .ok s →
      balanceProblems (balance (unwrapped source.toList)) = [] ∧
        (hasConstructor (unwrapped source.toList) = true ↔ Constructed source)) ∧
    (hasConstructor (unwrapped source.toList) = true →
      ∀ s, parse (unwrap source) = .ok s ↔ parse source = .ok s) := by
  have checks (s : Selector) (parsed : parse source = .ok s) :
      balanceProblems (balance (unwrapped source.toList)) = [] ∧
        (hasConstructor (unwrapped source.toList) = true ↔ Constructed source) := by
    obtain ⟨ts, ending, found, _⟩ := tokensOfParsed parsed
    exact ⟨parsedBalanced parsed, constructedIff found⟩
  refine ⟨?_, checks, parsedAgain⟩
  rw [problemsEmpty, grammarProblemsEmpty]
  constructor
  · rintro ⟨constructed, _, s, again, known⟩
    have parsed := (parsedAgain constructed s).mp again
    exact ⟨s, parsed, (checks s parsed).2.mp constructed, known⟩
  · rintro ⟨s, parsed, start, known⟩
    obtain ⟨balanced, exactly⟩ := checks s parsed
    have constructed := exactly.mpr start
    exact ⟨constructed, balanced, s, (parsedAgain constructed s).mpr parsed, known⟩

end ElementLocator.Selector
