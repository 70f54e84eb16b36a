import ElementLocator.Proofs.Outcome
import ElementLocator.Proofs.Selector.Tokens
/-! The text between the quotes of a string: what it is written for, where it stops, and how it can
be broken. -/
namespace ElementLocator.Selector
open ElementLocator.Text

inductive Escapes : List Char → List Char → Prop where
  | nil : Escapes [] []
  | plain {c : Char} {cs value : List Char} (noQuote : c ≠ '"') (noEscape : c ≠ '\\')
      (more : Escapes cs value) : Escapes (c :: cs) (c :: value)
  | escape {c meant : Char} {cs value : List Char} (known : unescaped? c = some meant)
      (more : Escapes cs value) : Escapes ('\\' :: c :: cs) (meant :: value)

inductive Broken (start here : Nat) : List Char → SourceFault → Prop where
  | unclosed {body value tail : List Char} (escapes : Escapes body value)
      (stop : tail = [] ∨ tail = ['\\']) :
      Broken start here (body ++ tail) (.lex .unterminatedString start)
  | escape {body value rest : List Char} {c : Char} (escapes : Escapes body value)
      (unknown : unescaped? c = none) :
      Broken start here (body ++ '\\' :: c :: rest)
        (.lex (.unknownEscape c) (here + byteLength body))

variable {start here stop : Nat} {c meant : Char} {cs body value rest : List Char}
  {fault : SourceFault}

theorem bodyOfEscapes (escapes : Escapes body value) (start here : Nat) (rest : List Char) :
    stringBody start here (body ++ '"' :: rest) =
      .ok (value, here + byteLength body + 1, rest) := by
  induction escapes generalizing here with
  | nil => rw [List.nil_append, stringBody, byteLength, Nat.add_zero]
  | plain noQuote noEscape _ ih =>
    rw [List.cons_append, bodyPlain noQuote noEscape, ih, byteLength, Nat.add_assoc here]
    rfl
  | @escape c meant cs value known _ ih =>
    have backslash : Char.utf8Size '\\' = 1 := rfl
    rw [List.cons_append, List.cons_append, bodyEscaped known, ih, byteLength, byteLength,
      backslash, ← Nat.add_assoc, ← Nat.add_assoc]
    rfl

theorem escapesOfBody (h : stringBody start here cs = .ok (value, stop, rest)) :
    ∃ body, cs = body ++ '"' :: rest ∧ Escapes body value ∧
      stop = here + byteLength body + 1 := by
  fun_induction stringBody start here cs generalizing value stop rest with
  | case1 => cases h
  | case2 here rest =>
    cases h
    exact ⟨[], rfl, .nil, rfl⟩
  | case3 => cases h
  | case4 => cases h
  | case5 here c cs meant known ih =>
    obtain ⟨⟨_, _, _⟩, inner, same⟩ := mapOk.mp h
    cases same
    obtain ⟨body, rfl, escapes, rfl⟩ := ih inner
    have backslash : Char.utf8Size '\\' = 1 := rfl
    refine ⟨'\\' :: c :: body, rfl, .escape known escapes, ?_⟩
    rw [byteLength, byteLength, backslash]
    omega
  | case6 here c cs noQuote noLast noEscape ih =>
    obtain ⟨⟨_, _, _⟩, inner, same⟩ := mapOk.mp h
    cases same
    obtain ⟨body, rfl, escapes, rfl⟩ := ih inner
    refine ⟨c :: body, rfl, .plain noQuote (noBackslash noLast noEscape) escapes, ?_⟩
    rw [byteLength, Nat.add_assoc here]

theorem brokenBehind (piece : List Char)
    (read : ∀ body value, Escapes body value → ∃ more, Escapes (piece ++ body) more)
    (h : Broken start (here + byteLength piece) cs fault) :
    Broken start here (piece ++ cs) fault := by
  cases h with
  | unclosed escapes stop =>
    obtain ⟨_, longer⟩ := read _ _ escapes
    rw [← List.append_assoc]
    exact .unclosed longer stop
  | escape escapes unknown =>
    obtain ⟨_, longer⟩ := read _ _ escapes
    rw [← List.append_assoc, Nat.add_assoc, ← byteLengthAppend]
    exact .escape longer unknown

theorem brokenBody (h : stringBody start here cs = .error fault) :
    Broken start here cs fault := by
  have nothing : Escapes [] [] := .nil
  fun_induction stringBody start here cs generalizing fault with
  | case1 here =>
    cases h
    exact .unclosed nothing (Or.inl rfl)
  | case2 here rest => cases h
  | case3 here =>
    cases h
    exact .unclosed nothing (Or.inr rfl)
  | case4 here c cs unknown =>
    cases h
    exact .escape nothing unknown
  | case5 here c cs meant known ih =>
    have backslash : Char.utf8Size '\\' = 1 := rfl
    have inner := ih (mapError.mp h)
    refine brokenBehind ['\\', c] (fun _ _ more => ⟨_, .escape known more⟩) ?_
    rwa [byteLength, byteLength, byteLength, backslash, Nat.add_zero, ← Nat.add_assoc]
  | case6 here c cs noQuote noLast noEscape ih =>
    have noBackslash := noBackslash noLast noEscape
    have inner := ih (mapError.mp h)
    refine brokenBehind [c] (fun _ _ more => ⟨_, .plain noQuote noBackslash more⟩) ?_
    rwa [byteLength, byteLength, Nat.add_zero]

end ElementLocator.Selector
