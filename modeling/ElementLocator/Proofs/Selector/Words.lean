import ElementLocator.Proofs.Selector.Parsing
/-! Tokens whatever their offsets. White space around a source only moves its tokens, and the reader
looks at an offset only to say where it fails. -/
namespace ElementLocator.Selector
open ElementLocator.Text

def Token.word (t : Token) : Kind × String := (t.kind, t.literal)

def SameWords : Except SourceFault (List Token) → Except SourceFault (List Token) → Prop
  | .ok ts, .ok us => ts.map Token.word = us.map Token.word
  | .error _, .error _ => True
  | _, _ => False

variable {here there start stop : Nat} {c : Char} {cs w b value rest : List Char} {t u : Token}
  {ts us : List Token} {x y : Except SourceFault (List Token)}

theorem sameWordsCons (same : SameWords x y) (word : t.word = u.word) :
    SameWords (x.map (t :: ·)) (y.map (u :: ·)) := by
  cases x with
  | error fault =>
    cases y with
    | error other => trivial
    | ok us => cases same
  | ok ts =>
    cases y with
    | error other => cases same
    | ok us =>
      have words : ts.map Token.word = us.map Token.word := same
      simp [SameWords, Except.map, word, words]

theorem blankNoMark (blank : isBlank c = true) : c ≠ '"' ∧ c ≠ '\\' ∧ unescaped? c = none := by
  have other {d : Char} (h : isBlank d = false) : c ≠ d := by
    rintro rfl
    rw [blank] at h
    cases h
  have quote : c ≠ '"' := other (by decide)
  have escape : c ≠ '\\' := other (by decide)
  simp [unescaped?, quote, escape, other (d := 'n') (by decide), other (d := 't') (by decide)]

theorem bodyOfBlanks (blanks : ∀ x ∈ b, isBlank x = true) :
    ∃ fault, stringBody start here b = .error fault := by
  induction b generalizing here with
  | nil => exact ⟨_, rfl⟩
  | cons c b ih =>
    obtain ⟨blank, more⟩ := List.forall_mem_cons.mp blanks
    obtain ⟨noQuote, noEscape, _⟩ := blankNoMark blank
    obtain ⟨fault, failed⟩ := @ih (here + c.utf8Size) more
    rw [bodyPlain noQuote noEscape, failed]
    exact ⟨fault, rfl⟩

theorem bodyTrailing (blanks : ∀ x ∈ b, isBlank x = true) (start here : Nat) (cs : List Char)
    (start' here' : Nat) :
    match stringBody start here cs with
    | .ok (value, _, rest) =>
        ∃ stop, stringBody start' here' (cs ++ b) = .ok (value, stop, rest ++ b)
    | .error _ => ∃ fault, stringBody start' here' (cs ++ b) = .error fault := by
  fun_induction stringBody start here cs generalizing here' with
  | case1 => exact bodyOfBlanks blanks
  | case2 here rest => exact ⟨here' + 1, by simp [stringBody]⟩
  | case3 here =>
    cases b with
    | nil => exact ⟨_, rfl⟩
    | cons d b =>
      obtain ⟨_, _, unknown⟩ := blankNoMark (blanks d (by simp))
      exact ⟨_, by simp [stringBody, unknown]; rfl⟩
  | case4 here c cs unknown => exact ⟨_, by simp [stringBody, unknown]; rfl⟩
  | case5 here c cs meant known ih =>
    have inner := ih (here' + 1 + c.utf8Size)
    rw [List.cons_append, List.cons_append, bodyEscaped known]
    cases body : stringBody start (here + 1 + c.utf8Size) cs with
    | error fault =>
      simp only [body] at inner
      obtain ⟨fault, failed⟩ := inner
      exact ⟨fault, by rw [failed]; rfl⟩
    | ok found =>
      simp only [body] at inner
      obtain ⟨stop, read⟩ := inner
      exact ⟨stop, by rw [read]; rfl⟩
  | case6 here c cs noQuote noLast noEscape ih =>
    have inner := ih (here' + c.utf8Size)
    rw [List.cons_append, bodyPlain noQuote (noBackslash noLast noEscape)]
    cases body : stringBody start (here + c.utf8Size) cs with
    | error fault =>
      simp only [body] at inner
      obtain ⟨fault, failed⟩ := inner
      exact ⟨fault, by rw [failed]; rfl⟩
    | ok found =>
      simp only [body] at inner
      obtain ⟨stop, read⟩ := inner
      exact ⟨stop, by rw [read]; rfl⟩

theorem blanksSplit (blanks : ∀ x ∈ b, isBlank x = true) (here : Nat) :
    ∃ stop, tokensFrom here b = .ok [⟨.ending, "", stop⟩] := by
  induction b generalizing here with
  | nil => exact ⟨here, by rw [tokensFrom]⟩
  | cons c b ih =>
    obtain ⟨blank, more⟩ := List.forall_mem_cons.mp blanks
    rw [tokensFrom, if_pos blank]
    exact ih more _

theorem takeWhileTrailing {ok : Char → Bool} (blanks : ∀ x ∈ b, isBlank x = true)
    (others : ∀ x, isBlank x = true → ok x = false) (cs : List Char) :
    (cs ++ b).takeWhile ok = cs.takeWhile ok ∧ (cs ++ b).dropWhile ok = cs.dropWhile ok ++ b := by
  have stop : Stops ok b := by
    intro x first
    exact others x (blanks x (List.mem_of_mem_head? first))
  induction cs with
  | nil => exact ⟨takeWhileStops stop, dropWhileStops stop⟩
  | cons c cs ih =>
    simp only [List.cons_append, List.takeWhile_cons, List.dropWhile_cons, ih.1, ih.2]
    split <;> simp

theorem wordsTrailing (blanks : ∀ x ∈ b, isBlank x = true) (here there : Nat) (w : List Char) :
    SameWords (tokensFrom there (w ++ b)) (tokensFrom here w) := by
  fun_induction tokensFrom here w generalizing there with
  | case1 here =>
    obtain ⟨stop, read⟩ := blanksSplit blanks there
    rw [List.nil_append, read]
    rfl
  | case2 here c cs blank ih =>
    rw [List.cons_append, tokensFrom, if_pos blank]
    exact ih _
  | case3 here cs fault body =>
    have trailing := bodyTrailing blanks here (here + 1) cs there (there + 1)
    simp only [body] at trailing
    obtain ⟨other, failed⟩ := trailing
    rw [List.cons_append, tokensOfOpenString failed]
    trivial
  | case4 here cs value stop rest body _ ih =>
    have trailing := bodyTrailing blanks here (here + 1) cs there (there + 1)
    simp only [body] at trailing
    obtain ⟨stop, read⟩ := trailing
    rw [List.cons_append, tokensOfString read]
    exact sameWordsCons (ih stop) rfl
  | case5 here c cs noBlank noQuote digit =>
    rename_i ih
    obtain ⟨taken, left⟩ := takeWhileTrailing blanks (fun _ => blankIsNoDigit) cs
    rw [List.cons_append, tokensFrom]
    simp only [noBlank, noQuote, digit, taken, left, Bool.false_eq_true, if_false, if_true]
    exact sameWordsCons (ih _) rfl
  | case6 here c cs noBlank noQuote noDigit first =>
    rename_i ih
    obtain ⟨taken, left⟩ := takeWhileTrailing blanks (fun _ => blankIsNoPart) cs
    rw [List.cons_append, tokensFrom]
    simp only [noBlank, noQuote, noDigit, first, taken, left, Bool.false_eq_true, if_false, if_true]
    exact sameWordsCons (ih _) rfl
  | case7 here c cs noBlank noQuote noDigit noStart unknown =>
    rw [List.cons_append, tokensFrom]
    simp only [noBlank, noQuote, noDigit, noStart, unknown, Bool.false_eq_true, if_false]
    trivial
  | case8 here c cs noBlank noQuote noDigit noStart kind mark ih =>
    rw [List.cons_append, tokensFrom]
    simp only [noBlank, noQuote, noDigit, noStart, mark, Bool.false_eq_true, if_false]
    exact sameWordsCons (ih _) rfl

theorem wordsLeading (here there : Nat) (cs : List Char) :
    SameWords (tokensFrom here cs) (tokensFrom there (trimStart cs)) := by
  induction cs generalizing here with
  | nil =>
    rw [trimStart, List.dropWhile_nil, tokensFrom, tokensFrom]
    rfl
  | cons c cs ih =>
    rw [trimStart, List.dropWhile_cons]
    split
    · rename_i blank
      rw [tokensFrom, if_pos blank]
      exact ih _
    · have same := wordsTrailing (b := []) (by simp) there here (c :: cs)
      rwa [List.append_nil] at same

theorem sameWordsTrans {z : Except SourceFault (List Token)} (first : SameWords x y)
    (second : SameWords y z) : SameWords x z := by
  cases x <;> cases y <;> cases z <;>
    first | trivial | cases first | cases second | exact Eq.trans first second

theorem trimEndSplit (cs : List Char) :
    ∃ b, cs = trimEnd cs ++ b ∧ ∀ x ∈ b, isBlank x = true := by
  refine ⟨(cs.reverse.takeWhile isBlank).reverse, ?_, ?_⟩
  · rw [trimEnd, ← List.reverse_append, List.takeWhile_append_dropWhile, List.reverse_reverse]
  · intro x member
    exact takeWhileAll isBlank cs.reverse x (List.mem_reverse.mp member)

theorem wordsTrimmed (here there : Nat) (cs : List Char) :
    SameWords (tokensFrom here cs) (tokensFrom there (trim cs)) := by
  obtain ⟨b, split, blanks⟩ := trimEndSplit (trimStart cs)
  have trailing := wordsTrailing blanks there here (trim cs)
  rw [trim, ← split] at trailing
  exact sameWordsTrans (wordsLeading here here cs) trailing

variable {spare : Nat} {last last' : Token} {s : Selector}

theorem takeSameWord (word : t.word = u.word) (p : Progress) :
    p.take? spare t = p.take? spare u := by
  obtain ⟨kind, literal, offset⟩ := t
  obtain ⟨_, _, _⟩ := u
  cases word
  rfl

theorem outcomeOk (p : Progress) (t u : Token) (h : p.outcome t = .ok s) : p.outcome u = .ok s := by
  obtain ⟨calls, frames, phase⟩ := p
  cases phase with
  | start => exact h
  | chain =>
    cases frames with
    | nil => exact h
    | cons frame frames => cases h
  | argument name =>
    simp only [Progress.outcome] at h
    split at h <;> cases h
  | _ => cases h

theorem swallowsSameWord (word : t.word = u.word) (p : Progress) :
    p.swallows t = p.swallows u := by
  have kind : t.kind = u.kind := congrArg Prod.fst word
  simp only [Progress.swallows, kind]

theorem runSameWords (last' : Token) (same : ts.map Token.word = us.map Token.word) (p : Progress)
    (h : (p.run spare last ts).outcome = .ok s) :
    (p.run spare last' us).outcome = .ok s ∧
      (p.run spare last ts).ahead.map Token.word = (p.run spare last' us).ahead.map Token.word := by
  induction ts generalizing us p with
  | nil =>
    cases us with
    | nil => exact ⟨outcomeOk p last last' h, rfl⟩
    | cons u us => cases same
  | cons t ts ih =>
    cases us with
    | nil => cases same
    | cons u us =>
      obtain ⟨word, more⟩ := List.cons.inj same
      rw [Progress.run] at h ⊢
      rw [Progress.run, ← takeSameWord word]
      cases taken : p.take? spare t with
      | some next =>
        rw [taken] at h
        exact ih more next h
      | none =>
        rw [taken] at h
        refine ⟨outcomeOk p t u h, ?_⟩
        simp only [swallowsSameWord word]
        split
        · exact more
        · exact same

theorem parsedSameWords {source other : String}
    (same : SameWords (tokensFrom 0 (unwrapped source.toList))
      (tokensFrom 0 (unwrapped other.toList))) (parsed : parse source = .ok s) :
    parse other = .ok s := by
  obtain ⟨ts, ending, found, isEnding, genuine⟩ := tokensOfParsed parsed
  obtain ⟨done, all⟩ := (readToEnd isEnding genuine found).mp parsed
  rw [tokens, unwrap, String.toList_ofList] at found
  rw [found] at same
  cases others : tokensFrom 0 (unwrapped other.toList) with
  | error fault =>
    rw [others] at same
    cases same
  | ok us =>
    obtain ⟨before, ending', rfl, isEnding', genuine'⟩ := tokensGenuine others
    rw [others] at same
    have words : (ts ++ [ending]).map Token.word = (before ++ [ending']).map Token.word := same
    rw [List.map_append, List.map_append] at words
    obtain ⟨words, _⟩ := List.append_inj' words rfl
    obtain ⟨done', left⟩ := runSameWords ending' words .start done
    have found' : tokens (unwrap other) = .ok (before ++ [ending']) := by
      rwa [tokens, unwrap, String.toList_ofList]
    rw [all, List.map_nil, eq_comm, List.map_eq_nil_iff] at left
    exact (readToEnd isEnding' genuine' found').mpr ⟨done', left⟩

end ElementLocator.Selector
