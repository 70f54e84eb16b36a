import ElementLocator.Proofs.Text.Letter
import ElementLocator.Proofs.Text.Parser
import ElementLocator.Selector.Text
import ElementLocator.Selector.Tokens
/-! The tokens of selector text, from the tokens of its parts. -/
namespace ElementLocator.Selector
open ElementLocator.Text

def Lexed (text : List Char) (R : List Token → Prop) : Prop :=
  ∀ here rest, Stops isNamePart rest → ∃ ts there, R ts ∧
    tokensFrom here (text ++ rest) = (tokensFrom there rest).map (ts ++ ·)

variable {a b w cs value rest : List Char} {R S : List Token → Prop} {c : Char} {kind : Kind}
  {here stop : Nat}

theorem mapTokens (x : Except SourceFault (List Token)) (t : Token) (ts : List Token) :
    (x.map (ts ++ ·)).map (t :: ·) = x.map ((t :: ts) ++ ·) := by
  cases x <;> rfl

theorem mapAppended (x : Except SourceFault (List Token)) (ts us : List Token) :
    (x.map (us ++ ·)).map (ts ++ ·) = x.map ((ts ++ us) ++ ·) := by
  cases x with
  | error fault => rfl
  | ok more => simp [Except.map]

theorem lexedNil : Lexed [] (· = []) := by
  intro here rest _
  refine ⟨[], here, rfl, ?_⟩
  rw [List.nil_append]
  cases tokensFrom here rest <;> rfl

theorem lexedAppend (first : Lexed a R) (second : Lexed b S)
    (stop : ∀ rest, Stops isNamePart rest → Stops isNamePart (b ++ rest)) :
    Lexed (a ++ b) (fun ts => ∃ us vs, ts = us ++ vs ∧ R us ∧ S vs) := by
  intro here rest stops
  obtain ⟨us, middle, isFirst, readFirst⟩ := first here (b ++ rest) (stop rest stops)
  obtain ⟨vs, there, isSecond, readSecond⟩ := second middle rest stops
  refine ⟨us ++ vs, there, ⟨us, vs, rfl, isFirst, isSecond⟩, ?_⟩
  rw [List.append_assoc, readFirst, readSecond, mapAppended]

theorem lexedMono (h : Lexed a R) (weaker : ∀ ts, R ts → S ts) : Lexed a S := by
  intro here rest stops
  obtain ⟨ts, there, is, read⟩ := h here rest stops
  exact ⟨ts, there, weaker ts is, read⟩

theorem markKinds (h : punctuation? c = some kind) :
    c = '.' ∧ kind = .dot ∨ c = '(' ∧ kind = .opening ∨ c = ')' ∧ kind = .closing ∨
      c = ';' ∧ kind = .semicolon := by
  unfold punctuation? at h
  split at h
  · cases h; simp_all
  · split at h
    · cases h; simp_all
    · split at h
      · cases h; simp_all
      · split at h
        · cases h; simp_all
        · cases h

theorem tokensOfMark (mark : punctuation? c = some kind) (here : Nat) (rest : List Char) :
    tokensFrom here (c :: rest) =
      (tokensFrom (here + c.utf8Size) rest).map (⟨kind, String.ofList [c], here⟩ :: ·) := by
  have other : isBlank c = false ∧ c ≠ '"' ∧ isDigit c = false ∧ isNameStart c = false := by
    rcases markKinds mark with ⟨rfl, _⟩ | ⟨rfl, _⟩ | ⟨rfl, _⟩ | ⟨rfl, _⟩ <;> decide
  rw [tokensFrom]
  simp only [other.1, other.2.1, other.2.2.1, other.2.2.2, mark, Bool.false_eq_true, if_false]

theorem lexedMark (mark : punctuation? c = some kind) (more : Lexed b S) :
    Lexed (c :: b) fun ts => ∃ t us, ts = t :: us ∧ t.kind = kind ∧ S us := by
  intro here rest stops
  obtain ⟨us, there, is, read⟩ := more (here + c.utf8Size) rest stops
  refine ⟨⟨kind, String.ofList [c], here⟩ :: us, there, ⟨_, us, rfl, rfl, is⟩, ?_⟩
  rw [List.cons_append, tokensOfMark mark, read, mapTokens]

theorem lexedBlank (blank : isBlank c = true) (more : Lexed b S) : Lexed (c :: b) S := by
  intro here rest stops
  obtain ⟨ts, there, is, read⟩ := more (here + c.utf8Size) rest stops
  refine ⟨ts, there, is, ?_⟩
  rw [List.cons_append, tokensFrom, if_pos blank, read]

theorem startIsPart (h : isNameStart c = true) : isNamePart c = true := by
  simp only [isNameStart, Bool.or_eq_true, decide_eq_true_eq] at h
  rcases h with (h | h) | h <;> simp [isNamePart, isAlphanumeric, h]

theorem blankIsNoPart (h : isBlank c = true) : isNamePart c = false := by
  simp only [isNamePart, blankNoAlphanumeric h, Bool.false_or, Bool.or_eq_false_iff,
    decide_eq_false_iff_not]
  constructor <;> (rintro rfl; cases h)

theorem digitIsPart (h : isDigit c = true) : isNamePart c = true := by
  simp [isNamePart, isAlphanumeric, digitIsNumeral h]

theorem blankIsNoDigit (blank : isBlank c = true) : isDigit c = false := by
  cases digit : isDigit c with
  | false => rfl
  | true => rw [← digitIsPart digit, blankIsNoPart blank]

theorem startIsNoOther (h : isNameStart c = true) :
    isBlank c = false ∧ c ≠ '"' ∧ isDigit c = false := by
  refine ⟨?_, ?_, ?_⟩
  · cases blank : isBlank c with
    | false => rfl
    | true => rw [← startIsPart h, blankIsNoPart blank]
  · rintro rfl
    cases h
  · cases digit : isDigit c with
    | false => rfl
    | true =>
      simp only [isNameStart, digitNoLetter digit, Bool.false_or, Bool.or_eq_true,
        decide_eq_true_eq] at h
      rcases h with rfl | rfl <;> cases digit

theorem tokensOfWord (first : isNameStart c = true) (parts : ∀ x ∈ w, isNamePart x = true)
    (stop : Stops isNamePart rest) (here : Nat) : tokensFrom here (c :: w ++ rest) =
      (tokensFrom (here + byteLength (c :: w)) rest).map
        (⟨wordKind (c :: w), String.ofList (c :: w), here⟩ :: ·) := by
  have other := startIsNoOther first
  rw [List.cons_append, tokensFrom]
  simp only [other.1, other.2.1, other.2.2, first, takeWhileAppend parts stop,
    dropWhileAppend parts stop, Bool.false_eq_true, if_false, if_true]

theorem tokensOfNumber (digits : ∀ x ∈ c :: w, isDigit x = true) (stop : Stops isDigit rest)
    (here : Nat) : tokensFrom here (c :: w ++ rest) =
      (tokensFrom (here + byteLength (c :: w)) rest).map
        (⟨.number, String.ofList (c :: w), here⟩ :: ·) := by
  obtain ⟨digit, others⟩ := List.forall_mem_cons.mp digits
  have noBlank : isBlank c = false := by
    cases blank : isBlank c with
    | false => rfl
    | true => rw [← digitIsPart digit, blankIsNoPart blank]
  have noQuote : c ≠ '"' := by
    rintro rfl
    cases digit
  rw [List.cons_append, tokensFrom]
  simp only [noBlank, noQuote, digit, takeWhileAppend others stop, dropWhileAppend others stop,
    Bool.false_eq_true, if_false, if_true]

theorem lexedWord (first : isNameStart c = true) (parts : ∀ x ∈ w, isNamePart x = true) :
    Lexed (c :: w) fun ts =>
      ∃ t, ts = [t] ∧ t.kind = wordKind (c :: w) ∧ t.literal = String.ofList (c :: w) := by
  intro here rest stop
  exact ⟨_, here + byteLength (c :: w), ⟨_, rfl, rfl, rfl⟩, tokensOfWord first parts stop here⟩

theorem lexedNumber (nonempty : w ≠ []) (all : ∀ x ∈ w, isDigit x = true) :
    Lexed w fun ts => ∃ t, ts = [t] ∧ t.kind = .number ∧ t.literal = String.ofList w := by
  intro here rest stop
  cases w with
  | nil => exact absurd rfl nonempty
  | cons c w =>
    have stopDigit : Stops isDigit rest := by
      intro x hx
      cases found : isDigit x with
      | false => rfl
      | true => rw [← digitIsPart found, stop x hx]
    exact ⟨_, here + byteLength (c :: w), ⟨_, rfl, rfl, rfl⟩, tokensOfNumber all stopDigit here⟩

theorem unescapedOf (c : Char) :
    (escapedChar c = [c] ∧ c ≠ '"' ∧ c ≠ '\\') ∨
      ∃ e, escapedChar c = ['\\', e] ∧ unescaped? e = some c := by
  unfold escapedChar
  split
  · rename_i same
    exact Or.inr ⟨'\\', rfl, by rw [same]; rfl⟩
  · split
    · rename_i same
      exact Or.inr ⟨'"', rfl, by rw [same]; rfl⟩
    · split
      · rename_i same
        exact Or.inr ⟨'n', rfl, by rw [same]; rfl⟩
      · split
        · rename_i same
          exact Or.inr ⟨'t', rfl, by rw [same]; rfl⟩
        · exact Or.inl ⟨rfl, ‹_›, ‹_›⟩

theorem bodyEscaped {e : Char} (known : unescaped? e = some c) (start here : Nat)
    (rest : List Char) : stringBody start here ('\\' :: e :: rest) =
      (stringBody start (here + 1 + e.utf8Size) rest).map
        fun (value, stop, rest) => (c :: value, stop, rest) := by
  rw [stringBody]
  simp only [known]

theorem bodyPlain (noQuote : c ≠ '"') (noEscape : c ≠ '\\') (start here : Nat)
    (rest : List Char) : stringBody start here (c :: rest) =
      (stringBody start (here + c.utf8Size) rest).map
        fun (value, stop, rest) => (c :: value, stop, rest) := by
  rw [stringBody]
  · exact noQuote
  · intro same
    exact absurd same noEscape
  · intro _ _ same
    exact absurd same noEscape

theorem noBackslash (noLast : c = '\\' → cs = [] → False)
    (noEscape : ∀ (d : Char) (more : List Char), c = '\\' → cs = d :: more → False) :
    c ≠ '\\' := by
  intro backslash
  cases cs with
  | nil => exact noLast backslash rfl
  | cons d more => exact noEscape d more backslash rfl

theorem byteLengthAppend (cs ds : List Char) :
    byteLength (cs ++ ds) = byteLength cs + byteLength ds := by
  induction cs with
  | nil => rw [List.nil_append, byteLength, Nat.zero_add]
  | cons c cs ih => rw [List.cons_append, byteLength, byteLength, ih, Nat.add_assoc]

theorem quotedLength (here : Nat) (body : List Char) :
    here + byteLength ('"' :: (body ++ ['"'])) = here + 1 + byteLength body + 1 := by
  have quote : Char.utf8Size '"' = 1 := rfl
  simp only [byteLength, byteLengthAppend, quote]
  omega

theorem bodyRead (start here : Nat) (cs rest : List Char) :
    stringBody start here (cs.flatMap escapedChar ++ '"' :: rest) =
      .ok (cs, here + byteLength (cs.flatMap escapedChar) + 1, rest) := by
  induction cs generalizing here with
  | nil => rw [List.flatMap_nil, List.nil_append, stringBody, byteLength, Nat.add_zero]
  | cons c cs ih =>
    rw [List.flatMap_cons, List.append_assoc]
    rcases unescapedOf c with ⟨plain, noQuote, noEscape⟩ | ⟨e, escaped, known⟩
    · rw [plain, List.singleton_append, bodyPlain noQuote noEscape, ih, List.singleton_append,
        byteLength, Nat.add_assoc here]
      rfl
    · have backslash : Char.utf8Size '\\' = 1 := rfl
      rw [escaped, List.cons_append, List.singleton_append, bodyEscaped known, ih,
        List.cons_append, List.singleton_append, byteLength, byteLength, backslash,
        ← Nat.add_assoc, ← Nat.add_assoc]
      rfl

theorem tokensOfString (body : stringBody here (here + 1) cs = .ok (value, stop, rest)) :
    tokensFrom here ('"' :: cs) =
      (tokensFrom stop rest).map (⟨.string, String.ofList value, here⟩ :: ·) := by
  rw [tokensFrom, if_neg (by decide), if_pos rfl]
  split
  · rename_i fault failed
    rw [body] at failed
    cases failed
  · rename_i found
    rw [body] at found
    cases found
    rfl

theorem tokensOfOpenString {fault : SourceFault}
    (body : stringBody here (here + 1) cs = .error fault) :
    tokensFrom here ('"' :: cs) = .error fault := by
  rw [tokensFrom, if_neg (by decide), if_pos rfl]
  split
  · rename_i other failed
    rw [body] at failed
    cases failed
    rfl
  · rename_i found
    rw [body] at found
    cases found

theorem tokensOfQuoted (v : String) (here : Nat) (rest : List Char) :
    tokensFrom here ((quoted v).toList ++ rest) =
      (tokensFrom (here + byteLength (quoted v).toList) rest).map (⟨.string, v, here⟩ :: ·) := by
  have whole : (quoted v).toList = '"' :: (v.toList.flatMap escapedChar ++ ['"']) :=
    String.toList_ofList
  rw [whole, quotedLength, List.cons_append, List.append_assoc, List.singleton_append,
    tokensOfString (bodyRead here (here + 1) v.toList rest), String.ofList_toList]

theorem lexedString (s : String) : Lexed (quoted s).toList fun ts =>
    ∃ t, ts = [t] ∧ t.kind = .string ∧ t.literal = s := by
  intro here rest _
  exact ⟨_, here + byteLength (quoted s).toList, ⟨_, rfl, rfl, rfl⟩, tokensOfQuoted s here rest⟩

end ElementLocator.Selector
