import ElementLocator.Proofs.Selector.Tiling
/-! Quoted values in a source. Whatever a value holds, its text between quotes is one string, and the
source before and behind it is split as it is on its own. -/
namespace ElementLocator.Selector
open ElementLocator.Text

def Token.moved (n : Nat) (t : Token) : Token := { t with offset := n + t.offset }

inductive Moved {α : Type} (n : Nat) (f : α → α) :
    Except SourceFault α → Except SourceFault α → Prop where
  | read (a : α) : Moved n f (.ok a) (.ok (f a))
  | fault (cause : LexCause) (offset : Nat) :
      Moved n f (.error (.lex cause offset)) (.error (.lex cause (n + offset)))

variable {α : Type} {n here : Nat} {f before behind : α → α} {a : α} {x y : Except SourceFault α}
  {fault : SourceFault} {front rest raw : List Char} {t ending : Token} {parts : List Part}
  {source : String} {first ts : List Token}

/- Offsets are counted from where reading begins, so they move with it. -/

theorem movedOk (moved : Moved n f (.ok a) y) : y = .ok (f a) := by
  cases moved
  rfl

theorem movedError (moved : Moved n f (.error fault) y) : ∃ cause offset,
    fault = .lex cause offset ∧ y = .error (.lex cause (n + offset)) := by
  cases moved with
  | fault cause offset => exact ⟨cause, offset, rfl, rfl⟩

theorem movedMap (moved : Moved n f x y) (same : ∀ a, behind (f a) = f (before a)) :
    Moved n f (x.map before) (y.map behind) := by
  cases moved with
  | read a =>
    rw [Except.map, Except.map, same]
    exact .read (before a)
  | fault cause offset => exact .fault cause offset

theorem bodyMoved (n start here : Nat) (cs : List Char) :
    Moved n (fun (value, stop, rest) => (value, n + stop, rest)) (stringBody start here cs)
      (stringBody (n + start) (n + here) cs) := by
  fun_induction stringBody start here cs with
  | case1 here => exact .fault _ start
  | case2 here rest => exact .read ([], here + 1, rest)
  | case3 here => exact .fault _ start
  | case4 here c cs unknown =>
    rw [stringBody, unknown]
    exact .fault _ here
  | case5 here c cs meant known ih =>
    rw [bodyEscaped known, Nat.add_assoc n, Nat.add_assoc n]
    exact movedMap ih fun _ => rfl
  | case6 here c cs noQuote noLast noEscape ih =>
    rw [bodyPlain noQuote (noBackslash noLast noEscape), Nat.add_assoc n]
    exact movedMap ih fun _ => rfl

theorem tokensMoved (n here : Nat) (cs : List Char) :
    Moved n (List.map (Token.moved n)) (tokensFrom here cs) (tokensFrom (n + here) cs) := by
  fun_induction tokensFrom here cs with
  | case1 here =>
    rw [tokensFrom]
    exact Moved.read [_]
  | case2 here c cs blank ih =>
    rw [tokensFrom, if_pos blank, Nat.add_assoc]
    exact ih
  | case3 here cs fault body =>
    have moved := bodyMoved n here (here + 1) cs
    rw [body] at moved
    obtain ⟨cause, offset, rfl, failed⟩ := movedError moved
    rw [tokensOfOpenString failed]
    exact .fault cause offset
  | case4 here cs value stop rest body _ ih =>
    have moved := bodyMoved n here (here + 1) cs
    rw [body] at moved
    rw [tokensOfString (movedOk moved)]
    exact movedMap ih fun _ => rfl
  | case5 here c cs noBlank noQuote digit =>
    rename_i ih
    rw [tokensFrom, if_neg noBlank, if_neg noQuote, if_pos digit]
    rw [← Nat.add_assoc] at ih
    exact movedMap ih fun _ => rfl
  | case6 here c cs noBlank noQuote noDigit first =>
    rename_i ih
    rw [tokensFrom, if_neg noBlank, if_neg noQuote, if_neg noDigit, if_pos first]
    rw [← Nat.add_assoc] at ih
    exact movedMap ih fun _ => rfl
  | case7 here c cs noBlank noQuote noDigit noStart unknown =>
    rw [tokensFrom, if_neg noBlank, if_neg noQuote, if_neg noDigit, if_neg noStart, unknown]
    exact .fault _ here
  | case8 here c cs noBlank noQuote noDigit noStart kind mark ih =>
    rw [tokensOfMark mark, Nat.add_assoc]
    exact movedMap ih fun _ => rfl

theorem tokensThere (found : tokens source = .ok ts) (n : Nat) :
    tokensFrom n source.toList = .ok (ts.map (Token.moved n)) := by
  have moved := tokensMoved n 0 source.toList
  rw [← tokens, found] at moved
  exact movedOk moved

theorem faultThere (failed : tokens source = .error fault) (n : Nat) : ∃ cause offset,
    fault = .lex cause offset ∧
      tokensFrom n source.toList = .error (.lex cause (n + offset)) := by
  have moved := tokensMoved n 0 source.toList
  rw [← tokens, failed] at moved
  exact movedError moved

/- A quote ends the number or the word before it. -/

theorem lexemeLater (noDigit : Stops isDigit rest) (noPart : Stops isNamePart rest)
    (lexeme : Lexeme front t raw) : Lexeme (front ++ rest) t raw := by
  cases lexeme with
  | string escapes => exact .string escapes
  | number digits stop => exact .number digits (stopsAppend stop noDigit)
  | word first parts stop => exact .word first parts (stopsAppend stop noPart)
  | mark mark => exact .mark mark

theorem tilesLater (noDigit : Stops isDigit rest) (noPart : Stops isNamePart rest)
    (tiles : Tiles front here parts) : Tiles (front ++ rest) here parts := by
  induction tiles with
  | nil here => exact .nil here
  | cons placed lexeme blank more ih =>
    have later := lexemeLater noDigit noPart lexeme
    rw [List.append_assoc, List.append_assoc] at later
    exact .cons placed later blank ih

theorem tokensBefore (found : tokens source = .ok (first ++ [ending])) (noDigit : Stops isDigit rest)
    (noPart : Stops isNamePart rest) : tokensFrom 0 (source.toList ++ rest) =
      (tokensFrom source.utf8ByteSize rest).map (first ++ ·) := by
  obtain ⟨lead, parts, tiled, same⟩ := tokensWhole found
  obtain ⟨rfl, _⟩ := List.append_inj' same rfl
  have later := tilesTokens (tilesLater noDigit noPart tiled.tiles)
  rw [List.nil_append, Nat.zero_add, ← byteLengthAppend, wholeLength tiled] at later
  rw [tiled.text, List.append_nil, List.append_assoc, tokensOfBlanks tiled.blank, Nat.zero_add,
    later]

theorem tokensAround (found : tokens source = .ok (first ++ [ending])) (v rest : String) :
    tokens (source ++ quoted v ++ rest) =
      (tokensFrom (source ++ quoted v).utf8ByteSize rest.toList).map
        (first ++ ⟨.string, v, source.utf8ByteSize⟩ :: ·) := by
  have quote : (quoted v).toList ++ rest.toList =
      '"' :: (v.toList.flatMap escapedChar ++ '"' :: rest.toList) := by
    simp [quoted]
  have ends {ok : Char → Bool} (other : ok '"' = false) :
      Stops ok ((quoted v).toList ++ rest.toList) := by
    rw [quote]
    exact stopsCons other _
  rw [tokens, String.toList_append, String.toList_append, List.append_assoc,
    tokensBefore found (ends rfl) (ends rfl), tokensOfQuoted, ← sizeOfText,
    String.utf8ByteSize_append]
  cases tokensFrom (source.utf8ByteSize + (quoted v).utf8ByteSize) rest.toList <;> rfl

/-- A quoted value in front of a source is one string, and the source has its tokens behind it, or
its fault, at their places; so too where there is a source before the value. -/
theorem quotedInverted (v rest : String) :
    (∀ ts, tokens rest = .ok ts → tokens (quoted v ++ rest) =
      .ok (⟨.string, v, 0⟩ :: ts.map (Token.moved (quoted v).utf8ByteSize))) ∧
    (∀ fault, tokens rest = .error fault → ∃ cause offset, fault = .lex cause offset ∧
      tokens (quoted v ++ rest) = .error (.lex cause ((quoted v).utf8ByteSize + offset))) ∧
    ∀ source first ending ts, tokens source = .ok (first ++ [ending]) → tokens rest = .ok ts →
      tokens (source ++ quoted v ++ rest) = .ok (first ++ ⟨.string, v, source.utf8ByteSize⟩ ::
        ts.map (Token.moved (source ++ quoted v).utf8ByteSize)) := by
  have alone : tokens "" = .ok ([] ++ [⟨.ending, "", 0⟩]) := tokensFrom.eq_1 0
  have inFront := tokensAround alone v rest
  rw [String.empty_append] at inFront
  refine ⟨fun ts found => ?_, fun fault failed => ?_, fun source first ending ts whole found => ?_⟩
  · rw [inFront, tokensThere found]
    rfl
  · obtain ⟨cause, offset, same, there⟩ := faultThere failed (quoted v).utf8ByteSize
    refine ⟨cause, offset, same, ?_⟩
    rw [inFront, there]
    rfl
  · rw [tokensAround whole, tokensThere found]
    rfl

theorem closingValueInverted :
    let v := "\u00fc\");\\"
    let text := "\"\u00fc\\\");\\\\\""
    let rest := "\"x\");"
    let broken := " \"x"
    let source := " .a(b"
    let tokensOfRest : List Token :=
      [⟨.string, "x", 0⟩, ⟨.closing, ")", 3⟩, ⟨.semicolon, ";", 4⟩, ⟨.ending, "", 5⟩]
    let first : List Token :=
      [⟨.dot, ".", 1⟩, ⟨.name, "a", 2⟩, ⟨.opening, "(", 3⟩, ⟨.name, "b", 4⟩]
    (tokens rest = .ok tokensOfRest ∧ tokens broken = .error (.lex .unterminatedString 1) ∧
      tokens source = .ok (first ++ [⟨.ending, "", 5⟩])) ∧
      quoted v = text ∧
      tokens (text ++ rest) = .ok [⟨.string, v, 0⟩, ⟨.string, "x", 10⟩, ⟨.closing, ")", 13⟩,
        ⟨.semicolon, ";", 14⟩, ⟨.ending, "", 15⟩] ∧
      tokens (text ++ broken) = .error (.lex .unterminatedString 11) ∧
      tokens (source ++ text ++ rest) = .ok (first ++ [⟨.string, v, 5⟩, ⟨.string, "x", 15⟩,
        ⟨.closing, ")", 18⟩, ⟨.semicolon, ";", 19⟩, ⟨.ending, "", 20⟩]) := by
  intro v text rest broken source tokensOfRest first
  have found : tokens rest = .ok tokensOfRest := by
    simp only [rest, tokensOfRest]
    with_unfolding_all rfl
  have failed : tokens broken = .error (.lex .unterminatedString 1) := by
    simp only [broken]
    with_unfolding_all rfl
  have opened : tokens source = .ok (first ++ [⟨.ending, "", 5⟩]) := by
    simp only [source, first]
    with_unfolding_all rfl
  have written : quoted v = text := by decide +kernel
  have size : text.utf8ByteSize = 10 := by decide +kernel
  obtain ⟨behind, _, between⟩ := quotedInverted v rest
  obtain ⟨_, behindBroken, _⟩ := quotedInverted v broken
  have read := behind tokensOfRest found
  have readBetween := between source first _ tokensOfRest opened found
  obtain ⟨cause, offset, same, failedBehind⟩ := behindBroken _ failed
  cases same
  rw [written, size] at read failedBehind
  rw [written, String.utf8ByteSize_append, size] at readBetween
  exact ⟨⟨found, failed, opened⟩, written, read, failedBehind, readBetween⟩

end ElementLocator.Selector
