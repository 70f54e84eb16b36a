import ElementLocator.Proofs.Selector.Splitting
import ElementLocator.Proofs.Selector.Strings
/-! Where the tokens of a source stand in it. Their texts and the white space between them are the
source, nothing left out and nothing twice; and a source that cannot be split has the tokens of the
part before the first text that is none. -/
namespace ElementLocator.Selector
open ElementLocator.Text

/-- The text of a token before the rest of a source. Numbers and words go on as long as they can. -/
inductive Lexeme (rest : List Char) : Token → List Char → Prop where
  | string {here : Nat} {body value : List Char} (escapes : Escapes body value) :
      Lexeme rest ⟨.string, String.ofList value, here⟩ ('"' :: (body ++ ['"']))
  | number {here : Nat} {c : Char} {w : List Char} (digits : ∀ x ∈ c :: w, isDigit x = true)
      (stop : Stops isDigit rest) : Lexeme rest ⟨.number, String.ofList (c :: w), here⟩ (c :: w)
  | word {here : Nat} {c : Char} {w : List Char} (first : isNameStart c = true)
      (parts : ∀ x ∈ w, isNamePart x = true) (stop : Stops isNamePart rest) :
      Lexeme rest ⟨wordKind (c :: w), String.ofList (c :: w), here⟩ (c :: w)
  | mark {here : Nat} {c : Char} {kind : Kind} (mark : punctuation? c = some kind) :
      Lexeme rest ⟨kind, String.ofList [c], here⟩ [c]

structure Part where
  token : Token
  raw : List Char
  gap : List Char

def Part.text (p : Part) : List Char := p.raw ++ p.gap

def textOfParts (parts : List Part) : List Char := parts.flatMap Part.text

inductive Tiles (rest : List Char) : Nat → List Part → Prop where
  | nil (here : Nat) : Tiles rest here []
  | cons {here : Nat} {p : Part} {parts : List Part} (placed : p.token.offset = here)
      (lexeme : Lexeme (p.gap ++ (textOfParts parts ++ rest)) p.token p.raw)
      (blank : ∀ c ∈ p.gap, isBlank c = true)
      (more : Tiles rest (here + byteLength p.text) parts) : Tiles rest here (p :: parts)

structure Tiled (here : Nat) (cs lead : List Char) (parts : List Part) (rest : List Char) :
    Prop where
  text : cs = lead ++ (textOfParts parts ++ rest)
  blank : ∀ c ∈ lead, isBlank c = true
  tiles : Tiles rest (here + byteLength lead) parts

inductive Offends (here : Nat) : List Char → SourceFault → Prop where
  | character {c : Char} {cs : List Char} (noBlank : isBlank c = false) (noQuote : c ≠ '"')
      (noDigit : isDigit c = false) (noStart : isNameStart c = false)
      (noMark : punctuation? c = none) :
      Offends here (c :: cs) (.lex (.unexpectedCharacter c) here)
  | string {cs : List Char} {fault : SourceFault} (broken : Broken here (here + 1) cs fault) :
      Offends here ('"' :: cs) fault

inductive Ends (here : Nat) : List Char → Except SourceFault Nat → Prop where
  | ending : Ends here [] (.ok here)
  | fault {rest : List Char} {fault : SourceFault} (offends : Offends here rest fault) :
      Ends here rest (.error fault)

structure Scanned where
  read : List Token
  stop : Except SourceFault Nat

def Scanned.behind (t : Token) (s : Scanned) : Scanned := { s with read := t :: s.read }

def Scanned.tokens (s : Scanned) : Except SourceFault (List Token) :=
  s.stop.map fun stop => s.read ++ [⟨.ending, "", stop⟩]

def scanned (here : Nat) (cs : List Char) : Scanned :=
  match cs with
  | [] => ⟨[], .ok here⟩
  | c :: cs =>
      if isBlank c then scanned (here + c.utf8Size) cs
      else if c = '"' then
        match _h : stringBody here (here + 1) cs with
        | .error fault => ⟨[], .error fault⟩
        | .ok (value, stop, rest) =>
            (scanned stop rest).behind ⟨.string, String.ofList value, here⟩
      else if isDigit c then
        let number := c :: cs.takeWhile isDigit
        (scanned (here + byteLength number) (cs.dropWhile isDigit)).behind
          ⟨.number, String.ofList number, here⟩
      else if isNameStart c then
        let word := c :: cs.takeWhile isNamePart
        (scanned (here + byteLength word) (cs.dropWhile isNamePart)).behind
          ⟨wordKind word, String.ofList word, here⟩
      else
        match punctuation? c with
        | none => ⟨[], .error (.lex (.unexpectedCharacter c) here)⟩
        | some kind => (scanned (here + c.utf8Size) cs).behind ⟨kind, String.ofList [c], here⟩
termination_by cs.length
decreasing_by
  · simp
  · have := stringBodyShort (by assumption)
    simp only [List.length_cons]
    omega
  · exact dropWhileShort _ _ _
  · exact dropWhileShort _ _ _
  · simp

variable {here : Nat} {c : Char} {cs lead gap raw rest body value front : List Char}
  {s : Scanned} {t : Token} {ts : List Token} {p : Part} {parts : List Part} {fault : SourceFault}

theorem tokensBehind (t : Token) (s : Scanned) : (s.behind t).tokens = s.tokens.map (t :: ·) := by
  obtain ⟨read, stop⟩ := s
  cases stop <;> rfl

theorem tokensScanned (here : Nat) (cs : List Char) :
    tokensFrom here cs = (scanned here cs).tokens := by
  fun_induction tokensFrom here cs with
  | case1 here =>
    rw [scanned]
    rfl
  | case2 here c cs blank ih => rw [scanned, if_pos blank, ih]
  | case3 here cs fault body =>
    rw [scanned, if_neg (by decide), if_pos rfl]
    split <;> simp_all [Scanned.tokens, Except.map]
  | case4 here cs value stop rest body _ ih =>
    rw [scanned, if_neg (by decide), if_pos rfl]
    split <;> simp_all [tokensBehind]
  | case5 here c cs noBlank noQuote digit =>
    rename_i ih
    rw [scanned, if_neg noBlank, if_neg noQuote, if_pos digit, tokensBehind]
    exact congrArg _ ih
  | case6 here c cs noBlank noQuote noDigit first =>
    rename_i ih
    rw [scanned, if_neg noBlank, if_neg noQuote, if_neg noDigit, if_pos first, tokensBehind]
    exact congrArg _ ih
  | case7 here c cs noBlank noQuote noDigit noStart unknown =>
    rw [scanned, if_neg noBlank, if_neg noQuote, if_neg noDigit, if_neg noStart, unknown]
    rfl
  | case8 here c cs noBlank noQuote noDigit noStart kind mark ih =>
    rw [scanned, if_neg noBlank, if_neg noQuote, if_neg noDigit, if_neg noStart, mark]
    rw [tokensBehind, ih]

/- Every source is tiled up to its end or its first fault. -/

def Covers (s : Scanned) (here : Nat) (cs : List Char) : Prop :=
  ∃ lead parts rest, Tiled here cs lead parts rest ∧ s.read = parts.map Part.token ∧
    Ends (here + byteLength (lead ++ textOfParts parts)) rest s.stop

theorem coversEnd {stop : Except SourceFault Nat} (ends : Ends here cs stop) :
    Covers ⟨[], stop⟩ here cs := by
  refine ⟨[], [], cs, ⟨rfl, by simp, .nil _⟩, rfl, ?_⟩
  exact ends

theorem coversBlank (blank : isBlank c = true) (h : Covers s (here + c.utf8Size) cs) :
    Covers s here (c :: cs) := by
  obtain ⟨lead, parts, rest, ⟨rfl, blanks, tiles⟩, read, ends⟩ := h
  rw [Nat.add_assoc] at tiles ends
  exact ⟨c :: lead, parts, rest, ⟨rfl, List.forall_mem_cons.mpr ⟨blank, blanks⟩, tiles⟩, read, ends⟩

theorem coversToken (lexeme : Lexeme cs t raw) (placed : t.offset = here)
    (h : Covers s (here + byteLength raw) cs) : Covers (s.behind t) here (raw ++ cs) := by
  obtain ⟨lead, parts, rest, ⟨rfl, blanks, tiles⟩, read, ends⟩ := h
  rw [Nat.add_assoc, ← byteLengthAppend] at tiles ends
  refine ⟨[], ⟨t, raw, lead⟩ :: parts, rest, ⟨?_, by simp, .cons placed lexeme blanks tiles⟩,
    congrArg (t :: ·) read, ?_⟩
  · simp [textOfParts, Part.text]
  · have whole : textOfParts (⟨t, raw, lead⟩ :: parts) = raw ++ (lead ++ textOfParts parts) := by
      simp [textOfParts, Part.text]
    rwa [List.nil_append, whole]

theorem scannedCovers (here : Nat) (cs : List Char) : Covers (scanned here cs) here cs := by
  fun_induction scanned here cs with
  | case1 here => exact coversEnd .ending
  | case2 here c cs blank ih => exact coversBlank blank ih
  | case3 here cs fault body noBlank => exact coversEnd (.fault (.string (brokenBody body)))
  | case4 here cs value stop rest body noBlank ih =>
    obtain ⟨inside, rfl, escapes, rfl⟩ := escapesOfBody body
    have lexeme : Lexeme rest ⟨.string, String.ofList value, here⟩ ('"' :: (inside ++ ['"'])) :=
      .string escapes
    have whole := coversToken lexeme rfl (by rwa [quotedLength])
    simpa using whole
  | case5 here c cs noBlank noQuote digit =>
    rename_i ih
    have all : ∀ x ∈ c :: cs.takeWhile isDigit, isDigit x = true :=
      List.forall_mem_cons.mpr ⟨digit, takeWhileAll isDigit cs⟩
    have whole := coversToken (.number all (dropWhileStop isDigit cs)) rfl ih
    rwa [List.cons_append, List.takeWhile_append_dropWhile] at whole
  | case6 here c cs noBlank noQuote noDigit first =>
    rename_i ih
    have parts := takeWhileAll isNamePart cs
    have whole := coversToken (.word first parts (dropWhileStop isNamePart cs)) rfl ih
    rwa [List.cons_append, List.takeWhile_append_dropWhile] at whole
  | case7 here c cs noBlank noQuote noDigit noStart unknown =>
    exact coversEnd (.fault (.character (eq_false_of_ne_true noBlank) noQuote
      (eq_false_of_ne_true noDigit) (eq_false_of_ne_true noStart) unknown))
  | case8 here c cs noBlank noQuote noDigit noStart kind mark ih =>
    have length : byteLength [c] = c.utf8Size := Nat.add_zero _
    exact coversToken (.mark mark) rfl (by rwa [length])

/- A text that ends behind a token has the tokens up to there. -/

theorem tokensOfLexeme (lexeme : Lexeme rest t raw) (placed : t.offset = here) :
    tokensFrom here (raw ++ rest) =
      (tokensFrom (here + byteLength raw) rest).map (t :: ·) := by
  subst placed
  cases lexeme with
  | @string here body value escapes =>
    have read := tokensOfString (bodyOfEscapes escapes here (here + 1) rest)
    rw [quotedLength, ← read]
    simp
  | number digits stop => exact tokensOfNumber digits stop _
  | word first parts stop => exact tokensOfWord first parts stop _
  | @mark here c kind mark =>
    have length : byteLength [c] = c.utf8Size := Nat.add_zero _
    rw [length]
    exact tokensOfMark mark here rest

theorem tokensOfBlanks (blanks : ∀ c ∈ gap, isBlank c = true) (here : Nat) (rest : List Char) :
    tokensFrom here (gap ++ rest) = tokensFrom (here + byteLength gap) rest := by
  induction gap generalizing here with
  | nil => rfl
  | cons c gap ih =>
    obtain ⟨blank, more⟩ := List.forall_mem_cons.mp blanks
    rw [List.cons_append, tokensFrom, if_pos blank, ih more, byteLength, Nat.add_assoc]

theorem lexemeEarlier (lexeme : Lexeme (front ++ rest) t raw) : Lexeme front t raw := by
  have earlier {ok : Char → Bool} (stop : Stops ok (front ++ rest)) : Stops ok front := by
    intro c first
    cases front with
    | nil => cases first
    | cons x front => exact stop c first
  cases lexeme with
  | string escapes => exact .string escapes
  | number digits stop => exact .number digits (earlier stop)
  | word first parts stop => exact .word first parts (earlier stop)
  | mark mark => exact .mark mark

theorem tilesEarlier (tiles : Tiles (front ++ rest) here parts) : Tiles front here parts := by
  induction tiles with
  | nil here => exact .nil here
  | cons placed lexeme blank more ih =>
    rw [← List.append_assoc, ← List.append_assoc, List.append_assoc _ _ front] at lexeme
    exact .cons placed (lexemeEarlier lexeme) blank ih

theorem tilesTokens (tiles : Tiles rest here parts) : tokensFrom here (textOfParts parts ++ rest) =
    (tokensFrom (here + byteLength (textOfParts parts)) rest).map
      (parts.map Part.token ++ ·) := by
  induction tiles with
  | nil here =>
    rw [textOfParts, List.flatMap_nil, List.nil_append, byteLength, Nat.add_zero]
    cases tokensFrom here rest <;> rfl
  | @cons here p parts placed lexeme blank more ih =>
    have text : textOfParts (p :: parts) = p.text ++ textOfParts parts := rfl
    rw [text, Part.text, List.append_assoc, List.append_assoc, tokensOfLexeme lexeme placed,
      tokensOfBlanks blank, Nat.add_assoc, ← byteLengthAppend, ← Part.text, ih, mapTokens,
      Nat.add_assoc, ← byteLengthAppend]
    rfl

theorem tiledTokens (tiled : Tiled here cs lead parts rest) :
    tokensFrom here (lead ++ textOfParts parts) = .ok (parts.map Part.token ++
      [⟨.ending, "", here + byteLength (lead ++ textOfParts parts)⟩]) := by
  have alone : Tiles [] (here + byteLength lead) parts := tilesEarlier tiled.tiles
  have whole := tilesTokens alone
  rw [List.append_nil, tokensFrom] at whole
  rw [tokensOfBlanks tiled.blank, whole, Nat.add_assoc, ← byteLengthAppend]
  rfl

theorem lexemeGenuine (lexeme : Lexeme rest t raw) : Genuine t := by
  cases lexeme with
  | string escapes => exact genuineString _ _
  | number digits stop => exact genuineNumber digits _
  | word first parts stop => exact genuineWord first parts _
  | mark mark => exact genuineMark mark _ _

theorem lexemeLong (lexeme : Lexeme rest t raw) : 0 < byteLength raw := by
  cases lexeme <;> exact Nat.add_pos_left (Char.utf8Size_pos _) _

theorem tilesGenuine (tiles : Tiles rest here parts) : ∀ p ∈ parts, Genuine p.token := by
  induction tiles with
  | nil => simp
  | cons placed lexeme blank more ih => exact List.forall_mem_cons.mpr ⟨lexemeGenuine lexeme, ih⟩

theorem tilesPlaces (tiles : Tiles rest here parts) : ∀ p ∈ parts, ∃ front behind,
    textOfParts parts = front ++ behind ∧ p.token.offset = here + byteLength front ∧
      0 < byteLength behind := by
  induction tiles with
  | nil => simp
  | @cons here p parts placed lexeme blank more ih =>
    have text : textOfParts (p :: parts) = p.text ++ textOfParts parts := rfl
    refine List.forall_mem_cons.mpr ⟨⟨[], textOfParts (p :: parts), rfl, placed, ?_⟩, ?_⟩
    · rw [text, Part.text, List.append_assoc, byteLengthAppend]
      exact Nat.add_pos_left (lexemeLong lexeme) _
    · intro q member
      obtain ⟨front, behind, same, offset, long⟩ := ih q member
      refine ⟨p.text ++ front, behind, by rw [text, same, List.append_assoc], ?_, long⟩
      rw [offset, byteLengthAppend, Nat.add_assoc]

theorem tilesIncreasing (tiles : Tiles rest here parts) :
    (parts.map Part.token).Pairwise (·.offset < ·.offset) := by
  induction tiles with
  | nil => exact .nil
  | @cons here p parts placed lexeme blank more ih =>
    refine List.pairwise_cons.mpr ⟨fun t member => ?_, ih⟩
    obtain ⟨q, later, rfl⟩ := List.mem_map.mp member
    obtain ⟨front, behind, same, offset, long⟩ := tilesPlaces more q later
    have positive := lexemeLong lexeme
    rw [placed, offset, Part.text, byteLengthAppend]
    omega

theorem byteLengthSize (cs : List Char) : byteLength cs = (String.ofList cs).utf8ByteSize := by
  induction cs with
  | nil => rfl
  | cons c cs ih =>
    rw [byteLength, ih, String.ofList_cons, String.utf8ByteSize_append,
      String.utf8ByteSize_singleton]

theorem sizeOfText (s : String) : s.utf8ByteSize = byteLength s.toList := by
  rw [byteLengthSize, String.ofList_toList]

theorem boundaryBehind {source : String} (split : source.toList = front ++ rest) :
    String.Pos.Raw.IsValid source ⟨byteLength front⟩ := by
  refine String.Pos.Raw.isValid_iff_exists_append.mpr
    ⟨String.ofList front, String.ofList rest, ?_, ?_⟩
  · rw [← String.ofList_append, ← split, String.ofList_toList]
  · rw [byteLengthSize]
    rfl

def tokensOf (source : String) (parts : List Part) : List Token :=
  parts.map Part.token ++ [⟨.ending, "", source.utf8ByteSize⟩]

variable {source : String}

theorem wholeLength (tiled : Tiled 0 source.toList lead parts []) :
    byteLength (lead ++ textOfParts parts) = source.utf8ByteSize := by
  rw [sizeOfText, tiled.text, List.append_nil]

theorem wholeIncreasing (tiled : Tiled 0 source.toList lead parts []) :
    (tokensOf source parts).Pairwise (·.offset < ·.offset) := by
  refine List.pairwise_append.mpr ⟨tilesIncreasing tiled.tiles, List.pairwise_singleton _ _, ?_⟩
  intro t member ending last
  obtain rfl := List.mem_singleton.mp last
  obtain ⟨p, there, rfl⟩ := List.mem_map.mp member
  obtain ⟨front, behind, same, offset, long⟩ := tilesPlaces tiled.tiles p there
  have size := wholeLength tiled
  rw [same, byteLengthAppend, byteLengthAppend] at size
  simp only
  omega

theorem wholeBoundaries (tiled : Tiled 0 source.toList lead parts []) :
    ∀ t ∈ tokensOf source parts, String.Pos.Raw.IsValid source ⟨t.offset⟩ := by
  intro t member
  rcases List.mem_append.mp member with token | last
  · obtain ⟨p, there, rfl⟩ := List.mem_map.mp token
    obtain ⟨front, behind, same, offset, _⟩ := tilesPlaces tiled.tiles p there
    have split : source.toList = (lead ++ front) ++ behind := by
      rw [tiled.text, same, List.append_nil, List.append_assoc]
    rw [offset, Nat.zero_add, ← byteLengthAppend]
    exact boundaryBehind split
  · obtain rfl := List.mem_singleton.mp last
    have split : source.toList = (lead ++ textOfParts parts) ++ [] := by
      rw [tiled.text, List.append_assoc]
    rw [← wholeLength tiled]
    exact boundaryBehind split

theorem tokensWhole (found : tokens source = .ok ts) :
    ∃ lead parts, Tiled 0 source.toList lead parts [] ∧ ts = tokensOf source parts := by
  obtain ⟨lead, parts, rest, tiled, read, ends⟩ := scannedCovers 0 source.toList
  rw [tokens, tokensScanned, Scanned.tokens, read] at found
  generalize (scanned 0 source.toList).stop = stop at found ends
  cases ends with
  | ending =>
    cases found
    rw [Nat.zero_add, wholeLength tiled]
    exact ⟨lead, parts, tiled, rfl⟩
  | fault => cases found

theorem tokensBroken (failed : tokens source = .error fault) :
    ∃ front rest, source.toList = front ++ rest ∧ Offends (byteLength front) rest fault ∧
      tokens (String.ofList front) =
        .ok ((scanned 0 source.toList).read ++ [⟨.ending, "", byteLength front⟩]) := by
  obtain ⟨lead, parts, rest, tiled, read, ends⟩ := scannedCovers 0 source.toList
  have before := tiledTokens tiled
  rw [Nat.zero_add] at before ends
  rw [tokens, tokensScanned, Scanned.tokens] at failed
  generalize (scanned 0 source.toList).stop = stop at failed ends
  cases ends with
  | ending => cases failed
  | fault offends =>
    cases failed
    refine ⟨lead ++ textOfParts parts, rest, by rw [tiled.text, List.append_assoc], offends, ?_⟩
    rw [tokens, read, String.toList_ofList]
    exact before

/-- The tokens of a source stand one behind the other at boundaries of characters, and their texts
with the white space before, between and behind them are the source. In a source without tokens the
part before the first text that is none has exactly the tokens read up to there. -/
theorem tokensTileSource (source : String) :
    (∀ ts, tokens source = .ok ts → ∃ lead parts, Tiled 0 source.toList lead parts [] ∧
      ts = parts.map Part.token ++ [⟨.ending, "", source.utf8ByteSize⟩] ∧
      (∀ p ∈ parts, p.token.kind ≠ .ending) ∧ ts.Pairwise (·.offset < ·.offset) ∧
      ∀ t ∈ ts, String.Pos.Raw.IsValid source ⟨t.offset⟩) ∧
    ∀ fault, tokens source = .error fault → ∃ front rest, source.toList = front ++ rest ∧
      Offends (byteLength front) rest fault ∧ tokens (String.ofList front) =
        .ok ((scanned 0 source.toList).read ++ [⟨.ending, "", byteLength front⟩]) := by
  constructor
  · intro ts found
    obtain ⟨lead, parts, tiled, rfl⟩ := tokensWhole found
    exact ⟨lead, parts, tiled, rfl, fun p member => (tilesGenuine tiled.tiles p member).proper,
      wholeIncreasing tiled, wholeBoundaries tiled⟩
  · intro fault failed
    exact tokensBroken failed

theorem wideTokensTiled :
    let source := ".b(\"\u00fc\\\"\")\u2003;"
    let ts : List Token := [⟨.dot, ".", 0⟩, ⟨.name, "b", 1⟩, ⟨.opening, "(", 2⟩,
      ⟨.string, "\u00fc\"", 3⟩, ⟨.closing, ")", 9⟩, ⟨.semicolon, ";", 13⟩, ⟨.ending, "", 14⟩]
    let broken := "12ab \"\u00e9\\q\""
    let fault : SourceFault := .lex (.unknownEscape 'q') 8
    (tokens source = .ok ts ∧ ∀ t ∈ ts, String.Pos.Raw.IsValid source ⟨t.offset⟩) ∧
      tokens broken = .error fault ∧
      (scanned 0 broken.toList).read = [⟨.number, "12", 0⟩, ⟨.name, "ab", 2⟩] ∧
      ∃ front rest, broken.toList = front ++ rest ∧ Offends (byteLength front) rest fault := by
  intro source ts broken fault
  constructor
  · have found : tokens source = .ok ts := by
      simp only [source, ts]
      with_unfolding_all rfl
    obtain ⟨lead, parts, tiled, same, proper, increasing, boundaries⟩ :=
      (tokensTileSource source).1 ts found
    exact ⟨found, boundaries⟩
  · have failed : tokens broken = .error fault := by
      simp only [broken, fault]
      with_unfolding_all rfl
    have read : (scanned 0 broken.toList).read = [⟨.number, "12", 0⟩, ⟨.name, "ab", 2⟩] := by
      decide +kernel
    obtain ⟨front, rest, split, offends, _⟩ := (tokensTileSource broken).2 fault failed
    exact ⟨failed, read, front, rest, split, offends⟩

end ElementLocator.Selector
