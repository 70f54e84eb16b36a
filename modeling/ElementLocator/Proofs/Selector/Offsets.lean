import ElementLocator.Proofs.Selector.Misfit
import ElementLocator.Proofs.Selector.Words
/-! Where a fault stands in its source. Offsets are counted from what is left of a source when it
has been unwrapped, so they are places in the source itself only where nothing was dropped before
them. -/
namespace ElementLocator.Selector
open ElementLocator.Text

def dropped (cs : List Char) : List Char :=
  cs.takeWhile isBlank ++ match trim cs with
    | '\'' :: rest => if rest.getLast? = some '\'' then ['\''] else []
    | _ => []

inductive Blames (t : Token) : ParseCause → Prop where
  | expected (kind : Kind) : Blames t (.expected kind t)
  | argument : Blames t (.unexpectedArgument t)
  | range (isNumber : t.kind = .number) : Blames t (.integerOutOfRange t.literal)
  | nesting (isNew : t.kind = .new) : Blames t (.tooNested maxNesting)

inductive Shows : List Char → SourceFault → Prop where
  | character {c : Char} {cs : List Char} {offset : Nat} :
      Shows (c :: cs) (.lex (.unexpectedCharacter c) offset)
  | openString {cs : List Char} {offset : Nat} : Shows ('"' :: cs) (.lex .unterminatedString offset)
  | escape {c : Char} {cs : List Char} {offset : Nat} :
      Shows ('\\' :: c :: cs) (.lex (.unknownEscape c) offset)
  | token {t : Token} {raw rest : List Char} {cause : ParseCause} {offset : Nat}
      (lexeme : Lexeme rest t raw) (blames : Blames t cause) :
      Shows (raw ++ rest) (.parse cause offset)
  | ending {t : Token} {cause : ParseCause} {offset : Nat} (isEnding : t.kind = .ending)
      (blames : Blames t cause) : Shows [] (.parse cause offset)

variable {here : Nat} {cs p front rest : List Char} {t : Token} {q : Progress} {parts : List Part}
  {part : Part} {fault : SourceFault} {source blanks : String} {ts : List Token}

theorem byteLengthZero : byteLength cs = 0 ↔ cs = [] := by
  cases cs with
  | nil => exact ⟨fun _ => rfl, fun _ => rfl⟩
  | cons c cs =>
    have positive := c.utf8Size_pos
    simp only [byteLength, reduceCtorEq, iff_false]
    omega

theorem unwrappedSplit (cs : List Char) : ∃ back, cs = dropped cs ++ (unwrapped cs ++ back) := by
  obtain ⟨b, ended, _⟩ := trimEndSplit (trimStart cs)
  rw [← trim] at ended
  have parted : cs = cs.takeWhile isBlank ++ (trim cs ++ b) := by
    rw [← ended]
    exact List.takeWhile_append_dropWhile.symm
  rw [dropped, unwrapped]
  generalize trim cs = inner at parted ⊢
  split
  · split
    · rename_i last
      obtain ⟨inside, rfl⟩ := List.getLast?_eq_some_iff.mp last
      exact ⟨'\'' :: b, by simpa using parted⟩
    · rename_i other
      exact ⟨b, by simpa [other] using parted⟩
  · exact ⟨b, by simpa using parted⟩

theorem trimBlanks (blank : ∀ c ∈ p, isBlank c = true) (cs : List Char) :
    trim (p ++ cs) = trim cs := by
  rw [trim, trim, trimStart, trimStart, List.dropWhile_append_of_pos blank]

theorem unwrappedBlanks (blank : ∀ c ∈ p, isBlank c = true) (cs : List Char) :
    unwrapped (p ++ cs) = unwrapped cs := by
  rw [unwrapped, unwrapped, trimBlanks blank]

theorem parseBlanks (blank : ∀ c ∈ blanks.toList, isBlank c = true) (source : String) :
    parse (blanks ++ source) = parse source := by
  rw [parse, parse, String.toList_append, unwrappedBlanks blank]

theorem outcomeBlames (failed : q.outcome t = .error fault) :
    ∃ cause, fault = .parse cause t.offset ∧ Blames t cause := by
  obtain ⟨calls, frames, phase⟩ := q
  cases phase with
  | start => cases failed
  | chain =>
    cases frames with
    | nil => cases failed
    | cons => cases failed; exact ⟨_, rfl, .expected _⟩
  | argument name =>
    simp only [Progress.outcome] at failed
    split at failed
    · rename_i isNumber
      cases failed
      exact ⟨_, rfl, .range isNumber⟩
    · rename_i isNew
      cases failed
      exact ⟨_, rfl, .nesting isNew⟩
    · cases failed
      exact ⟨_, rfl, .argument⟩
  | _ => cases failed; exact ⟨_, rfl, .expected _⟩

theorem soleBlames (c : Cursor) (isEnding : c.last.kind = .ending)
    (failed : c.sole = .error fault) :
    ∃ t ∈ c.tokens, ∃ cause, fault = .parse cause t.offset ∧ Blames t cause := by
  obtain ⟨read, q, t, after, whole, _, _, outcome, left⟩ := nextStuck c isEnding
  rw [Cursor.sole, outcome] at failed
  cases done : q.outcome t with
  | error other =>
    rw [done] at failed
    cases failed
    exact ⟨t, by simp [whole], outcomeBlames done⟩
  | ok s =>
    rw [done] at failed
    simp only [Except.bind] at failed
    split at failed
    · cases failed
    cases failed
    refine ⟨c.next.2.peek, ?_, _, rfl, .expected _⟩
    obtain ⟨more, first⟩ := peekFirst c.next.2
    have ahead : c.next.2.peek ∈ c.next.2.tokens := by simp [first]
    rw [left] at ahead
    rw [whole]
    split at ahead <;> simp_all

/- The place of a token, and that of a text which is none. -/

theorem tilesShow (tiles : Tiles rest here parts) : ∀ part ∈ parts, ∃ front behind,
    textOfParts parts ++ rest = front ++ (part.raw ++ behind) ∧
      part.token.offset = here + byteLength front ∧ Lexeme behind part.token part.raw := by
  induction tiles with
  | nil => simp
  | @cons here part parts placed lexeme blank more ih =>
    have text : textOfParts (part :: parts) ++ rest =
        part.raw ++ (part.gap ++ (textOfParts parts ++ rest)) := by
      simp [textOfParts, Part.text]
    refine List.forall_mem_cons.mpr ⟨⟨[], _, text, placed, lexeme⟩, ?_⟩
    intro other member
    obtain ⟨front, behind, same, offset, lexeme⟩ := ih other member
    refine ⟨part.text ++ front, behind, ?_, ?_, lexeme⟩
    · rw [text, same, Part.text]
      simp
    · rw [offset, byteLengthAppend, Nat.add_assoc]

theorem tokenShows (found : tokens source = .ok ts) (member : t ∈ ts) {cause : ParseCause}
    (blames : Blames t cause) : ∃ before after, source.toList = before ++ after ∧
      t.offset = byteLength before ∧ Shows after (.parse cause t.offset) := by
  obtain ⟨lead, parts, tiled, rfl⟩ := tokensWhole found
  rcases List.mem_append.mp member with inside | last
  · obtain ⟨part, there, rfl⟩ := List.mem_map.mp inside
    obtain ⟨front, behind, text, offset, lexeme⟩ := tilesShow tiled.tiles part there
    refine ⟨lead ++ front, part.raw ++ behind, ?_, ?_, .token lexeme blames⟩
    · rw [tiled.text, text, List.append_assoc]
    · rw [offset, Nat.zero_add, byteLengthAppend]
  · obtain rfl := List.mem_singleton.mp last
    exact ⟨source.toList, [], (List.append_nil _).symm, sizeOfText source, .ending rfl blames⟩

theorem offendingShows (offends : Offends (byteLength front) rest fault) :
    ∃ before after, front ++ rest = before ++ after ∧ fault.offset = byteLength before ∧
      Shows after fault := by
  cases offends with
  | character => exact ⟨front, _, rfl, rfl, .character⟩
  | string broken =>
    cases broken with
    | unclosed => exact ⟨front, _, rfl, rfl, .openString⟩
    | @escape body value rest c =>
      refine ⟨front ++ '"' :: body, '\\' :: c :: rest, by simp, ?_, .escape⟩
      have quote : Char.utf8Size '"' = 1 := rfl
      rw [byteLengthAppend, byteLength, quote, ← Nat.add_assoc]
      rfl

theorem faultShows (failed : parse source = .error fault) :
    ∃ before after, unwrapped source.toList = before ++ after ∧
      fault.offset = byteLength before ∧ Shows after fault := by
  have inside : (unwrap source).toList = unwrapped source.toList := String.toList_ofList
  rw [← inside]
  cases found : tokens (unwrap source) with
  | error other =>
    obtain ⟨front, rest, text, offends, _⟩ := tokensBroken found
    rw [tokens, inside] at found
    rw [parse, found] at failed
    cases failed
    rw [text]
    exact offendingShows offends
  | ok ts =>
    rw [parseTokens found] at failed
    obtain ⟨proper, ending, rfl, isEnding, _⟩ := tokensGenuine found
    have same : (Cursor.ofTokens (proper ++ [ending])).tokens = proper ++ [ending] := by
      simp [Cursor.ofTokens, Cursor.tokens, isEnding]
    obtain ⟨t, member, cause, rfl, blames⟩ := soleBlames _ (ofTokensLast _) failed
    rw [same] at member
    exact tokenShows found member blames

/-- White space in front of a source changes neither the fault nor its offset, so the offset does
not move on with what the fault is about. That stands behind the white space and whatever else
unwrapping drops, and the offset is its place exactly if nothing is dropped there. -/
theorem offsetsAfterUnwrapping (blank : ∀ c ∈ blanks.toList, isBlank c = true)
    (failed : parse source = .error fault) :
    parse (blanks ++ source) = .error fault ∧
      ((∃ moved, parse (blanks ++ source) = .error moved ∧
          moved.offset = blanks.utf8ByteSize + fault.offset) ↔ blanks = "") ∧
      ∃ before after back,
        (blanks ++ source).toList =
          blanks.toList ++ dropped source.toList ++ before ++ after ++ back ∧
        fault.offset = byteLength before ∧ Shows after fault ∧
        (fault.offset = byteLength (blanks.toList ++ dropped source.toList ++ before) ↔
          blanks = "" ∧ dropped source.toList = []) := by
  have same : parse (blanks ++ source) = .error fault := (parseBlanks blank source).trans failed
  have empty : byteLength blanks.toList = 0 ↔ blanks = "" := by
    rw [byteLengthZero, String.toList_eq_nil_iff]
  refine ⟨same, ⟨?_, ?_⟩, ?_⟩
  · rintro ⟨moved, failsThere, offset⟩
    rw [same] at failsThere
    cases failsThere
    rw [sizeOfText] at offset
    exact empty.mp (by omega)
  · rintro rfl
    exact ⟨fault, same, (Nat.zero_add _).symm⟩
  · obtain ⟨before, after, text, offset, shows⟩ := faultShows failed
    obtain ⟨back, parted⟩ := unwrappedSplit source.toList
    rw [text] at parted
    refine ⟨before, after, back, ?_, offset, shows, ?_⟩
    · have whole := congrArg (blanks.toList ++ ·) parted
      simpa using whole
    · rw [offset, byteLengthAppend, byteLengthAppend, ← empty, ← byteLengthZero]
      omega

theorem wrappedOffsetKept :
    let blanks := "\u2003"
    let source := " '.a(\"\u00e9\\q\")' "
    let fault : SourceFault := .lex (.unknownEscape 'q') 6
    ((∀ c ∈ blanks.toList, isBlank c = true) ∧ parse source = .error fault) ∧
      parse (blanks ++ source) = .error fault ∧
      ∃ before after back,
        (blanks ++ source).toList =
          blanks.toList ++ dropped source.toList ++ before ++ after ++ back ∧
        byteLength before = 6 ∧ Shows after fault ∧
        byteLength (blanks.toList ++ dropped source.toList ++ before) ≠ 6 := by
  intro blanks source fault
  have blank : ∀ c ∈ blanks.toList, isBlank c = true := List.all_eq_true.mp (by decide +kernel)
  have failed : parse source = .error fault := by
    simp only [source, fault]
    with_unfolding_all rfl
  obtain ⟨same, _, before, after, back, text, offset, shows, exactly⟩ :=
    offsetsAfterUnwrapping blank failed
  refine ⟨⟨blank, failed⟩, same, before, after, back, text, offset.symm, shows, fun place => ?_⟩
  exact absurd (exactly.mp place.symm).1 (by decide)

theorem blanksNotCounted :
    let blanks := "\u2003 "
    let source := "new UiSelector().text(;"
    let fault : SourceFault := .parse (.unexpectedArgument ⟨.semicolon, ";", 22⟩) 22
    (∀ c ∈ blanks.toList, isBlank c = true) ∧ parse source = .error fault ∧
      parse (blanks ++ source) = .error fault ∧
      ¬ ∃ moved, parse (blanks ++ source) = .error moved ∧
        moved.offset = blanks.utf8ByteSize + fault.offset := by
  intro blanks source fault
  have failed : parse source = .error fault := by
    simp only [source, fault]
    with_unfolding_all rfl
  have behind : parse (blanks ++ source) = .error fault := by
    simp only [blanks, source, fault]
    with_unfolding_all rfl
  refine ⟨List.all_eq_true.mp (by decide +kernel), failed, behind, ?_⟩
  rintro ⟨moved, failsThere, offset⟩
  rw [behind] at failsThere
  cases failsThere
  exact absurd offset (by decide)

end ElementLocator.Selector
