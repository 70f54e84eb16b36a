import ElementLocator.Proofs.Selector.Continuing
import ElementLocator.Proofs.Selector.Tiling
/-! Where the reading of a source fails. What has been read up to there can be completed to a
selector, and the token at which it fails cannot come next, unless it is a number or a selector
beyond one of the two limits. -/
namespace ElementLocator.Selector

inductive Misfit (spare : Nat) : List Token → Token → Prop where
  | stuck {q : Progress} {before : List Token} {t : Token}
      (steps : Steps spare .start before q) (stuck : q.take? spare t = none)
      (unfit : ∀ s, q.outcome t = .ok s → t.kind ≠ .ending ∧ t.kind ≠ .semicolon) :
      Misfit spare before t
  | behind {q : Progress} {before : List Token} {semicolon t : Token} {s : Selector}
      (steps : Steps spare .start before q) (stuck : q.take? spare semicolon = none)
      (done : q.outcome semicolon = .ok s) (isSemicolon : semicolon.kind = .semicolon)
      (noEnding : t.kind ≠ .ending) : Misfit spare (before ++ [semicolon]) t

variable {spare : Nat} {t : Token} {p q : Progress} {ts : List Token} {s : Selector}
  {source : String} {cause : ParseCause} {offset : Nat}

theorem outcomeOffset (fails : p.outcome t = .error (.parse cause offset)) :
    t.offset = offset := by
  obtain ⟨calls, frames, phase⟩ := p
  cases phase with
  | start => cases fails
  | chain =>
    cases frames with
    | nil => cases fails
    | cons => cases fails; rfl
  | argument name =>
    simp only [Progress.outcome] at fails
    split at fails <;> (cases fails; rfl)
  | _ => cases fails; rfl

theorem swallowsSemicolon (done : p.outcome t = .ok s) (isSemicolon : t.kind = .semicolon) :
    p.swallows t = true := by
  obtain ⟨calls, frames, phase⟩ := p
  cases phase with
  | start => exact decide_eq_true isSemicolon
  | chain =>
    cases frames with
    | nil => exact decide_eq_true isSemicolon
    | cons => cases done
  | argument name => simp [Progress.outcome, isSemicolon] at done
  | _ => cases done

theorem peekFirst (c : Cursor) : ∃ more, c.tokens = c.peek :: more := by
  obtain ⟨ahead, last, spare⟩ := c
  cases ahead with
  | nil => exact ⟨[], rfl⟩
  | cons t rest => exact ⟨rest ++ [last], rfl⟩

theorem nextStuck (c : Cursor) (isEnding : c.last.kind = .ending) :
    ∃ read q t after, c.tokens = read ++ t :: after ∧ Steps c.spare .start read q ∧
      q.take? c.spare t = none ∧ c.next.1 = q.outcome t ∧
      c.next.2.tokens = if q.swallows t then after else t :: after := by
  obtain ⟨ahead, last, spare⟩ := c
  obtain ⟨read, rest, q, rfl, steps, halts⟩ := runHalts spare last .start ahead
  rw [Cursor.next, Cursor.tokens, Cursor.tokens]
  generalize Progress.start.run spare last (read ++ rest) = stop at halts
  cases halts with
  | last =>
    refine ⟨read, q, last, [], by simp, steps, ?_, rfl, ?_⟩
    · cases taken : q.take? spare last with
      | none => rfl
      | some next => exact absurd isEnding (stepKind (stepOf taken)).1
    · have kept : q.swallows last = false :=
        Bool.eq_false_iff.mpr fun swallows => swallowsProper swallows isEnding
      rw [kept]
      rfl
  | @stuck t rest stuck =>
    refine ⟨read, q, t, rest ++ [last], by simp, steps, stuck, rfl, ?_⟩
    split <;> rfl

theorem cursorMisfit (c : Cursor) (isEnding : c.last.kind = .ending)
    (failed : c.sole = .error (.parse cause offset)) :
    ∃ before t after, c.tokens = before ++ t :: after ∧ Misfit c.spare before t ∧
      t.offset = offset := by
  obtain ⟨read, q, t, after, whole, steps, stuck, outcome, left⟩ := nextStuck c isEnding
  obtain ⟨more, first⟩ := peekFirst c.next.2
  rw [Cursor.sole, outcome] at failed
  cases done : q.outcome t with
  | error fault =>
    rw [done] at failed
    cases failed
    refine ⟨read, t, after, whole, .stuck steps stuck fun s complete => ?_, outcomeOffset done⟩
    rw [done] at complete
    cases complete
  | ok s =>
    rw [done] at failed
    simp only [Except.bind] at failed
    split at failed
    · cases failed
    rename_i noEnd
    have noEnding : c.next.2.peek.kind ≠ .ending := fun same => noEnd (decide_eq_true same)
    cases failed
    rw [first] at left
    split at left
    · rename_i swallows
      subst left
      refine ⟨read ++ [t], c.next.2.peek, more, by simpa using whole, ?_, rfl⟩
      exact .behind steps stuck done (swallowed done swallows) noEnding
    · rename_i kept
      obtain ⟨same, rfl⟩ := List.cons.inj left
      rw [same] at noEnding ⊢
      refine ⟨read, t, more, whole, .stuck steps stuck fun s _ => ⟨noEnding, ?_⟩, rfl⟩
      exact fun isSemicolon => kept (swallowsSemicolon done isSemicolon)

theorem misfitOfParse (failed : parse source = .error (.parse cause offset)) :
    ∃ before t after, tokens (unwrap source) = .ok (before ++ t :: after) ∧
      Misfit maxNesting before t ∧ t.offset = offset := by
  cases found : tokens (unwrap source) with
  | error fault =>
    obtain ⟨front, rest, _, offends, _⟩ := tokensBroken found
    rw [tokens, unwrap, String.toList_ofList] at found
    rw [parse, found] at failed
    cases failed
    cases offends with
    | string broken => cases broken
  | ok ts =>
    obtain ⟨proper, ending, rfl, isEnding, _⟩ := tokensGenuine found
    have same : (Cursor.ofTokens (proper ++ [ending])).tokens = proper ++ [ending] := by
      simp [Cursor.ofTokens, Cursor.tokens, isEnding]
    rw [parseTokens found] at failed
    obtain ⟨before, t, after, whole, misfit, placed⟩ :=
      cursorMisfit _ (ofTokensLast _) failed
    rw [ofTokensSpare] at misfit
    exact ⟨before, t, after, congrArg _ (same.symm.trans whole), misfit, placed⟩

theorem misfitProper (misfit : Misfit spare ts t) : ∀ u ∈ ts, u.kind ≠ .ending := by
  cases misfit with
  | stuck steps => exact stepsProper steps
  | behind steps _ _ isSemicolon =>
    exact List.forall_mem_append.mpr ⟨stepsProper steps, by simp [isSemicolon]⟩

theorem misfitCompleted (misfit : Misfit spare ts t) (genuine : ∀ u ∈ ts, Genuine u) :
    ∃ rest s, Derives (ts ++ rest) s := by
  cases misfit with
  | stuck steps => exact readingCompleted (readingSteps .start steps genuine)
  | @behind q read semicolon _ _ steps _ done isSemicolon =>
    have reading := readingSteps .start steps fun u member => genuine u (by simp [member])
    obtain ⟨head, us, calls, taken, start, derived, _⟩ := readingDone reading done
    rw [List.nil_append] at taken
    have whole := Derives.mk start derived (Or.inr ⟨semicolon, rfl, isSemicolon⟩)
    exact ⟨[], _, by simpa [taken] using whole⟩

theorem wholeDone (whole : Whole q) (t : Token) : ∃ s, q.outcome t = .ok s := by
  rcases whole with rfl | ⟨calls, rfl⟩
  · exact ⟨_, rfl⟩
  · exact ⟨_, rfl⟩

theorem exceedsLimit (exceeds : Exceeds spare t q) (steps : Steps spare .start ts q)
    (genuine : t.kind ≠ .ending → Genuine t) :
    ¬ InRange t ∨ t.kind = .new ∧ spare < openSelectors (latest (ts ++ [t])) := by
  cases exceeds with
  | number is range =>
    refine Or.inl fun fits => ?_
    rw [argOfNumber is (genuine (by simp [is])), if_pos (fits is)] at range
    cases range
  | @nested calls frames name is full =>
    have leads := leadsRead steps
    have opens : openSelectors (latest ts) = frames.length := leadsOpen leads
    have behind := leads.behind
    have latestOf : latest (ts ++ [t]) = .new :: latest ts := by simp [latest, is]
    refine Or.inr ⟨is, ?_⟩
    rw [latestOf]
    generalize latest ts = kinds at behind opens
    cases behind
    rw [nestedOpens, opens]
    exact Nat.lt_succ_of_le full

theorem misfitRefused (misfit : Misfit spare ts t) (genuine : t.kind ≠ .ending → Genuine t) :
    (∀ rest, ¬ Sentence (ts ++ t :: rest)) ∨ ¬ InRange t ∨
      t.kind = .new ∧ spare < openSelectors (latest (ts ++ [t])) := by
  refine Classical.or_iff_not_imp_left.mpr fun possible => ?_
  obtain ⟨rest, sentence⟩ : ∃ rest, Sentence (ts ++ t :: rest) := by simpa using possible
  cases misfit with
  | stuck steps stuck unfit =>
    rcases sentenceStuck sentence steps stuck with exceeds | ⟨whole, closes⟩
    · exact exceedsLimit exceeds steps genuine
    · obtain ⟨s, done⟩ := wholeDone whole t
      obtain ⟨noEnding, noSemicolon⟩ := unfit s done
      cases closes with
      | ending isEnding => exact absurd isEnding noEnding
      | semicolon isSemicolon => exact absurd isSemicolon noSemicolon
  | behind steps stuck done isSemicolon noEnding =>
    rw [List.append_assoc] at sentence
    rcases sentenceStuck sentence steps stuck with exceeds | ⟨whole, closes⟩
    · cases exceeds with
      | number is | nested is =>
        rw [isSemicolon] at is
        cases is
    · cases closes with
      | semicolon _ isEnding => exact absurd isEnding noEnding

theorem genuineUnlessEnding (found : tokens source = .ok ts) :
    ∀ t ∈ ts, t.kind ≠ .ending → Genuine t := by
  obtain ⟨proper, ending, rfl, isEnding, genuine⟩ := tokensGenuine found
  intro t member noEnding
  rcases List.mem_append.mp member with inside | last
  · exact genuine t inside
  · obtain rfl := List.mem_singleton.mp last
    exact absurd isEnding noEnding

theorem alonePlaced {before after : List Token}
    (found : tokens source = .ok (before ++ t :: after)) :
    ∀ u ∈ before ++ after, u.offset ≠ t.offset := by
  obtain ⟨lead, parts, tiled, same⟩ := tokensWhole found
  have increasing := wholeIncreasing tiled
  rw [← same] at increasing
  obtain ⟨_, later, earlier⟩ := List.pairwise_append.mp increasing
  refine List.forall_mem_append.mpr ⟨fun u member => ?_, fun u member => ?_⟩
  · exact Nat.ne_of_lt (earlier u member t (by simp))
  · exact Nat.ne_of_gt ((List.pairwise_cons.mp later).1 u member)

/-- A source that has tokens is refused at the first of them that cannot come next, or at a number
or a selector beyond its limit, and no other token stands at that offset. -/
theorem failsAtFirstMisfit (failed : parse source = .error (.parse cause offset)) :
    ∃ before t after, tokens (unwrap source) = .ok (before ++ t :: after) ∧ t.offset = offset ∧
      (∀ u ∈ before ++ after, u.offset ≠ offset) ∧ (∃ rest s, Derives (before ++ rest) s) ∧
      ((∀ rest, ¬ Sentence (before ++ t :: rest)) ∨ ¬ InRange t ∨
        t.kind = .new ∧ maxNesting < openSelectors (latest (before ++ [t]))) := by
  obtain ⟨before, t, after, found, misfit, rfl⟩ := misfitOfParse failed
  have genuine := genuineUnlessEnding found
  refine ⟨before, t, after, found, rfl, alonePlaced found, ?_, ?_⟩
  · exact misfitCompleted misfit fun u member =>
      genuine u (by simp [member]) (misfitProper misfit u member)
  · exact misfitRefused misfit (genuine t (by simp))

theorem secondArgumentMisfits :
    let source := " '.a(new UiSelector().b(\"\u00e9\" d))' "
    let stray : Token := ⟨.name, "d", 27⟩
    parse source = .error (.parse (.expected .closing stray) 27) ∧
      ∃ before after, tokens (unwrap source) = .ok (before ++ stray :: after) ∧
        (∃ rest s, Derives (before ++ rest) s) ∧ ∀ rest, ¬ Sentence (before ++ stray :: rest) := by
  intro source stray
  have only : (tokens (unwrap source)).map (fun ts => ts.filter fun t => t.offset = 27) =
      .ok [stray] := by
    simp only [source, stray]
    with_unfolding_all rfl
  have failed : parse source = .error (.parse (.expected .closing stray) 27) := by
    simp only [source, stray]
    with_unfolding_all rfl
  obtain ⟨before, t, after, found, placed, _, viable, misfit⟩ := failsAtFirstMisfit failed
  have there : t ∈ (before ++ t :: after).filter fun u => u.offset = 27 :=
    List.mem_filter.mpr ⟨by simp, decide_eq_true placed⟩
  rw [found] at only
  have alone : (before ++ t :: after).filter (fun u => u.offset = 27) = [stray] :=
    Except.ok.inj only
  rw [alone] at there
  obtain rfl := List.mem_singleton.mp there
  refine ⟨failed, before, after, found, viable, ?_⟩
  rcases misfit with refused | range | ⟨isNew, _⟩
  · exact refused
  · exact absurd (by simp [InRange]) range
  · cases isNew

end ElementLocator.Selector
