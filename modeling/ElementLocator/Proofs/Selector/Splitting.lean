import ElementLocator.Proofs.Outcome
import ElementLocator.Proofs.Selector.Text
/-! The tokens of any source that has tokens: one rule for each kind of token, and what the rules
say of every token. -/
namespace ElementLocator.Selector
open ElementLocator.Text

inductive Splits : Nat → List Char → List Token → Prop where
  | ending (here : Nat) : Splits here [] [⟨.ending, "", here⟩]
  | blank {here : Nat} {c : Char} {cs : List Char} {ts : List Token} (blank : isBlank c = true)
      (more : Splits (here + c.utf8Size) cs ts) : Splits here (c :: cs) ts
  | string {here stop : Nat} {cs value rest : List Char} {ts : List Token}
      (body : stringBody here (here + 1) cs = .ok (value, stop, rest))
      (more : Splits stop rest ts) :
      Splits here ('"' :: cs) (⟨.string, String.ofList value, here⟩ :: ts)
  | number {here : Nat} {c : Char} {w rest : List Char} {ts : List Token}
      (digits : ∀ x ∈ c :: w, isDigit x = true) (stop : Stops isDigit rest)
      (more : Splits (here + byteLength (c :: w)) rest ts) :
      Splits here (c :: (w ++ rest)) (⟨.number, String.ofList (c :: w), here⟩ :: ts)
  | word {here : Nat} {c : Char} {w rest : List Char} {ts : List Token}
      (first : isNameStart c = true) (parts : ∀ x ∈ w, isNamePart x = true)
      (stop : Stops isNamePart rest)
      (more : Splits (here + byteLength (c :: w)) rest ts) :
      Splits here (c :: (w ++ rest)) (⟨wordKind (c :: w), String.ofList (c :: w), here⟩ :: ts)
  | mark {here : Nat} {c : Char} {kind : Kind} {cs : List Char} {ts : List Token}
      (mark : punctuation? c = some kind) (more : Splits (here + c.utf8Size) cs ts) :
      Splits here (c :: cs) (⟨kind, String.ofList [c], here⟩ :: ts)

variable {here : Nat} {cs : List Char} {ts : List Token} {t : Token}

theorem splits (h : tokensFrom here cs = .ok ts) : Splits here cs ts := by
  fun_induction tokensFrom here cs generalizing ts with
  | case1 here =>
    cases h
    exact .ending here
  | case2 here c cs blank ih => exact .blank blank (ih h)
  | case3 => cases h
  | case4 here cs value stop rest body _ ih =>
    obtain ⟨us, more, rfl⟩ := mapOk.mp h
    exact .string body (ih more)
  | case5 here c cs _ _ digit =>
    rename_i ih
    obtain ⟨us, more, rfl⟩ := mapOk.mp h
    have all : ∀ x ∈ c :: cs.takeWhile isDigit, isDigit x = true := by
      intro x member
      rcases List.mem_cons.mp member with rfl | later
      · exact digit
      · exact takeWhileAll isDigit cs x later
    have read := Splits.number all (dropWhileStop isDigit cs) (ih more)
    rwa [List.takeWhile_append_dropWhile] at read
  | case6 here c cs _ _ _ first =>
    rename_i ih
    obtain ⟨us, more, rfl⟩ := mapOk.mp h
    have read := Splits.word first (takeWhileAll isNamePart cs) (dropWhileStop isNamePart cs)
      (ih more)
    rwa [List.takeWhile_append_dropWhile] at read
  | case7 => cases h
  | case8 here c cs _ _ _ _ kind mark ih =>
    obtain ⟨us, more, rfl⟩ := mapOk.mp h
    exact .mark mark (ih more)

structure Genuine (t : Token) : Prop where
  proper : t.kind ≠ .ending
  digits : t.kind = .number → t.literal ≠ "" ∧ ∀ x ∈ t.literal.toList, isDigit x = true
  identifier : t.kind = .name → IsIdentifier t.literal

inductive Word (w : List Char) : Kind → Prop where
  | new (is : w = "new".toList) : Word w .new
  | uiSelector (is : w = "UiSelector".toList) : Word w .uiSelector
  | yes (is : sameLetters w "true".toList = true) : Word w .yes
  | no (is : sameLetters w "false".toList = true) : Word w .no
  | name (noNew : w ≠ "new".toList) (noUiSelector : w ≠ "UiSelector".toList)
      (noYes : ¬ sameLetters w "true".toList = true)
      (noNo : ¬ sameLetters w "false".toList = true) : Word w .name

theorem wordOf (w : List Char) : Word w (wordKind w) := by
  unfold wordKind
  split
  · exact .new ‹_›
  · split
    · exact .uiSelector ‹_›
    · split
      · exact .yes ‹_›
      · split
        · exact .no ‹_›
        · exact .name ‹_› ‹_› ‹_› ‹_›

theorem wordProper {w : List Char} {kind : Kind} (word : Word w kind) :
    kind ≠ .ending ∧ kind ≠ .number := by
  cases word <;> exact ⟨nofun, nofun⟩

theorem genuineBefore (genuine : Genuine t)
    (h : ∃ before stop, ts = before ++ [⟨.ending, "", stop⟩] ∧ ∀ t ∈ before, Genuine t) :
    ∃ before stop, t :: ts = before ++ [⟨.ending, "", stop⟩] ∧ ∀ t ∈ before, Genuine t := by
  obtain ⟨before, stop, rfl, all⟩ := h
  exact ⟨t :: before, stop, rfl, List.forall_mem_cons.mpr ⟨genuine, all⟩⟩

theorem genuineString (value : String) (here : Nat) : Genuine ⟨.string, value, here⟩ :=
  ⟨nofun, nofun, nofun⟩

theorem genuineNumber {c : Char} {w : List Char} (digits : ∀ x ∈ c :: w, isDigit x = true)
    (here : Nat) : Genuine ⟨.number, String.ofList (c :: w), here⟩ :=
  ⟨nofun, fun _ => ⟨by simp [String.ext_iff], by rwa [String.toList_ofList]⟩, nofun⟩

theorem genuineWord {c : Char} {w : List Char} (first : isNameStart c = true)
    (parts : ∀ x ∈ w, isNamePart x = true) (here : Nat) :
    Genuine ⟨wordKind (c :: w), String.ofList (c :: w), here⟩ where
  proper := (wordProper (wordOf (c :: w))).1
  digits isNumber := absurd isNumber (wordProper (wordOf (c :: w))).2
  identifier kind := ⟨c, w, String.toList_ofList, first, parts, kind⟩

theorem genuineMark {c : Char} {kind : Kind} (mark : punctuation? c = some kind)
    (literal : String) (here : Nat) : Genuine ⟨kind, literal, here⟩ := by
  rcases markKinds mark with ⟨_, rfl⟩ | ⟨_, rfl⟩ | ⟨_, rfl⟩ | ⟨_, rfl⟩ <;>
    exact ⟨nofun, nofun, nofun⟩

theorem splitsGenuine (h : Splits here cs ts) :
    ∃ before stop, ts = before ++ [⟨.ending, "", stop⟩] ∧ ∀ t ∈ before, Genuine t := by
  induction h with
  | ending here => exact ⟨[], here, rfl, by simp⟩
  | blank _ _ ih => exact ih
  | string _ _ ih => exact genuineBefore (genuineString _ _) ih
  | number digits _ _ ih => exact genuineBefore (genuineNumber digits _) ih
  | word first parts _ _ ih => exact genuineBefore (genuineWord first parts _) ih
  | mark mark _ ih => exact genuineBefore (genuineMark mark _ _) ih

theorem tokensGenuine (h : tokensFrom here cs = .ok ts) :
    ∃ before ending, ts = before ++ [ending] ∧ ending.kind = .ending ∧
      ∀ t ∈ before, Genuine t := by
  obtain ⟨before, stop, rfl, genuine⟩ := splitsGenuine (splits h)
  exact ⟨before, _, rfl, rfl, genuine⟩

end ElementLocator.Selector
