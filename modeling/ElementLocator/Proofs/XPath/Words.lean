import ElementLocator.Proofs.XPath.Literal
/-! The words of a source outside of its quotes. The scan finds an operator where it is a whole
word. A name may have dollar signs, which end a word of the scan, so there are longer words too. -/
namespace ElementLocator.XPath
open ElementLocator.Text

variable {part : Char → Bool} {c mark : Char} {cs v w : List Char} {us : List (List Char)}
  {op : Operator}

def joinFirst (w : List Char) : List (List Char) → List (List Char)
  | [] => [w]
  | v :: vs => (w ++ v) :: vs

def words (part : Char → Bool) : Option Char → List Char → List (List Char)
  | _, [] => [[]]
  | some mark, c :: cs => words part (if c = mark then none else some mark) cs
  | none, c :: cs =>
      if part c then joinFirst [c] (words part none cs)
      else [] :: words part (if isQuote c then some c else none) cs

def isLongPart (c : Char) : Bool := isWordPart c || c = '$'

theorem joinFirstAgain (v w : List Char) (us : List (List Char)) :
    joinFirst v (joinFirst w us) = joinFirst (v ++ w) us := by
  cases us <;> simp [joinFirst]

theorem joinNothing (nonempty : us ≠ []) : joinFirst [] us = us := by
  cases us with
  | nil => exact absurd rfl nonempty
  | cons v vs => rfl

theorem joinAppend (nonempty : us ≠ []) (w : List Char) (more : List (List Char)) :
    joinFirst w (us ++ more) = joinFirst w us ++ more := by
  cases us with
  | nil => exact absurd rfl nonempty
  | cons v vs => rfl

theorem wordsNonempty (q : Option Char) (cs : List Char) : words part q cs ≠ [] := by
  induction cs generalizing q with
  | nil => simp [words]
  | cons c cs ih =>
    cases q with
    | some mark => exact ih _
    | none =>
      rw [words]
      split
      · cases words part none cs <;> simp [joinFirst]
      · simp

theorem wordsSpan (parts : ∀ c ∈ v, part c = true) (cs : List Char) :
    words part none (v ++ cs) = joinFirst v (words part none cs) := by
  induction v with
  | nil => exact (joinNothing (wordsNonempty none cs)).symm
  | cons c v ih =>
    obtain ⟨first, others⟩ := List.forall_mem_cons.mp parts
    rw [List.cons_append, words, if_pos first, ih others, joinFirstAgain]
    rfl

theorem wordsMark (noPart : part c = false) (noQuote : isQuote c = false) (cs : List Char) :
    words part none (c :: cs) = [] :: words part none cs := by
  rw [words, if_neg (by simp [noPart]), if_neg (by simp [noQuote])]

theorem wordsQuoted (noPart : part c = false) (quote : isQuote c = true) (inside : ∀ x ∈ w, x ≠ c)
    (cs : List Char) : words part none (c :: (w ++ c :: cs)) = [] :: words part none cs := by
  have closed : words part (some c) (w ++ c :: cs) = words part none cs := by
    induction w with
    | nil => simp [words]
    | cons x w ih =>
      obtain ⟨other, others⟩ := List.forall_mem_cons.mp inside
      rw [List.cons_append, words, if_neg other]
      exact ih others
  rw [words, if_neg (by simp [noPart]), if_pos quote, closed]

theorem splitNonempty (mark : Char) (cs : List Char) : split mark cs ≠ [] := by
  obtain ⟨p, ps, pieces, _⟩ := splitJoined mark cs
  simp [pieces]

theorem splitOther (other : c ≠ mark) (cs : List Char) :
    split mark (c :: cs) = joinFirst [c] (split mark cs) := by
  obtain ⟨p, ps, pieces, _⟩ := splitJoined mark cs
  simp [split, other, pieces, joinFirst]

theorem splitSpan (free : ∀ c ∈ v, c ≠ mark) (cs : List Char) :
    split mark (v ++ cs) = joinFirst v (split mark cs) := by
  induction v with
  | nil => exact (joinNothing (splitNonempty mark cs)).symm
  | cons c v ih =>
    obtain ⟨first, others⟩ := List.forall_mem_cons.mp free
    rw [List.cons_append, splitOther first, ih others, joinFirstAgain]
    rfl

theorem wordsSplit (q : Option Char) (cs : List Char) :
    words isWordPart q cs = (words isLongPart q cs).flatMap (split '$') := by
  induction cs generalizing q with
  | nil => rfl
  | cons c cs ih =>
    cases q with
    | some mark => exact ih _
    | none =>
      cases found : words isLongPart none cs with
      | nil => exact absurd found (wordsNonempty none cs)
      | cons w ws =>
        have more := ih none
        rw [found, List.flatMap_cons] at more
        by_cases dollar : c = '$'
        · subst dollar
          rw [wordsMark (by decide) (by decide), more, words, if_pos (by decide), found]
          simp [joinFirst, split]
        · cases part : isWordPart c with
          | true =>
            have long : isLongPart c = true := by simp [isLongPart, part]
            rw [words, if_pos part, more, words, if_pos long, found,
              joinAppend (splitNonempty '$' w), ← splitOther dollar]
            rfl
          | false =>
            have short : ¬ isLongPart c = true := by simp [isLongPart, part, dollar]
            rw [words, if_neg (by simp [part]), ih, words, if_neg short]
            rfl

theorem punctuationKeeps (s : Scan) (c : Char) (here : List Char) :
    (s.punctuation c here).operators = s.operators ∧ (s.punctuation c here).word = s.word ∧
      (s.punctuation c here).quote = if isQuote c then some c else s.quote := by
  unfold Scan.punctuation
  split
  · rename_i quote
    exact ⟨rfl, rfl, by simp [isQuote, quote]⟩
  · rename_i noQuote
    have plain : isQuote c = false := by simpa [isQuote] using noQuote
    rw [plain]
    split
    · exact ⟨rfl, rfl, rfl⟩
    · split <;> exact ⟨rfl, rfl, rfl⟩

theorem runOperators (s : Scan) (cs : List Char) : (s.run cs).operators = s.operators ++
    (joinFirst s.word.reverse (words isWordPart s.quote cs)).flatMap
      fun w => operatorOf w.reverse := by
  induction cs generalizing s with
  | nil => simp [Scan.run, Scan.endWord, words, joinFirst]
  | cons c cs ih =>
    cases quote : s.quote with
    | some mark =>
      rw [Scan.run, quote, words]
      simp only
      split <;> simp [ih, quote]
    | none =>
      rw [Scan.run, quote, words]
      simp only
      split
      · rw [ih, joinFirstAgain, List.reverse_cons]
      · obtain ⟨operators, word, opened⟩ := punctuationKeeps s.endWord c (c :: cs)
        have ended : s.endWord.word = [] ∧ s.endWord.quote = none := ⟨rfl, quote⟩
        rw [ih, operators, word, opened, ended.1, ended.2, List.reverse_nil,
          joinNothing (wordsNonempty _ cs)]
        simp [Scan.endWord, joinFirst]

theorem operatorOfWord (logical : op.isLogical = true) :
    op ∈ operatorOf w.reverse ↔ w = op.symbol.toList := by
  unfold operatorOf
  simp only [List.reverse_eq_iff]
  cases op with
  | and => by_cases same : w = ['a', 'n', 'd'] <;> simp [Operator.symbol, same]
  | or =>
    by_cases other : w = ['a', 'n', 'd']
    · simp [Operator.symbol, other]
    · by_cases same : w = ['o', 'r'] <;> simp [Operator.symbol, other, same]
  | _ => cases logical

theorem scannedOperators (logical : op.isLogical = true) :
    op ∈ (scan cs).operators ↔ op.symbol.toList ∈ words isWordPart none cs := by
  rw [scan, runOperators]
  simp [joinNothing (wordsNonempty _ _), List.mem_flatMap, operatorOfWord logical]

end ElementLocator.XPath
