import ElementLocator.Proofs.Text.Parser
/-! Parsers that are made from an inner one, together with the places at which they enter it. All
that they try is counted, also what leads to nothing. Where two inner parsers agree at these places,
the parsers that are made from them do the same. -/
namespace ElementLocator.Text

structure Watched (ι : Type) (c : Bool) (α : Type) where
  of : Parser true ι → Parser c α
  entries : Parser true ι → List Char → List (List Char)
  complete : ∀ {p q : Parser true ι} {cs : List Char}, (∀ r ∈ entries p cs, p.run r = q.run r) →
    (of p).run cs = (of q).run cs

namespace Watched
open ElementLocator.Text.Parser (manyStop manyStep)

variable {ι α β : Type} {c d : Bool}

def quiet (p : Parser c α) : Watched ι c α where
  of _ := p
  entries _ _ := []
  complete _ := rfl

def inner : Watched ι true ι where
  of p := p
  entries _ cs := [cs]
  complete same := same _ (List.mem_singleton_self _)

def map (f : α → β) (w : Watched ι c α) : Watched ι c β where
  of p := (w.of p).map f
  entries := w.entries
  complete same := by simp only [Parser.map, w.complete same]

def either (w v : Watched ι c α) : Watched ι c α where
  of p := (w.of p).either (v.of p)
  entries p cs := w.entries p cs ++ match (w.of p).run cs with
    | some _ => []
    | none => v.entries p cs
  complete {p q cs} same := by
    rw [List.forall_mem_append] at same
    have first := w.complete same.1
    simp only [Parser.either, ← first]
    cases found : (w.of p).run cs with
    | some _ => rfl
    | none =>
      rw [found] at same
      exact v.complete same.2

def andThen (w : Watched ι c α) (v : Watched ι d β) : Watched ι (c || d) (α × β) where
  of p := (w.of p).andThen (v.of p)
  entries p cs := w.entries p cs ++ match (w.of p).run cs with
    | some (_, rest) => v.entries p rest
    | none => []
  complete {p q cs} same := by
    rw [List.forall_mem_append] at same
    have first := w.complete same.1
    simp only [Parser.andThen, ← first]
    cases found : (w.of p).run cs with
    | some read =>
      rw [found] at same
      simp only [v.complete same.2]
    | none => rfl

def thenSkip (w : Watched ι c α) (v : Watched ι d β) : Watched ι (c || d) α :=
  (w.andThen v).map Prod.fst

def skipThen (w : Watched ι c α) (v : Watched ι d β) : Watched ι (c || d) β :=
  (w.andThen v).map Prod.snd

def optional (w : Watched ι c α) : Watched ι false (Option α) where
  of p := (w.of p).optional
  entries := w.entries
  complete same := by simp only [Parser.optional, w.complete same]

def manyEntries (w : Watched ι true α) (p : Parser true ι) (cs : List Char) : List (List Char) :=
  match _h : (w.of p).run cs with
  | none => w.entries p cs
  | some (_, rest) => w.entries p cs ++ manyEntries w p rest
termination_by cs.length
decreasing_by
  have := (w.of p).bound (by assumption)
  simp only [Bool.toNat_true] at this
  omega

theorem manySame (w : Watched ι true α) {p q : Parser true ι} {cs : List Char}
    (same : ∀ r ∈ w.manyEntries p cs, p.run r = q.run r) :
    (w.of p).many.run cs = (w.of q).many.run cs := by
  fun_induction manyEntries w p cs with
  | case1 cs none =>
    have also := (w.complete same).symm.trans none
    rw [manyStop none, manyStop also]
  | case2 cs a rest found ih =>
    rw [List.forall_mem_append] at same
    have also := (w.complete same.1).symm.trans found
    have others : (w.of p).many.run rest = some ((w.of p).manyFrom rest) := rfl
    rw [manyStep found others, manyStep also ((ih same.2).symm.trans others)]

def many (w : Watched ι true α) : Watched ι false (List α) where
  of p := (w.of p).many
  entries := w.manyEntries
  complete same := w.manySame same

def separated (w : Watched ι true α) (separator : Watched ι true β) : Watched ι false (List α) :=
  (w.andThen (separator.skipThen w).many).optional.map fun
    | none => []
    | some (first, more) => first :: more

def padded (w : Watched ι c α) : Watched ι c α where
  of p := (w.of p).padded
  entries p cs := w.entries p (skipGap cs)
  complete same := by simp only [Parser.padded, w.complete same]

variable {p : Parser true ι} {cs r : List Char}

theorem eitherEntered {w v : Watched ι c α} (entered : r ∈ (w.either v).entries p cs) :
    r ∈ w.entries p cs ∨ r ∈ v.entries p cs := by
  rcases List.mem_append.mp entered with first | second
  · exact Or.inl first
  · split at second
    · cases second
    · exact Or.inr second

theorem andThenEntered {w : Watched ι c α} {v : Watched ι d β}
    (entered : r ∈ (w.andThen v).entries p cs) :
    r ∈ w.entries p cs ∨ ∃ a rest, (w.of p).run cs = some (a, rest) ∧ r ∈ v.entries p rest := by
  rcases List.mem_append.mp entered with first | second
  · exact Or.inl first
  · split at second
    · rename_i a rest found
      exact Or.inr ⟨a, rest, found, second⟩
    · cases second

end Watched

end ElementLocator.Text
