import ElementLocator.Text.Blank
/-! Parsers on characters. A parser reads a first part of a text and gives a value and what is left.
Its type says whether it always consumes something; repetition asks for that, and so it ends. -/
namespace ElementLocator.Text

structure Parser (consumes : Bool) (α : Type) where
  run : List Char → Option (α × List Char)
  bound : ∀ {cs a rest}, run cs = some (a, rest) → rest.length + consumes.toNat ≤ cs.length

namespace Parser

variable {α β : Type} {c d : Bool}

def never : Parser c α where
  run _ := none
  bound h := by cases h

def one (ok : Char → Bool) : Parser true Char where
  run
    | [] => none
    | c :: cs => if ok c then some (c, cs) else none
  bound {cs a rest} h := by
    cases cs with
    | nil => cases h
    | cons c cs =>
      simp only at h
      split at h
      · cases h; simp
      · cases h

def char (c : Char) : Parser true Unit where
  run
    | [] => none
    | x :: cs => if x = c then some ((), cs) else none
  bound {cs a rest} h := by
    cases cs with
    | nil => cases h
    | cons x cs =>
      simp only at h
      split at h
      · cases h; simp
      · cases h

def afterStart : List Char → List Char → Option (List Char)
  | [], cs => some cs
  | _ :: _, [] => none
  | w :: ws, c :: cs => if c = w then afterStart ws cs else none

theorem afterStartSome {w cs rest : List Char} :
    afterStart w cs = some rest ↔ cs = w ++ rest := by
  induction w generalizing cs with
  | nil => simp [afterStart]
  | cons x w ih =>
    cases cs with
    | nil => simp [afterStart]
    | cons c cs =>
      simp only [afterStart, List.cons_append, List.cons.injEq]
      split
      · rename_i same; simp [ih, same]
      · rename_i other; simp [other]

theorem afterStartShort {first : Char} {more cs rest : List Char}
    (h : afterStart (first :: more) cs = some rest) : rest.length + 1 ≤ cs.length := by
  rw [afterStartSome.mp h, List.length_append, List.length_cons]
  omega

def word (w : String) : Parser true Unit where
  run cs :=
    match w.toList with
    | [] => none
    | first :: more => (afterStart (first :: more) cs).map (fun rest => ((), rest))
  bound {cs a rest} h := by
    split at h
    · cases h
    · obtain ⟨r, found, same⟩ := Option.map_eq_some_iff.mp h
      cases same
      exact afterStartShort found

def span1 (ok : Char → Bool) : Parser true (List Char) where
  run
    | [] => none
    | c :: cs =>
        if ok c then some (c :: cs.takeWhile ok, cs.dropWhile ok) else none
  bound {cs a rest} h := by
    cases cs with
    | nil => cases h
    | cons c cs =>
      simp only at h
      split at h
      · cases h
        have := (List.dropWhile_sublist (l := cs) ok).length_le
        simp only [List.length_cons, Bool.toNat_true]
        omega
      · cases h

def span (ok : Char → Bool) : Parser false (List Char) where
  run cs := some (cs.takeWhile ok, cs.dropWhile ok)
  bound {cs a rest} h := by
    cases h
    have := (List.dropWhile_sublist (l := cs) ok).length_le
    simpa using this

def map (f : α → β) (p : Parser c α) : Parser c β where
  run cs := (p.run cs).map (fun (a, rest) => (f a, rest))
  bound {cs b rest} h := by
    obtain ⟨⟨a, r⟩, found, same⟩ := Option.map_eq_some_iff.mp h
    cases same
    exact p.bound found

def provided (p : Parser c α) (ok : α → List Char → Bool) : Parser c α where
  run cs := (p.run cs).filter (fun (a, rest) => ok a rest)
  bound {cs a rest} h := by
    exact p.bound (Option.eq_some_of_filter_eq_some h)

def either (p q : Parser c α) : Parser c α where
  run cs := match p.run cs with
    | some found => some found
    | none => q.run cs
  bound {cs a rest} h := by
    split at h
    · rename_i found same
      cases h
      exact p.bound same
    · exact q.bound h

def andThen (p : Parser c α) (q : Parser d β) : Parser (c || d) (α × β) where
  run cs := match p.run cs with
    | none => none
    | some (a, rest) => (q.run rest).map (fun (b, last) => ((a, b), last))
  bound {cs ab last} h := by
    split at h
    · cases h
    · rename_i a rest found
      obtain ⟨⟨b, r⟩, next, same⟩ := Option.map_eq_some_iff.mp h
      cases same
      have first := p.bound found
      have second := q.bound next
      cases c <;> cases d <;> simp_all <;> omega

def thenSkip (p : Parser c α) (q : Parser d β) : Parser (c || d) α := (p.andThen q).map Prod.fst

def skipThen (p : Parser c α) (q : Parser d β) : Parser (c || d) β := (p.andThen q).map Prod.snd

def optional (p : Parser c α) : Parser false (Option α) where
  run cs := match p.run cs with
    | some (a, rest) => some (some a, rest)
    | none => some (none, cs)
  bound {cs a rest} h := by
    split at h
    · rename_i found
      cases h
      have := p.bound found
      simp only [Bool.toNat_false]
      omega
    · cases h; simp

def manyFrom (p : Parser true α) (cs : List Char) : List α × List Char :=
  match _h : p.run cs with
  | none => ([], cs)
  | some (a, rest) =>
      let (as, last) := manyFrom p rest
      (a :: as, last)
termination_by cs.length
decreasing_by
  have := p.bound (by assumption)
  simp only [Bool.toNat_true] at this
  omega

theorem manyFromShort (p : Parser true α) (cs : List Char) :
    (manyFrom p cs).2.length ≤ cs.length := by
  fun_induction manyFrom p cs with
  | case1 cs h => simp
  | case2 cs a rest h as last same ih =>
    have := p.bound h
    simp only [Bool.toNat_true] at this
    simp only [same] at ih
    simp only
    omega

def many (p : Parser true α) : Parser false (List α) where
  run cs := some (manyFrom p cs)
  bound {cs a rest} h := by
    have short := manyFromShort p cs
    rw [Option.some.inj h] at short
    simpa using short

def separated (p : Parser true α) (separator : Parser true β) : Parser false (List α) :=
  (p.andThen (separator.skipThen p).many).optional.map fun
    | none => []
    | some (first, more) => first :: more

def padded (p : Parser c α) : Parser c α where
  run cs := (p.run (skipGap cs)).map (fun (a, rest) => (a, skipGap rest))
  bound {cs a rest} h := by
    obtain ⟨⟨b, r⟩, found, same⟩ := Option.map_eq_some_iff.mp h
    cases same
    have before := skipGapShort cs
    have inside := p.bound found
    have after := skipGapShort r
    simp only at *
    omega

def whole? (p : Parser c α) (cs : List Char) : Option α :=
  match p.run cs with
  | some (a, []) => some a
  | _ => none

end Parser

end ElementLocator.Text
