import ElementLocator.Proofs.XPath.Tidy
import ElementLocator.XPath.Entry
/-! Every string is read back from its XPath literal, whichever quotes are in it. -/
namespace ElementLocator.XPath
open ElementLocator.Text
open ElementLocator.Text.Parser

variable {inner : Parser true Expr} {rest w : List Char}

theorem splitJoined (mark : Char) (cs : List Char) :
    ∃ p ps, split mark cs = p :: ps ∧ p ++ ps.flatMap (mark :: ·) = cs := by
  induction cs with
  | nil => exact ⟨[], [], rfl, rfl⟩
  | cons c cs ih =>
    obtain ⟨p, ps, pieces, joined⟩ := ih
    simp only [split, pieces]
    split
    · rename_i same
      exact ⟨[], p :: ps, rfl, by simp [same, joined]⟩
    · exact ⟨c :: p, ps, rfl, by simp [joined]⟩

theorem splitFree (mark : Char) (cs : List Char) : ∀ p ∈ split mark cs, ∀ c ∈ p, c ≠ mark := by
  induction cs with
  | nil => simp [split]
  | cons c cs ih =>
    obtain ⟨p, ps, pieces, _⟩ := splitJoined mark cs
    rw [pieces] at ih
    simp only [split, pieces]
    split
    · intro q hq
      rcases List.mem_cons.mp hq with rfl | hq
      · simp
      · exact ih q hq
    · rename_i other
      intro q hq
      rcases List.mem_cons.mp hq with rfl | hq
      · intro x hx
        rcases List.mem_cons.mp hx with rfl | hx
        · exact other
        · exact ih p (by simp) x hx
      · exact ih q (by simp [hq])

def doubled (p : List Char) : List Char := '"' :: (p ++ ['"'])

def morePieces (ps : List (List Char)) : List Char :=
  ps.flatMap fun p => [',', ' ', '\'', '"', '\'', ',', ' '] ++ doubled p

def moreLiterals (ps : List (List Char)) : List Expr :=
  ps.flatMap fun p => [.literal "\"", .literal (String.ofList p)]

theorem moreLiteralsCons (p : List Char) (ps : List (List Char)) :
    moreLiterals (p :: ps) = .literal "\"" :: .literal (String.ofList p) :: moreLiterals ps := rfl

def literalExpr (s : String) : Expr :=
  if s.toList.contains '"' && s.toList.contains '\'' then
    match split '"' s.toList with
    | [] => .call "concat" []
    | p :: ps => .call "concat" (.literal (String.ofList p) :: moreLiterals ps)
  else .literal s

theorem joinedPieces (p : List Char) (ps : List (List Char)) :
    (Json.joined ", '\"', "
      ((p :: ps).map fun piece => "\"" ++ String.ofList piece ++ "\"")).toList =
      doubled p ++ morePieces ps := by
  induction ps generalizing p with
  | nil => simp [Json.joined, doubled, morePieces]
  | cons q ps ih =>
    have tail := ih q
    rw [List.map_cons] at tail
    simp only [List.map_cons, Json.joined, String.toList_append, tail]
    simp [doubled, morePieces]

inductive Quoted (s : String) : List Char → Prop where
  | double (free : ∀ c ∈ s.toList, c ≠ '"') : Quoted s (doubled s.toList)
  | single (free : ∀ c ∈ s.toList, c ≠ '\'') : Quoted s ('\'' :: (s.toList ++ ['\'']))

theorem literalOfShape (s : String) :
    (literalExpr s = .literal s ∧ Quoted s (literalOf s).toList) ∨
    ∃ p ps, split '"' s.toList = p :: ps ∧
      literalExpr s = .call "concat" (.literal (String.ofList p) :: moreLiterals ps) ∧
      (literalOf s).toList = "concat".toList ++ '(' :: (doubled p ++ morePieces ps ++ [')']) := by
  unfold literalOf literalExpr
  cases double : s.toList.contains '"' with
  | false =>
    refine Or.inl ⟨by simp, ?_⟩
    have free : ∀ c ∈ s.toList, c ≠ '"' := by
      rintro c hc rfl
      rw [List.contains_iff_mem.mpr hc] at double
      cases double
    simpa [doubled] using Quoted.double free
  | true =>
    cases single : s.toList.contains '\'' with
    | false =>
      refine Or.inl ⟨by simp, ?_⟩
      have free : ∀ c ∈ s.toList, c ≠ '\'' := by
        rintro c hc rfl
        rw [List.contains_iff_mem.mpr hc] at single
        cases single
      simpa using Quoted.single free
    | true =>
      obtain ⟨p, ps, pieces, _⟩ := splitJoined '"' s.toList
      refine Or.inr ⟨p, ps, pieces, by simp [pieces], ?_⟩
      have joined := joinedPieces p ps
      simp only [Bool.not_true, Bool.false_eq_true, if_false, pieces, String.toList_append, joined]
      simp

theorem quotedRead {s : String} {text : List Char} (h : Quoted s text) (rest : List Char) :
    literal.run (text ++ rest) = some (.literal s, rest) := by
  cases h with
  | double free =>
    have := literalDouble free rest
    simpa [doubled] using this
  | single free =>
    have := literalSingle free rest
    simpa using this

theorem quotedStops {s : String} {text : List Char} {ok : Char → Bool} (h : Quoted s text)
    (double : ok '"' = false) (single : ok '\'' = false) : Stops ok (text ++ rest) := by
  cases h with
  | double => exact stopsCons double _
  | single => exact stopsCons single _

theorem quotedPath {s : String} {text : List Char} (h : Quoted s text) (closes : Closes rest) :
    (path inner).run (text ++ rest) = some (.literal s, rest) :=
  pathPrimary (quotedStops h (by decide) (by decide)) (quotedStops h (by decide) (by decide))
    (primaryLiteral (quotedStops h (by decide) (by decide)) (quotedRead h rest))
    (closesStops closes (by decide)) (closesStops closes (by decide))

theorem quotedExpression {s : String} {text : List Char} (h : Quoted s text)
    (closes : Closes rest) : (expression inner).run (text ++ rest) = some (.literal s, rest) :=
  expressionPath (quotedPath h closes) closes

theorem doubledQuoted {p : List Char} (free : ∀ c ∈ p, c ≠ '"') :
    Quoted (String.ofList p) (doubled p) := by
  have := Quoted.double (s := String.ofList p) (by simpa using free)
  simpa using this

theorem quoteQuoted : Quoted "\"" ['\'', '"', '\''] := Quoted.single (s := "\"") (by simp)

theorem argumentRead {s : String} {text : List Char} (h : Quoted s text) (closes : Closes rest) :
    ((Parser.char ',').padded.skipThen (expression inner)).run (',' :: ' ' :: (text ++ rest)) =
      some (.literal s, rest) :=
  nextArgument (quotedStops h rfl rfl) (quotedExpression h closes)

theorem morePiecesRead {ps : List (List Char)} (free : ∀ p ∈ ps, ∀ c ∈ p, c ≠ '"')
    (rest : List Char) :
    ((Parser.char ',').padded.skipThen (expression inner)).many.run
      (morePieces ps ++ ')' :: rest) = some (moreLiterals ps, ')' :: rest) := by
  induction ps with
  | nil =>
    exact manyStop (noArgument rest)
  | cons p ps ih =>
    have tail := ih fun q hq => free q (by simp [hq])
    have closes : Closes (morePieces ps ++ ')' :: rest) := by
      cases ps with
      | nil => exact closesCons (by simp) rest
      | cons q qs => exact closesCons (by simp) _
    have piece : ((Parser.char ',').padded.skipThen (expression inner)).run
        (',' :: ' ' :: (doubled p ++ (morePieces ps ++ ')' :: rest))) =
        some (.literal (String.ofList p), morePieces ps ++ ')' :: rest) :=
      argumentRead (doubledQuoted (free p (by simp))) closes
    have quote : ((Parser.char ',').padded.skipThen (expression inner)).run
        (',' :: ' ' :: (['\'', '"', '\''] ++
          ',' :: ' ' :: (doubled p ++ (morePieces ps ++ ')' :: rest)))) =
        some (.literal "\"", ',' :: ' ' :: (doubled p ++ (morePieces ps ++ ')' :: rest))) :=
      argumentRead quoteQuoted (closesCons (by simp) _)
    have shape : morePieces (p :: ps) ++ ')' :: rest =
        ',' :: ' ' :: (['\'', '"', '\''] ++
          ',' :: ' ' :: (doubled p ++ (morePieces ps ++ ')' :: rest))) := by
      simp [morePieces]
    rw [shape]
    exact manyStep quote (manyStep piece tail)

theorem concatIsName : IsName "concat".toList := by decide

theorem piecesRead (inner : Parser true Expr) {p : List Char} {ps : List (List Char)}
    (free : ∀ q ∈ p :: ps, ∀ c ∈ q, c ≠ '"') (rest : List Char) :
    (call (expression inner)).run
      ("concat".toList ++ '(' :: (doubled p ++ (morePieces ps ++ ')' :: rest))) =
      some (.call "concat" (.literal (String.ofList p) :: moreLiterals ps), skipGap rest) := by
  have first : (expression inner).run (doubled p ++ (morePieces ps ++ ')' :: rest)) =
      some (.literal (String.ofList p), morePieces ps ++ ')' :: rest) := by
    apply quotedExpression (doubledQuoted (free p (by simp)))
    cases ps with
    | nil => exact closesCons (by simp) rest
    | cons q qs => exact closesCons (by simp) _
  have more : ((Parser.char ',').padded.skipThen (expression inner)).many.run
      (morePieces ps ++ ')' :: rest) = some (moreLiterals ps, ')' :: rest) :=
    morePiecesRead (fun q hq => free q (by simp [hq])) rest
  exact callSkip concatIsName (by decide) (stopsCons (by decide) _) (separatedRead first more)

theorem literalStart {ok : Char → Bool} (other : ok '"' = false ∧ ok '\'' = false ∧ ok 'c' = false)
    (s : String) (rest : List Char) : Stops ok ((literalOf s).toList ++ rest) := by
  rcases literalOfShape s with ⟨_, quoted⟩ | ⟨p, ps, _, _, text⟩
  · exact quotedStops quoted other.1 other.2.1
  · rw [text]
    exact stopsCons other.2.2 _

theorem literalGap (s : String) (rest : List Char) :
    Stops isGap ((literalOf s).toList ++ rest) := literalStart (by decide) s rest

theorem literalOperand (inner : Parser true Expr) (s : String) (rest : List Char) :
    ∃ behind, (primary (expression inner)).run ((literalOf s).toList ++ rest) =
      some (literalExpr s, behind) ∧ (behind = rest ∨ behind = skipGap rest) := by
  rcases literalOfShape s with ⟨same, quoted⟩ | ⟨p, ps, pieces, same, text⟩
  · rw [same]
    exact ⟨rest, primaryLiteral (quotedStops quoted (by decide) (by decide))
      (quotedRead quoted rest), Or.inl rfl⟩
  · have called := piecesRead inner (pieces ▸ splitFree '"' s.toList) rest
    have shape : (literalOf s).toList ++ rest =
        "concat".toList ++ '(' :: (doubled p ++ (morePieces ps ++ ')' :: rest)) := by
      rw [text]
      simp
    rw [shape, same]
    exact ⟨skipGap rest, primaryCall concatIsName called, Or.inr rfl⟩

theorem literalOfRead (s : String) (closes : Closes rest) :
    (path (expression inner)).run ((literalOf s).toList ++ rest) = some (literalExpr s, rest) := by
  have gap : Stops isGap rest := closesStops closes (by decide)
  obtain ⟨behind, operand, ends⟩ := literalOperand inner s rest
  rw [skipGapStops gap, or_self] at ends
  rw [ends] at operand
  exact pathPrimary (literalGap s rest) (literalStart (by decide) s rest) operand
    (closesStops closes (by decide)) gap

theorem quotedTidy {k : Nat} {s : String} {text : List Char} (h : Quoted s text)
    (more : Tidy k rest) : Tidy k (text ++ rest) := by
  cases h with
  | double free => simpa [doubled] using Tidy.quoted rfl free more
  | single free => simpa using Tidy.quoted rfl free more

theorem morePiecesTidy {k : Nat} {ps : List (List Char)} (free : ∀ p ∈ ps, ∀ c ∈ p, c ≠ '"')
    (more : Tidy k rest) : Tidy k (morePieces ps ++ rest) := by
  induction ps with
  | nil => exact more
  | cons p ps ih =>
    have tail := ih fun q hq => free q (by simp [hq])
    have piece := quotedTidy (doubledQuoted (free p (by simp))) tail
    have quote := quotedTidy quoteQuoted
      (Tidy.mark rfl rfl rfl
        (Tidy.mark rfl rfl rfl piece) : Tidy k (',' :: ' ' :: _))
    have whole : Tidy k (',' :: ' ' :: _) := Tidy.mark rfl rfl rfl
      (Tidy.mark rfl rfl rfl quote)
    simpa [morePieces] using whole

theorem literalTidy {k : Nat} (s : String) (more : Tidy (k + 1) rest) :
    Tidy (k + 1) ((literalOf s).toList ++ rest) := by
  rcases literalOfShape s with ⟨_, quoted⟩ | ⟨p, ps, pieces, _, text⟩
  · exact quotedTidy quoted more
  · have free := splitFree '"' s.toList
    rw [pieces] at free
    have arguments : Tidy k (doubled p ++ (morePieces ps ++ [])) :=
      quotedTidy (doubledQuoted (free p (by simp)))
        (morePiecesTidy (fun q hq => free q (by simp [hq])) Tidy.nil)
    have call : Tidy (k + 1) ("concat".toList ++ '(' :: _) :=
      Tidy.word (List.all_eq_true.mp rfl) rfl (stopsCons rfl _)
        (Tidy.parentheses arguments more)
    rw [text]
    simpa using call

theorem literalValuesMore (ps : List (List Char)) :
    literalValues? (moreLiterals ps) = some (String.ofList (ps.flatMap ('"' :: ·))) := by
  induction ps with
  | nil => rfl
  | cons p ps ih =>
    have value (s : String) : literalValue? (.literal s) = some s := by rw [literalValue?]
    rw [moreLiteralsCons, literalValues?, literalValues?, ih, value, value]
    simp [String.ofList_append]

theorem literalValueOfLiteral (s : String) : literalValue? (literalExpr s) = some s := by
  rcases literalOfShape s with ⟨same, _⟩ | ⟨p, ps, pieces, same, _⟩
  · rw [same, literalValue?]
  · obtain ⟨_, _, split, joined⟩ := splitJoined '"' s.toList
    rw [pieces] at split
    obtain ⟨rfl, rfl⟩ := List.cons.inj split
    have value : literalValue? (.literal (String.ofList p)) = some (String.ofList p) := by
      rw [literalValue?]
    rw [same, literalValue?, if_pos rfl, literalValues?, literalValuesMore, value]
    simp [← String.ofList_append, joined]

end ElementLocator.XPath
