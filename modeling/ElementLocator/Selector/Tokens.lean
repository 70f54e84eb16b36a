import ElementLocator.Text.Blank
import ElementLocator.Text.Letter
import ElementLocator.Selector.Fault
/-! Splitting the source of a selector into tokens. White space separates and is dropped; words and
numbers are as long as possible; the last token marks the end. -/
namespace ElementLocator.Selector
open ElementLocator.Text

def isNameStart (c : Char) : Bool := isLetter c || c = '_' || c = '$'

def isNamePart (c : Char) : Bool := isAlphanumeric c || c = '_' || c = '$'

def punctuation? (c : Char) : Option Kind :=
  if c = '.' then some .dot
  else if c = '(' then some .opening
  else if c = ')' then some .closing
  else if c = ';' then some .semicolon
  else none

def wordKind (w : List Char) : Kind :=
  if w = ['n', 'e', 'w'] then .new
  else if w = ['U', 'i', 'S', 'e', 'l', 'e', 'c', 't', 'o', 'r'] then .uiSelector
  else if sameLetters w ['t', 'r', 'u', 'e'] then .yes
  else if sameLetters w ['f', 'a', 'l', 's', 'e'] then .no
  else .name

def unescaped? (c : Char) : Option Char :=
  if c = '"' then some '"'
  else if c = '\\' then some '\\'
  else if c = 'n' then some '\n'
  else if c = 't' then some '\t'
  else none

def stringBody (start here : Nat) : List Char → Except SourceFault (List Char × Nat × List Char)
  | [] => .error (.lex .unterminatedString start)
  | '"' :: rest => .ok ([], here + 1, rest)
  | ['\\'] => .error (.lex .unterminatedString start)
  | '\\' :: c :: rest =>
      match unescaped? c with
      | none => .error (.lex (.unknownEscape c) here)
      | some meant =>
          (stringBody start (here + 1 + c.utf8Size) rest).map
            fun (value, stop, rest) => (meant :: value, stop, rest)
  | c :: rest =>
      (stringBody start (here + c.utf8Size) rest).map
        fun (value, stop, rest) => (c :: value, stop, rest)

theorem stringBodyShort {start here : Nat} {cs value rest : List Char} {stop : Nat}
    (h : stringBody start here cs = .ok (value, stop, rest)) : rest.length < cs.length := by
  fun_induction stringBody start here cs generalizing value stop rest with
  | case1 => cases h
  | case2 here rest => cases h; simp
  | case3 => cases h
  | case4 => cases h
  | case5 here c cs meant known ih =>
    cases body : stringBody start (here + 1 + c.utf8Size) cs with
    | error e => rw [body] at h; cases h
    | ok found =>
      rw [body] at h
      cases h
      have := ih body
      simp only [List.length_cons]
      omega
  | case6 here c cs _ _ _ ih =>
    cases body : stringBody start (here + c.utf8Size) cs with
    | error e => rw [body] at h; cases h
    | ok found =>
      rw [body] at h
      cases h
      have := ih body
      simp only [List.length_cons]
      omega

theorem dropWhileShort (ok : Char → Bool) (c : Char) (cs : List Char) :
    (cs.dropWhile ok).length < (c :: cs).length := by
  have := (List.dropWhile_sublist (l := cs) ok).length_le
  simp only [List.length_cons]
  omega

def tokensFrom (here : Nat) (cs : List Char) : Except SourceFault (List Token) :=
  match cs with
  | [] => .ok [⟨.ending, "", here⟩]
  | c :: cs =>
      if isBlank c then tokensFrom (here + c.utf8Size) cs
      else if c = '"' then
        match _h : stringBody here (here + 1) cs with
        | .error e => .error e
        | .ok (value, stop, rest) =>
            (tokensFrom stop rest).map (⟨.string, String.ofList value, here⟩ :: ·)
      else if isDigit c then
        let number := c :: cs.takeWhile isDigit
        (tokensFrom (here + byteLength number) (cs.dropWhile isDigit)).map
          (⟨.number, String.ofList number, here⟩ :: ·)
      else if isNameStart c then
        let word := c :: cs.takeWhile isNamePart
        (tokensFrom (here + byteLength word) (cs.dropWhile isNamePart)).map
          (⟨wordKind word, String.ofList word, here⟩ :: ·)
      else
        match punctuation? c with
        | none => .error (.lex (.unexpectedCharacter c) here)
        | some kind =>
            (tokensFrom (here + c.utf8Size) cs).map (⟨kind, String.ofList [c], here⟩ :: ·)
termination_by cs.length
decreasing_by
  · simp
  · have := stringBodyShort (by assumption)
    simp only [List.length_cons]
    omega
  · exact dropWhileShort _ _ _
  · exact dropWhileShort _ _ _
  · simp

def tokens (source : String) : Except SourceFault (List Token) := tokensFrom 0 source.toList

end ElementLocator.Selector
