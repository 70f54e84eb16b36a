import ElementLocator.Locator.Problem
import ElementLocator.XPath.Source
/-! Checking an XPath source: how it begins, its brackets and quotes, logical operators, and then
its grammar. The scan before the grammar only knows words, quotes and brackets. -/
namespace ElementLocator.XPath
open ElementLocator.Text

structure Scan where
  brackets : Int
  quote : Option Char
  opened : List (List Char)
  word : List Char
  operators : List Operator

def isWordPart (c : Char) : Bool :=
  isAlphanumeric c || c = '_' || c = '-' || c = '.' || c = '@' || c = ':'

def operatorOf (reversed : List Char) : List Operator :=
  if reversed = ['d', 'n', 'a'] then [.and]
  else if reversed = ['r', 'o'] then [.or]
  else []

def Scan.endWord (s : Scan) : Scan :=
  { s with word := [], operators := s.operators ++ operatorOf s.word }

def Scan.punctuation (s : Scan) (c : Char) (here : List Char) : Scan :=
  if c = '"' ∨ c = '\'' then { s with quote := some c }
  else if c = '[' then { s with brackets := s.brackets + 1, opened := here :: s.opened }
  else if c = ']' then { s with brackets := s.brackets - 1, opened := s.opened.tail }
  else s

def Scan.run (s : Scan) : List Char → Scan
  | [] => s.endWord
  | c :: cs =>
      match s.quote with
      | some mark => (if c = mark then { s with quote := none } else s).run cs
      | none =>
          if isWordPart c then { s with word := c :: s.word }.run cs
          else (s.endWord.punctuation c (c :: cs)).run cs

def scan (cs : List Char) : Scan := Scan.run ⟨0, none, [], [], []⟩ cs

def Scan.openPredicate? (s : Scan) (source : List Char) : Option (List Char) :=
  if s.quote.isSome then some (s.opened.head?.getD source) else none

def startsWithStrokes (cs : List Char) : Bool := ['/', '/'].isPrefixOf (trimStart cs)

def scanProblems (cs : List Char) : List Problem :=
  let s := scan cs
  (if startsWithStrokes cs then [] else [.noLeadingStrokes]) ++
    (if s.brackets ≠ 0 then [.openBracket] else []) ++
    (match s.openPredicate? cs with
      | some rest => [.openPredicate (String.ofList rest)]
      | none => []) ++
    s.operators.eraseDups.map .logicalOperator

def problems (source : String) : List Problem :=
  match scanProblems source.toList with
  | [] =>
      match parse source with
      | .ok _ => []
      | .error fault => [.unreadableXPath fault]
  | found => found

end ElementLocator.XPath
