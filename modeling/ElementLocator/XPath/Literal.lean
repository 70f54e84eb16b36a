import ElementLocator.Json.Text
/-! String literals of XPath, which has no escapes: a value with quotes of both kinds is put
together from parts without double quotes, and the double quotes between them. -/
namespace ElementLocator.XPath

def split (mark : Char) : List Char → List (List Char)
  | [] => [[]]
  | c :: cs =>
      if c = mark then [] :: split mark cs
      else
        match split mark cs with
        | [] => [[c]]
        | piece :: pieces => (c :: piece) :: pieces

def literalOf (s : String) : String :=
  if !s.toList.contains '"' then "\"" ++ s ++ "\""
  else if !s.toList.contains '\'' then "'" ++ s ++ "'"
  else
    let parts := (split '"' s.toList).map fun piece => "\"" ++ String.ofList piece ++ "\""
    "concat(" ++ Json.joined ", '\"', " parts ++ ")"

end ElementLocator.XPath
