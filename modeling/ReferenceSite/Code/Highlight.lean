import ReferenceSite.Code.Grammar

/-! Code as page text. The text of a block stands in one element that names the scope of its
language, so that the style sheet of the page decides how it looks. -/
namespace ReferenceSite.Code

def escape (s : List Char) : List Char :=
  s.flatMap fun c =>
    match c with
    | '&' => "&amp;".toList
    | '<' => "&lt;".toList
    | '>' => "&gt;".toList
    | '"' => "&quot;".toList
    | '\'' => "&#39;".toList
    | c => [c]

def classes (scope : String) : String :=
  " ".intercalate ((scope.toList.splitOn '.').map fun name => "hljs-" ++ .ofList name)

/-- The inside of a code element. Empty code has none. -/
def highlight (info code : String) : String :=
  if code = "" then ""
  else "<span class=\"" ++ classes (Grammar.pick info code).scope ++ "\">" ++
    .ofList (escape code.toList) ++ "</span>"

def element (highlighted cssClass : String) : String :=
  "<code class=\"" ++ cssClass ++ "\">" ++ highlighted ++ "</code>"

end ReferenceSite.Code
