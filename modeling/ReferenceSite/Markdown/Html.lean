import ReferenceSite.Markdown.Escape
import ReferenceSite.Markdown.Node

/-! Documents as pages. A document is first written as fragments, in which a block asks for a line
of its own; a line end is added where the text before does not have one. -/
namespace ReferenceSite.Markdown

inductive Fragment where
  | raw (s : List Char)
  | lineStart

/-- Joins fragments; `fresh` tells that the text so far ends a line. -/
def layout (fresh : Bool) : List Fragment → List Char
  | [] => []
  | .lineStart :: rest => if fresh then layout true rest else '\n' :: layout true rest
  | .raw s :: rest => s ++ layout (if s.isEmpty then fresh else s.getLast? == some '\n') rest

namespace Node

mutual
def plain : Node → List Char
  | node kind children =>
    match kind with
    | .text s | .code s | .htmlInline s => escapeHtml s.toList ++ plainAll children
    | .softBreak | .lineBreak => ' ' :: plainAll children
    | _ => plainAll children

def plainAll : List Node → List Char
  | [] => []
  | n :: rest => plain n ++ plainAll rest
end

def tag (s : String) : Fragment := .raw s.toList

def titleAttribute (title : String) : List Char :=
  if title = "" then [] else "\" title=\"".toList ++ escapeHtml title.toList

def alignAttribute : Alignment → String
  | .unset => ""
  | .left => " align=\"left\""
  | .center => " align=\"center\""
  | .right => " align=\"right\""

/-- Where a node stands: in a tight list, right behind the head of a table, and how
the columns from here on are aligned. -/
structure Place where
  tight : Bool
  behindHead : Bool
  alignments : List Alignment

def Place.plain : Place := ⟨false,false,[]⟩

mutual
def fragments (p : Place) : Node → List Fragment
  | node kind children =>
    match kind with
    | .document => fragmentsAll .plain children
    | .blockQuote =>
      [.lineStart,tag "<blockquote>\n"] ++ fragmentsAll .plain children ++
        [.lineStart,tag "</blockquote>\n"]
    | .list start tight =>
      let (opening,closing) := match start with
        | none => ("<ul>\n","</ul>\n")
        | some 1 => ("<ol>\n","</ol>\n")
        | some n => ("<ol start=\"" ++ toString n ++ "\">\n","</ol>\n")
      [.lineStart,tag opening] ++ fragmentsAll { Place.plain with tight := tight } children ++
        [.lineStart,tag closing]
    | .item => [.lineStart,tag "<li>"] ++ fragmentsAll p children ++ [tag "</li>\n"]
    | .codeBlock _ literal =>
      [.lineStart,tag "<pre><code>",.raw (escapeHtml literal.toList),tag "</code></pre>\n"]
    | .htmlBlock literal => [.lineStart,tag literal,.lineStart]
    | .paragraph =>
      if p.tight then fragmentsAll .plain children
      else [.lineStart,tag "<p>"] ++ fragmentsAll .plain children ++ [tag "</p>\n"]
    | .heading level =>
      [.lineStart,tag ("<h" ++ toString level ++ ">")] ++ fragmentsAll .plain children ++
        [tag ("</h" ++ toString level ++ ">\n")]
    | .thematicBreak => [.lineStart,tag "<hr />\n"]
    | .table alignments =>
      [.lineStart,tag "<table>\n"] ++
        fragmentsAll { Place.plain with alignments := alignments } children ++
        (if children.length ≤ 1 then [] else [.lineStart,tag "</tbody>\n"]) ++
        [.lineStart,tag "</table>\n"]
    | .tableRow header =>
      [.lineStart,tag (if header then "<thead>\n" else if p.behindHead then "<tbody>\n" else ""),
        tag "<tr>"] ++ cellFragments header p.alignments children ++ [.lineStart,tag "</tr>"] ++
        (if header then [.lineStart,tag "</thead>"] else [])
    | .tableCell => fragmentsAll .plain children
    | .text s => [.raw (escapeHtml s.toList)]
    | .softBreak => [tag "\n"]
    | .lineBreak => [tag "<br />\n"]
    | .code s => [tag "<code>",.raw (escapeHtml s.toList),tag "</code>"]
    | .htmlInline s => [tag s]
    | .emphasis => tag "<em>" :: fragmentsAll .plain children ++ [tag "</em>"]
    | .strong => tag "<strong>" :: fragmentsAll .plain children ++ [tag "</strong>"]
    | .strikethrough => tag "<del>" :: fragmentsAll .plain children ++ [tag "</del>"]
    | .link url title =>
      [tag "<a href=\"",.raw (escapeHref url.toList),.raw (titleAttribute title),tag "\">"] ++
        fragmentsAll .plain children ++ [tag "</a>"]
    | .image url title =>
      [tag "<img src=\"",.raw (escapeHref url.toList),tag "\" alt=\"",.raw (plainAll children),
        .raw (titleAttribute title),tag "\" />"]

def fragmentsAll (p : Place) : List Node → List Fragment
  | [] => []
  | n :: rest =>
    fragments p n ++ fragmentsAll { p with behindHead := n.kind == .tableRow true } rest

def cellFragments (head : Bool) (alignments : List Alignment) : List Node → List Fragment
  | [] => []
  | n :: rest =>
    let name := if head then "th" else "td"
    [.lineStart,tag ("<" ++ name ++ alignAttribute (alignments.headD .unset) ++ ">")] ++
      fragments .plain n ++ tag ("</" ++ name ++ ">") ::
      cellFragments head (alignments.drop 1) rest
end

def toHtml (n : Node) : String := .ofList (layout true (fragments .plain n))

end Node
end ReferenceSite.Markdown
