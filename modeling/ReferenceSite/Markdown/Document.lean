import ReferenceSite.Markdown.Block
import ReferenceSite.Markdown.Inline

/-! Documents from text: the block structure with the inline structure of its texts. -/
namespace ReferenceSite.Markdown

def infoOf (line : List Char) : String :=
  .ofList (unescapeBackslashes (trimSpace (unescapeEntities line)))

mutual
def Block.toNode (references : References) : Block → Node
  | block shape text _ children =>
    match shape with
    | .document => .node .document (Block.toNodes references children)
    | .quote => .node .blockQuote (Block.toNodes references children)
    | .list start _ => .node (.list start (Block.isTight children)) (Block.toNodes references children)
    | .item .. => .node .item (Block.toNodes references children)
    | .paragraph _ => .node .paragraph (inlines references text)
    | .heading level => .node (.heading level) (inlines references text)
    | .fenced .. =>
      .leaf (.codeBlock (infoOf (text.takeWhile (· ≠ '\n')))
        (.ofList ((text.dropWhile (· ≠ '\n')).drop 1)))
    | .indented => .leaf (.codeBlock "" (.ofList text))
    | .raw _ => .leaf (.htmlBlock (.ofList text))
    | .rule => .leaf .thematicBreak
    | .table alignments => .node (.table alignments) (Block.toNodes references children)
    | .row header => .node (.tableRow header) (Block.toNodes references children)
    | .cell => .node .tableCell (inlines references text)

def Block.toNodes (references : References) : List Block → List Node
  | [] => []
  | b :: rest => Block.toNode references b :: Block.toNodes references rest
end

def parse (text : String) : Node :=
  let (references,children) := blocks text.toList
  .node .document (Block.toNodes references children)

end ReferenceSite.Markdown
