/-! Markdown documents as trees. A node is of one kind and holds the nodes inside it in order. -/
namespace ReferenceSite.Markdown

inductive Alignment where
  | unset
  | left
  | center
  | right
deriving DecidableEq

inductive Kind where
  | document
  | blockQuote
  /-- A list without a start has bullets. A tight list shows no paragraphs. -/
  | list (start : Option Nat) (tight : Bool)
  | item
  | codeBlock (info literal : String)
  | htmlBlock (literal : String)
  | paragraph
  | heading (level : Nat)
  | thematicBreak
  | table (alignments : List Alignment)
  | tableRow (header : Bool)
  | tableCell
  | text (literal : String)
  | softBreak
  | lineBreak
  | code (literal : String)
  | htmlInline (literal : String)
  | emphasis
  | strong
  | strikethrough
  | link (url title : String)
  | image (url title : String)
deriving DecidableEq

inductive Node where
  | node (kind : Kind) (children : List Node)

namespace Node

def kind : Node → Kind
  | node kind _ => kind

def children : Node → List Node
  | node _ children => children

def leaf (kind : Kind) : Node := node kind []

def text (literal : List Char) : Node := leaf (.text (.ofList literal))

mutual
/-- The node and everything inside it, each node ahead of what it holds. -/
def preorder : Node → List Node
  | node kind children => node kind children :: preorderAll children

def preorderAll : List Node → List Node
  | [] => []
  | n :: rest => preorder n ++ preorderAll rest
end

end Node
end ReferenceSite.Markdown
