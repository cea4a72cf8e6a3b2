import ReferenceSite.Anchor
import ReferenceSite.Code.Highlight
import ReferenceSite.Link
import ReferenceSite.Markdown.Document
import ReferenceSite.Markdown.Html
import ReferenceSite.Page.Fault

/-! Rendering of a document. The tree of the document is rewritten node by node, in the order of the
text: links and images get the addresses of the site, code becomes the site's element, and headings
get anchors. The first node that cannot be rewritten stops the rendering. Files are only looked at;
the copies that the page needs are returned with it. How code is highlighted is a parameter. -/
namespace ReferenceSite
open ReferenceSite.Markdown

structure RenderContext where
  document : Path
  root : Path
  /-- Where the site is written. Without it no image is copied. -/
  outDir : Option Path
  links : LinkPolicy
  /-- The first and the last level whose headings get an anchor from their text. -/
  levels : Nat × Nat
  codeClass : String
  /-- Tells relative links from those that name a host. -/
  addresses : Address.Parser := .standard

structure AssetCopy where
  source : Path
  destination : Path
deriving DecidableEq

structure RenderedDocument where
  html : String
  assets : List AssetCopy
deriving DecidableEq

/-- Makes page text of code and the info string of its block, or refuses the code. -/
abbrev Highlighter := (info code : String) → Except RenderFault String

/-- Names the scope of the language and refuses no code. -/
def Highlighter.byScope : Highlighter := fun info code => .ok (Code.highlight info code)

namespace RenderContext

def standard (document root : Path) : RenderContext :=
  ⟨document,root,none,.standard,(2,3),"hljs code-block",.standard⟩

def rewriteLink (c : RenderContext) (t : FileTree) (href : String) : Except RenderFault String :=
  let kind := c.links.classify href c.addresses
  let rewritten := c.links.linkHref kind href
  match kind with
  | .repository path =>
    match LinkPolicy.checkRepositoryTarget t c.root path with
    | .ok () => .ok rewritten
    | .error target => .error (.deadLink c.document target)
  | _ => .ok rewritten

/-- Only images of the documentation are checked and copied. -/
def rewriteImage (c : RenderContext) (t : FileTree) (href : String) :
    Except RenderFault (String × List AssetCopy) :=
  let kind := c.links.classify href c.addresses
  let rewritten := c.links.imageSrc kind href
  match kind with
  | .docs path =>
    let file := c.links.docsFile path
    let source := c.root.join file.text
    if t.isFile source then
      .ok (rewritten,c.outDir.toList.map fun site => ⟨source,site.join file.text⟩)
    else .error (.deadLink c.document ("/" ++ file.text))
  | _ => .ok (rewritten,[])

def rewriteKind (c : RenderContext) (t : FileTree) (kind : Kind) (h : Highlighter := .byScope) :
    Except RenderFault (Kind × List AssetCopy) :=
  match kind with
  | .link url title => do pure (.link (← c.rewriteLink t url) title,[])
  | .image url title => do
    let (src,assets) ← c.rewriteImage t url
    pure (.image src title,assets)
  | .codeBlock info literal => do
    pure (.htmlBlock (Code.element (← h info literal) c.codeClass),[])
  | kind => pure (kind,[])

end RenderContext

namespace Markdown.Node

mutual
def takeMarker? : Node → Option (String × Node)
  | node (.text s) children =>
    (Anchor.takeExplicit? s).map fun (name,rest) => (name,node (.text rest) children)
  | node kind children =>
    (takeMarkerAll? children).map fun (name,children) => (name,node kind children)

def takeMarkerAll? : List Node → Option (String × List Node)
  | [] => none
  | n :: rest =>
    match takeMarker? n with
    | some (name,n) => some (name,n :: rest)
    | none => (takeMarkerAll? rest).map fun (name,rest) => (name,n :: rest)
end

def wording (nodes : List Node) : String :=
  "".intercalate ((preorderAll nodes).map fun n =>
    match n.kind with
    | .text s | .code s => s
    | .softBreak | .lineBreak => " "
    | _ => "")

/-- What is inside a heading, behind its anchor if it gets one. -/
def anchorHeading (levels : Nat × Nat) (level : Nat) (children : List Node) : List Node :=
  match takeMarkerAll? children with
  | some (name,children) => leaf (.htmlInline (Anchor.html name)) :: children
  | none =>
    match Anchor.implicit? (wording children) level levels.1 levels.2 with
    | some name => leaf (.htmlInline (Anchor.html name)) :: children
    | none => children

mutual
/-- The node as the site shows it, and the copies that it and what is inside it ask for. -/
def rewrite (c : RenderContext) (t : FileTree) (n : Node) (h : Highlighter := .byScope) :
    Except RenderFault (Node × List AssetCopy) :=
  match n with
  | node kind children => do
    let (kind,own) ← c.rewriteKind t kind h
    let (children,inner) ← rewriteAll c t children h
    let children := match kind with
      | .heading level => anchorHeading c.levels level children
      | _ => children
    pure (node kind children,own ++ inner)

def rewriteAll (c : RenderContext) (t : FileTree) (nodes : List Node) (h : Highlighter := .byScope) :
    Except RenderFault (List Node × List AssetCopy) :=
  match nodes with
  | [] => pure ([],[])
  | n :: rest => do
    let (n,first) ← rewrite c t n h
    let (rest,others) ← rewriteAll c t rest h
    pure (n :: rest,first ++ others)
end

end Markdown.Node

def RenderContext.render (c : RenderContext) (t : FileTree) (markdown : String)
    (h : Highlighter := .byScope) : Except RenderFault RenderedDocument := do
  let (page,assets) ← (Markdown.parse markdown).rewrite c t h
  pure ⟨page.toHtml,assets⟩

end ReferenceSite
