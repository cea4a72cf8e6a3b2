import ReferenceSite.Page.Data
import ReferenceSite.Page.Render
import ReferenceSite.Template.Run

/-! Publishing of pages into a site. Nothing is written before the page is complete; then come the
copies of its images, in the order in which the page shows them, and the page itself last. What
fills in templates is a parameter. -/
namespace ReferenceSite

structure PublishSpec where
  /-- Without a document the page is empty. -/
  input : Option Path
  output : Path
  outDir : Path
  template : Option Path
deriving DecidableEq

structure PublishResult where
  output : Path
  assets : List AssetCopy
deriving DecidableEq

/-- Makes a page of a template, given by its name and its text, and of the texts that stand for the names in it,
or says why it cannot. -/
abbrev TemplateEngine := (name template : String) → (fields : List (String × String)) → Except String String

/-- Escapes nothing and makes no use of the name. -/
def TemplateEngine.standard : TemplateEngine := fun _ template fields =>
  Template.render template (fields.map fun (field,text) => (field,.str text))

def PageData.fill (d : PageData) (template : String) (name : String := "page.html")
    (e : TemplateEngine := .standard) : Except RenderFault String :=
  (e name template d.fields).mapError .template

namespace FileTree

def readDocument (t : FileTree) (p : Path) : Except RenderFault String :=
  (t.readText p).mapError (.inaccessible p)

def ensureParent (t : FileTree) (p : Path) : FileTree × Except RenderFault Unit :=
  match p.parent? with
  | none => (t,.ok ())
  | some above =>
    if above.text = "" then (t,.ok ())
    else
      let (t,made) := t.createDirectories above
      (t,made.mapError (.inaccessible above))

/-- Does one change behind another, unless the one before failed. -/
def thenDo (first : FileTree × Except RenderFault Unit)
    (next : FileTree → FileTree × Except RenderFault Unit) : FileTree × Except RenderFault Unit :=
  match first with
  | (t,.ok ()) => next t
  | failed => failed

/-- Keeps the tree if a change of it is refused, and reports the path. -/
def attempt (t : FileTree) (changed : Except FileFault FileTree) (reported : Path) :
    FileTree × Except RenderFault Unit :=
  match changed with
  | .ok t => (t,.ok ())
  | .error fault => (t,.error (.inaccessible reported fault))

def writeOutput (t : FileTree) (p : Path) (content : ByteArray) : FileTree × Except RenderFault Unit :=
  thenDo (t.ensureParent p) fun t => t.attempt (t.write p content) p

def copyAsset (t : FileTree) (a : AssetCopy) : FileTree × Except RenderFault Unit :=
  thenDo (t.ensureParent a.destination) fun t => t.attempt (t.copy a.source a.destination) a.source

def copyAssets (t : FileTree) (assets : List AssetCopy) : FileTree × Except RenderFault Unit :=
  assets.foldl (fun done a => thenDo done (·.copyAsset a)) (t,.ok ())

end FileTree

namespace PublishSpec

def page (s : PublishSpec) (base : RenderContext) (t : FileTree) (h : Highlighter := .byScope)
    (e : TemplateEngine := .standard) : Except RenderFault (String × List AssetCopy) := do
  let markdown ← match s.input with
    | some path => t.readDocument path
    | none => pure ""
  let context := { base with
    outDir := some s.outDir
    document := s.input.getD base.document }
  let rendered ← context.render t markdown h
  match s.template with
  | none => pure (rendered.html,rendered.assets)
  | some path =>
    let template ← t.readDocument path
    let data ← PageData.forOutput t rendered.html s.output
    pure (← data.fill template path.text e,rendered.assets)

def publish (s : PublishSpec) (base : RenderContext) (t : FileTree) (h : Highlighter := .byScope)
    (e : TemplateEngine := .standard) : FileTree × Except RenderFault PublishResult :=
  match s.page base t h e with
  | .error fault => (t,.error fault)
  | .ok (html,assets) =>
    let (t,done) := FileTree.thenDo (t.copyAssets assets) fun t => t.writeOutput s.output html.toUTF8
    (t,done.map fun _ => ⟨s.output,assets⟩)

end PublishSpec
end ReferenceSite
