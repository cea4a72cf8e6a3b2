import ReferenceSite.Page.Render
import ReferenceSite.Settings.Layer
import ReferenceSite.Settings.Read
import ReferenceSite.Tables.Basic

/-! The settings of a project. They start from defaults, and each layer changes the ones it names. -/
namespace ReferenceSite
open ReferenceSite.Settings

structure Settings where
  root : Path
  links : LinkPolicy
  /-- The first and the last level whose headings get an anchor from their text. -/
  levels : Nat × Nat
  codeClass : String
  dialect : Dialect
deriving DecidableEq

namespace Settings

def standard : Settings := ⟨⟨"."⟩,.standard,(2,3),"hljs code-block",.standard⟩

def project : Group := ⟨"project","struct ProjectConfig",1⟩

def linking : Group := ⟨"links","struct LinksConfig",2⟩

def headings : Group := ⟨"headings","struct HeadingsConfig",2⟩

def highlight : Group := ⟨"highlight","struct HighlightConfig",1⟩

def tables : Group := ⟨"tables","struct TablesConfig",2⟩

def toValue (s : Settings) : Value :=
  let text (s : String) : Value := .scalar (.text s) none
  let level (n : Nat) : Value := .scalar (.integer n) none
  let group (entries : List (String × Value)) : Value := .table entries none
  group [
    ("project",group [("root",text s.root.text)]),
    ("links",group [("docs_prefix",text s.links.docsPrefix),
      ("source_base_url",text s.links.sourceBaseUrl)]),
    ("headings",group [("anchor_min_level",level s.levels.1),("anchor_max_level",level s.levels.2)]),
    ("highlight",group [("css_class",text s.codeClass)]),
    ("tables",group [("invocation_macro",text s.dialect.invocationMacro),
      ("handle_types",.list (s.dialect.handleTypes.map text) none)])]

def ofValue (v : Value) : Except Fault Settings := do
  let root ← project.setting? v 0 "root" Value.wording
  let root ← Group.required "root" root
  let docsPrefix ← linking.setting? v 0 "docs_prefix" Value.wording
  let sourceBaseUrl ← linking.setting? v 1 "source_base_url" Value.wording
  let docsPrefix ← Group.required "docs_prefix" docsPrefix
  let sourceBaseUrl ← Group.required "source_base_url" sourceBaseUrl
  let first ← headings.setting? v 0 "anchor_min_level" Value.level
  let last ← headings.setting? v 1 "anchor_max_level" Value.level
  let first ← Group.required "anchor_min_level" first
  let last ← Group.required "anchor_max_level" last
  let codeClass ← highlight.setting? v 0 "css_class" Value.wording
  let codeClass ← Group.required "css_class" codeClass
  let invocationMacro ← tables.setting? v 0 "invocation_macro" Value.wording
  let handleTypes ← tables.setting? v 1 "handle_types" Value.wordings
  let invocationMacro ← Group.required "invocation_macro" invocationMacro
  let handleTypes ← Group.required "handle_types" handleTypes
  pure ⟨⟨root⟩,⟨docsPrefix,sourceBaseUrl⟩,(first,last),codeClass,⟨invocationMacro,handleTypes⟩⟩

def load (t : FileTree) (layers : List Layer) : Except Fault Settings := do
  ofValue (← Layer.merge t standard.toValue layers)

def renderContext (s : Settings) (document : Path) : RenderContext :=
  ⟨document,s.root,none,s.links,s.levels,s.codeClass,.standard⟩

end Settings
end ReferenceSite
