import ReferenceSite.Page.Publish
import ReferenceSite.Proofs.Page.DeadReferences

/-! What keeps a page from being finished, and what is left of an attempt to publish it. Up to the
complete page files are only read, so whatever stops the attempt until then leaves the tree as it was. -/
namespace ReferenceSite

theorem mapError_error_iff {ε δ α : Type} (outcome : Except ε α) (told : ε → δ) (fault : δ) :
    outcome.mapError told = .error fault ↔ ∃ reason, outcome = .error reason ∧ fault = told reason := by
  cases outcome <;> simp [Except.mapError,eq_comm]

namespace FileTree

/-- Why a path cannot be read as text. -/
inductive Unreadable (t : FileTree) (p : Path) : FileFault → Prop
  | missing {reason : FileFault} : t.find p = .error reason → Unreadable t p reason
  | directory {here : Location} : t.find p = .ok (here,.directory) → Unreadable t p .isADirectory
  | notText {here : Location} {content : ByteArray} : t.find p = .ok (here,.file content) →
      String.fromUTF8? content = none → Unreadable t p .notText

theorem readText_error_iff (t : FileTree) (p : Path) (reason : FileFault) :
    t.readText p = .error reason ↔ t.Unreadable p reason := by
  unfold readText read
  constructor
  · intro failed
    cases found : t.find p with
    | error missing =>
      simp only [found,bind,Except.bind,Except.error.injEq] at failed
      exact failed ▸ .missing found
    | ok entry =>
      obtain ⟨here,entry⟩ := entry
      cases entry with
      | directory =>
        simp only [found,bind,Except.bind,throw,throwThe,MonadExceptOf.throw,Except.error.injEq] at failed
        exact failed ▸ .directory found
      | file content =>
        simp only [found,bind,Except.bind,pure,Except.pure] at failed
        cases text : String.fromUTF8? content with
        | none =>
          simp only [text,throw,throwThe,MonadExceptOf.throw,Except.error.injEq] at failed
          exact failed ▸ .notText found text
        | some s => simp [text] at failed
  · rintro (found | found | ⟨found,text⟩)
    · simp only [found,bind,Except.bind]
    · simp only [found,bind,Except.bind,throw,throwThe,MonadExceptOf.throw]
    · simp only [found,text,bind,Except.bind,pure,Except.pure,throw,throwThe,MonadExceptOf.throw]

theorem readDocument_error_iff (t : FileTree) (p : Path) (fault : RenderFault) :
    t.readDocument p = .error fault ↔ ∃ reason, t.Unreadable p reason ∧ fault = .inaccessible p reason := by
  simp only [readDocument,mapError_error_iff,readText_error_iff]

theorem readDocument_ok_iff (t : FileTree) (p : Path) (text : String) :
    t.readDocument p = .ok text ↔ t.readText p = .ok text := by
  unfold readDocument
  cases t.readText p <;> simp [Except.mapError]

/-! What writing reports: always a path of the tree. -/

def ReportsPath (done : FileTree × Except RenderFault Unit) : Prop :=
  ∀ fault, done.2 = .error fault → ∃ path reason, fault = .inaccessible path reason

theorem ensureParent_reports (t : FileTree) (p : Path) : ReportsPath (t.ensureParent p) := by
  intro fault failed
  unfold ensureParent at failed
  split at failed
  · cases failed
  · rename_i above _
    split at failed
    · cases failed
    · obtain ⟨reason,_,same⟩ := (mapError_error_iff _ _ _).mp failed
      exact ⟨above,reason,same⟩

theorem thenDo_reports (first : FileTree × Except RenderFault Unit)
    (next : FileTree → FileTree × Except RenderFault Unit) (before : ReportsPath first)
    (behind : ∀ t, ReportsPath (next t)) : ReportsPath (thenDo first next) := by
  obtain ⟨t,outcome⟩ := first
  cases outcome with
  | ok done => exact behind t
  | error fault => exact before

theorem attempt_reports (t : FileTree) (changed : Except FileFault FileTree) (reported : Path) :
    ReportsPath (t.attempt changed reported) := by
  intro fault failed
  unfold attempt at failed
  split at failed
  · cases failed
  · rename_i reason
    exact ⟨reported,reason,(Except.error.inj failed).symm⟩

theorem writeOutput_reports (t : FileTree) (p : Path) (content : ByteArray) :
    ReportsPath (t.writeOutput p content) :=
  thenDo_reports _ _ (t.ensureParent_reports p) fun t => t.attempt_reports _ p

theorem copyAsset_reports (t : FileTree) (a : AssetCopy) : ReportsPath (t.copyAsset a) :=
  thenDo_reports _ _ (t.ensureParent_reports a.destination) fun t => t.attempt_reports _ a.source

theorem copyAssets_reports (t : FileTree) (assets : List AssetCopy) :
    ReportsPath (t.copyAssets assets) := by
  have all (done : FileTree × Except RenderFault Unit) (before : ReportsPath done) :
      ReportsPath (assets.foldl (fun done a => thenDo done (·.copyAsset a)) done) := by
    induction assets generalizing done with
    | nil => exact before
    | cons a assets ih => exact ih _ (thenDo_reports _ _ before fun t => t.copyAsset_reports a)
  exact all (t,.ok ()) fun fault failed => by cases failed

end FileTree

namespace PageData

theorem readNav_error_iff (t : FileTree) (output : Path) (fault : RenderFault) :
    readNav t output = .error fault ↔ ∃ reason, t.isFile (navPath output) = true ∧
      t.Unreadable (navPath output) reason ∧ fault = .inaccessible (navPath output) reason := by
  unfold readNav
  simp only [← FileTree.readText_error_iff]
  split
  · rename_i file
    cases t.readText (navPath output) <;> simp [file,eq_comm]
  · rename_i other
    simp [other]

end PageData

namespace PublishSpec
variable (s : PublishSpec) (base : RenderContext) (t : FileTree) (h : Highlighter) (e : TemplateEngine)

/-- What a document is rendered in. -/
def context : RenderContext :=
  { base with outDir := some s.outDir, document := s.input.getD base.document }

/-- The document has this text. -/
def Reads (markdown : String) : Prop :=
  match s.input with
  | some path => t.readText path = .ok markdown
  | none => markdown = ""

/-- Keeps the template from becoming a page around this text. -/
inductive Unfilled (html : String) : RenderFault → Prop
  | template {path : Path} {reason : FileFault} : s.template = some path → t.Unreadable path reason →
      Unfilled html (.inaccessible path reason)
  | navigation {path : Path} {text : String} {reason : FileFault} : s.template = some path →
      t.readText path = .ok text → t.isFile (PageData.navPath s.output) = true →
      t.Unreadable (PageData.navPath s.output) reason →
      Unfilled html (.inaccessible (PageData.navPath s.output) reason)
  | filling {path : Path} {text : String} {nav : Option String} {fault : RenderFault} :
      s.template = some path → t.readText path = .ok text → PageData.readNav t s.output = .ok nav →
      PageData.fill ⟨html,PageData.fileNameOf s.output,nav⟩ text path.text e = .error fault → Unfilled html fault

/-- Stops an attempt to publish before its page is complete. -/
inductive Stops : RenderFault → Prop
  | input {path : Path} {reason : FileFault} : s.input = some path → t.Unreadable path reason →
      Stops (.inaccessible path reason)
  | content {markdown : String} {fault : RenderFault} : s.Reads t markdown →
      FirstIn ((s.context base).Refuses t h ·.kind) (Markdown.parse markdown).preorder fault →
      Stops fault
  | page {markdown : String} {rendered : RenderedDocument} {fault : RenderFault} :
      s.Reads t markdown → (s.context base).render t markdown h = .ok rendered →
      s.Unfilled t e rendered.html fault → Stops fault

def source : Except RenderFault String :=
  match s.input with
  | some path => t.readDocument path
  | none => pure ""

def finish (rendered : RenderedDocument) : Except RenderFault (String × List AssetCopy) :=
  match s.template with
  | none => pure (rendered.html,rendered.assets)
  | some path => do
    let template ← t.readDocument path
    let nav ← PageData.readNav t s.output
    let html ← PageData.fill ⟨rendered.html,PageData.fileNameOf s.output,nav⟩ template path.text e
    pure (html,rendered.assets)

theorem page_eq : s.page base t h e = (do
    let markdown ← s.source t
    let rendered ← (s.context base).render t markdown h
    s.finish t e rendered) := by
  obtain ⟨input,output,outDir,template⟩ := s
  cases input <;> cases template <;> simp [page,source,finish,PageData.forOutput,context]

theorem source_error_iff (fault : RenderFault) : s.source t = .error fault ↔
    ∃ path reason, s.input = some path ∧ t.Unreadable path reason ∧ fault = .inaccessible path reason := by
  unfold source
  cases s.input <;> simp [t.readDocument_error_iff,pure,Except.pure]

theorem source_ok_iff (markdown : String) : s.source t = .ok markdown ↔ s.Reads t markdown := by
  unfold source Reads
  cases s.input <;> simp [t.readDocument_ok_iff,pure,Except.pure,eq_comm]

theorem finish_error_iff (rendered : RenderedDocument) (fault : RenderFault) :
    s.finish t e rendered = .error fault ↔ s.Unfilled t e rendered.html fault := by
  unfold finish
  constructor
  · intro failed
    cases template : s.template with
    | none => simp [template,pure,Except.pure] at failed
    | some path =>
      simp only [template] at failed
      rcases (bind_error_iff ..).mp failed with unread | ⟨text,read,failed⟩
      · obtain ⟨reason,unreadable,rfl⟩ := (t.readDocument_error_iff path fault).mp unread
        exact .template template unreadable
      · have read := (t.readDocument_ok_iff path text).mp read
        rcases (bind_error_iff ..).mp failed with unread | ⟨nav,found,failed⟩
        · obtain ⟨reason,file,unreadable,rfl⟩ := (PageData.readNav_error_iff t s.output fault).mp unread
          exact .navigation template read file unreadable
        · rcases (bind_error_iff ..).mp failed with unfilled | ⟨html,_,failed⟩
          · exact .filling template read found unfilled
          · cases failed
  · intro unfilled
    cases unfilled with
    | template template unreadable =>
      have unread := (t.readDocument_error_iff _ _).mpr ⟨_,unreadable,rfl⟩
      simp only [template]
      exact (bind_error_iff ..).mpr (.inl unread)
    | navigation template read file unreadable =>
      have read := (t.readDocument_ok_iff _ _).mpr read
      have unread := (PageData.readNav_error_iff t s.output _).mpr ⟨_,file,unreadable,rfl⟩
      simp only [template]
      refine (bind_error_iff ..).mpr (.inr ⟨_,read,?_⟩)
      exact (bind_error_iff ..).mpr (.inl unread)
    | filling template read found unfilled =>
      have read := (t.readDocument_ok_iff _ _).mpr read
      simp only [template]
      refine (bind_error_iff ..).mpr (.inr ⟨_,read,?_⟩)
      refine (bind_error_iff ..).mpr (.inr ⟨_,found,?_⟩)
      exact (bind_error_iff ..).mpr (.inl unfilled)

/-- A complete page, from its document to its end. -/
theorem page_ok_iff (html : String) (assets : List AssetCopy) : s.page base t h e = .ok (html,assets) ↔
    ∃ markdown rendered, s.source t = .ok markdown ∧ (s.context base).render t markdown h = .ok rendered ∧
      s.finish t e rendered = .ok (html,assets) := by
  rw [page_eq,bind_ok_iff]
  constructor
  · rintro ⟨markdown,read,complete⟩
    obtain ⟨rendered,done,complete⟩ := (bind_ok_iff ..).mp complete
    exact ⟨markdown,rendered,read,done,complete⟩
  · rintro ⟨markdown,rendered,read,done,complete⟩
    exact ⟨markdown,read,(bind_ok_iff ..).mpr ⟨rendered,done,complete⟩⟩

theorem finish_assets (rendered : RenderedDocument) (html : String) (assets : List AssetCopy)
    (complete : s.finish t e rendered = .ok (html,assets)) : rendered.assets = assets := by
  unfold finish at complete
  split at complete
  · cases complete
    rfl
  · obtain ⟨_,_,complete⟩ := (bind_ok_iff ..).mp complete
    obtain ⟨_,_,complete⟩ := (bind_ok_iff ..).mp complete
    obtain ⟨_,_,complete⟩ := (bind_ok_iff ..).mp complete
    cases complete
    rfl

theorem page_error_iff (fault : RenderFault) :
    s.page base t h e = .error fault ↔ s.Stops base t h e fault := by
  rw [page_eq]
  constructor
  · intro failed
    rcases (bind_error_iff ..).mp failed with unread | ⟨markdown,read,failed⟩
    · obtain ⟨path,reason,input,unreadable,rfl⟩ := (s.source_error_iff t fault).mp unread
      exact .input input unreadable
    · have read := (s.source_ok_iff t markdown).mp read
      rcases (bind_error_iff ..).mp failed with refused | ⟨rendered,done,failed⟩
      · exact .content read (((s.context base).render_error_iff t h markdown fault).mp refused)
      · exact .page read done ((s.finish_error_iff t e rendered fault).mp failed)
  · intro stops
    cases stops with
    | input input unreadable =>
      have unread := (s.source_error_iff t _).mpr ⟨_,_,input,unreadable,rfl⟩
      exact (bind_error_iff ..).mpr (.inl unread)
    | content read refused =>
      have refused := ((s.context base).render_error_iff t h _ fault).mpr refused
      refine (bind_error_iff ..).mpr (.inr ⟨_,(s.source_ok_iff t _).mpr read,?_⟩)
      exact (bind_error_iff ..).mpr (.inl refused)
    | page read done unfilled =>
      refine (bind_error_iff ..).mpr (.inr ⟨_,(s.source_ok_iff t _).mpr read,?_⟩)
      refine (bind_error_iff ..).mpr (.inr ⟨_,done,?_⟩)
      exact (s.finish_error_iff t e _ fault).mpr unfilled

/-- What is done once the page is complete. -/
def write (html : String) (assets : List AssetCopy) : FileTree × Except RenderFault Unit :=
  FileTree.thenDo (t.copyAssets assets) fun t => t.writeOutput s.output html.toUTF8

theorem write_reports (html : String) (assets : List AssetCopy) :
    FileTree.ReportsPath (s.write t html assets) :=
  FileTree.thenDo_reports _ _ (t.copyAssets_reports assets) fun t => t.writeOutput_reports s.output _

theorem publish_complete (html : String) (assets : List AssetCopy)
    (complete : s.page base t h e = .ok (html,assets)) : s.publish base t h e =
      ((s.write t html assets).1,(s.write t html assets).2.map fun _ => ⟨s.output,assets⟩) := by
  unfold publish write
  rw [complete]

/-- An attempt to publish that is stopped leaves the tree as it was. One that fails otherwise has a
complete page and reports a path that could not be written. -/
theorem publish_fault_iff (t' : FileTree) (fault : RenderFault) :
    s.publish base t h e = (t',.error fault) ↔
      s.Stops base t h e fault ∧ t' = t ∨
      ∃ html assets path reason, s.page base t h e = .ok (html,assets) ∧
        fault = .inaccessible path reason ∧ s.write t html assets = (t',.error fault) := by
  constructor
  · intro failed
    cases page : s.page base t h e with
    | error stopped =>
      simp only [publish,page,Prod.mk.injEq,Except.error.injEq] at failed
      obtain ⟨rfl,rfl⟩ := failed
      exact .inl ⟨(s.page_error_iff base t h e stopped).mp page,rfl⟩
    | ok complete =>
      obtain ⟨html,assets⟩ := complete
      rw [s.publish_complete base t h e html assets page] at failed
      obtain ⟨tree,outcome⟩ := Prod.mk.inj failed
      cases written : (s.write t html assets).2 with
      | ok done => simp [written,Except.map] at outcome
      | error reported =>
        simp only [written,Except.map,Except.error.injEq] at outcome
        obtain ⟨path,reason,same⟩ := s.write_reports t html assets reported written
        refine .inr ⟨html,assets,path,reason,rfl,outcome ▸ same,?_⟩
        rw [← tree,← outcome,← written]
  · rintro (⟨stops,rfl⟩ | ⟨html,assets,path,reason,page,rfl,written⟩)
    · have page := (s.page_error_iff base t' h e fault).mpr stops
      simp only [publish,page]
    · rw [s.publish_complete base t h e html assets page,written]
      rfl

end PublishSpec
end ReferenceSite
