import ReferenceSite.Proofs.Files.Growth
import ReferenceSite.Proofs.Page.ShownTree
import ReferenceSite.Proofs.Page.Unfinished

/-! What is in the tree once a page is published. Every image arrives as it was and nothing else
changes, if no place that is written is also read and no two writes disagree on a place. Where the
contents of the files can be told apart this is also the only way. -/
namespace ReferenceSite
open ReferenceSite.Markdown

namespace FileTree

/-! One write, together with the directories above it. -/

/-- A path is written, and nothing else changes but that directories appear. -/
structure Puts (t t' : FileTree) (p : Path) (content : ByteArray) : Prop where
  grows : Grows t t'
  file : t'.isFile p = true
  held : t'.content (t.place p) = some content
  spares : ∀ here, here ≠ t.place p → Spares t t' here

theorem Extends.puts {t middle t' : FileTree} {p : Path} {content : ByteArray}
    (extend : Extends t middle) (walked : middle.walk p = .ok (middle.place p))
    (stores : Stores middle t' (middle.place p) content) : Puts t t' p content where
  grows := extend.grows.trans stores.grows
  file := (t'.isFile_iff p).mpr ⟨_,content,stores.grows.walk p _ walked,stores.held⟩
  held := by
    rw [← extend.grows.place p,FileTree.content,stores.held]
  spares := fun here apart => by
    rw [← extend.grows.place p] at apart
    exact (extend.spares here).trans (.inl (stores.others here apart))

theorem ensureParent_extends (t : FileTree) (p : Path) : Extends t (t.ensureParent p).1 := by
  unfold ensureParent
  split
  · exact .refl t
  · split
    · exact .refl t
    · exact t.createDirectories_extends _

theorem ensureParent_present (t : FileTree) (p above : Path) (under : p.parent? = some above)
    (present : t.isDirectory (Path.ofSegments above.isAbsolute above.reversedSegments.reverse) = true) :
    t.ensureParent p = (t,.ok ()) := by
  unfold ensureParent
  simp only [under,t.createDirectories_present above present]
  split <;> rfl

theorem thenDo_ok (first : FileTree × Except RenderFault Unit)
    (next : FileTree → FileTree × Except RenderFault Unit) (t' : FileTree)
    (done : thenDo first next = (t',.ok ())) : first.2 = .ok () ∧ next first.1 = (t',.ok ()) := by
  obtain ⟨t,outcome⟩ := first
  cases outcome with
  | ok _ => exact ⟨rfl,done⟩
  | error fault => cases done

theorem attempt_ok (t t' : FileTree) (changed : Except FileFault FileTree) (reported : Path)
    (done : t.attempt changed reported = (t',.ok ())) : changed = .ok t' := by
  unfold attempt at done
  split at done
  · cases done
    rfl
  · cases done

theorem writeOutput_puts (t t' : FileTree) (p : Path) (bytes : ByteArray)
    (done : t.writeOutput p bytes = (t',.ok ())) : Puts t t' p bytes := by
  obtain ⟨_,written⟩ := thenDo_ok _ _ t' done
  obtain ⟨walked,stores⟩ := write_stores _ t' p bytes (attempt_ok _ t' _ _ written)
  exact (t.ensureParent_extends p).puts walked stores

theorem copyAsset_puts (t t' : FileTree) (a : AssetCopy) (done : t.copyAsset a = (t',.ok ())) :
    ∃ bytes, t.content (t.place a.source) = some bytes ∧
      Puts t t' a.destination (if t.place a.destination = t.place a.source then .empty else bytes) := by
  obtain ⟨_,copied⟩ := thenDo_ok _ _ t' done
  obtain ⟨bytes,held,walked,stores⟩ := copy_stores _ t' a.source a.destination (attempt_ok _ t' _ _ copied)
  have extend := t.ensureParent_extends a.destination
  have puts := extend.puts walked stores
  rw [extend.grows.place,extend.grows.place] at puts
  refine ⟨bytes,?_,puts⟩
  rw [← (extend.spares _).content,← extend.grows.place a.source,FileTree.content,held]

/-! All copies, one behind the other. -/

theorem copyAssets_cons (t t' : FileTree) (a : AssetCopy) (rest : List AssetCopy)
    (done : t.copyAssets (a :: rest) = (t',.ok ())) :
    ∃ middle, t.copyAsset a = (middle,.ok ()) ∧ middle.copyAssets rest = (t',.ok ()) := by
  have stuck (assets : List AssetCopy) (failed : FileTree) (fault : RenderFault) :
      assets.foldl (fun done a => thenDo done (·.copyAsset a)) (failed,.error fault) =
        (failed,.error fault) := by
    induction assets with
    | nil => rfl
    | cons b assets ih => exact ih
  have first : (a :: rest).foldl (fun done a => thenDo done (·.copyAsset a)) (t,.ok ()) =
      rest.foldl (fun done a => thenDo done (·.copyAsset a)) (t.copyAsset a) := rfl
  rw [copyAssets,first] at done
  obtain ⟨middle,outcome,same⟩ : ∃ middle outcome, t.copyAsset a = (middle,outcome) := ⟨_,_,rfl⟩
  rw [same] at done
  cases outcome with
  | ok _ => exact ⟨middle,same,done⟩
  | error fault =>
    rw [stuck] at done
    cases done

/-- What copies do to a tree wherever they go. -/
theorem copyAssets_grows (t t' : FileTree) (assets : List AssetCopy)
    (done : t.copyAssets assets = (t',.ok ())) :
    Grows t t' ∧ (∀ a ∈ assets, t'.isFile a.destination = true) ∧
      ∀ here, (∀ a ∈ assets, here ≠ t.place a.destination) → Spares t t' here := by
  induction assets generalizing t with
  | nil =>
    obtain rfl : t = t' := (Prod.mk.inj done).1
    exact ⟨.refl t,by simp,fun here _ => .refl t here⟩
  | cons a rest ih =>
    obtain ⟨middle,first,others⟩ := t.copyAssets_cons t' a rest done
    obtain ⟨bytes,_,puts⟩ := t.copyAsset_puts middle a first
    obtain ⟨grows,files,spares⟩ := ih middle others
    refine ⟨puts.grows.trans grows,?_,fun here apart => ?_⟩
    · exact List.forall_mem_cons.mpr ⟨grows.isFile _ puts.file,files⟩
    · have later := spares here fun b member => by
        rw [puts.grows.place]
        exact apart b (by simp [member])
      exact (puts.spares here (apart a (by simp))).trans later

/-- A place that is copied to holds what the last copy to it left. -/
theorem copyAssets_last (t t' : FileTree) (assets : List AssetCopy)
    (done : t.copyAssets assets = (t',.ok ())) (here : Location)
    (copied : ∃ a ∈ assets, t.place a.destination = here) :
    ∃ before a after middle bytes, assets = before ++ a :: after ∧ t.place a.destination = here ∧
      t.copyAssets before = (middle,.ok ()) ∧ middle.content (t.place a.source) = some bytes ∧
      t'.content here = some (if t.place a.destination = t.place a.source then .empty else bytes) := by
  induction assets generalizing t with
  | nil => simp at copied
  | cons a rest ih =>
    obtain ⟨middle,first,others⟩ := t.copyAssets_cons t' a rest done
    obtain ⟨bytes,sent,puts⟩ := t.copyAsset_puts middle a first
    obtain ⟨_,_,spares⟩ := middle.copyAssets_grows t' rest others
    by_cases again : ∃ b ∈ rest, t.place b.destination = here
    · obtain ⟨before,b,after,further,bytes',rfl,onto,made,sent',left⟩ :=
        ih middle others (by simpa only [puts.grows.place] using again)
      simp only [puts.grows.place] at onto sent' left
      refine ⟨a :: before,b,after,further,bytes',rfl,onto,?_,sent',left⟩
      rw [copyAssets,List.foldl_cons]
      simp only [thenDo,first]
      exact made
    · have last := spares here fun b member same => by
        rw [puts.grows.place] at same
        exact again ⟨b,member,same.symm⟩
      obtain ⟨b,member,onto⟩ := copied
      rcases List.mem_cons.mp member with rfl | later
      · refine ⟨[],b,rest,t,bytes,rfl,onto,rfl,sent,?_⟩
        rw [last.content,← onto,puts.held]
      · exact absurd ⟨b,later,onto⟩ again

/-- What is copied to a place from one place only arrives, if nothing is copied to where it comes from. -/
theorem copyAssets_arrives (t t' : FileTree) (assets : List AssetCopy)
    (done : t.copyAssets assets = (t',.ok ())) (here origin : Location)
    (single : ∀ a ∈ assets, t.place a.destination = here → t.place a.source = origin)
    (apart : ∀ a ∈ assets, t.place a.destination ≠ origin)
    (copied : ∃ a ∈ assets, t.place a.destination = here) : t'.content here = t.content origin := by
  obtain ⟨before,a,after,middle,bytes,rfl,onto,made,sent,left⟩ := t.copyAssets_last t' assets done here copied
  have kept := (t.copyAssets_grows middle before made).2.2 origin fun b member =>
    (apart b (by simp [member])).symm
  rw [single a (by simp) onto] at sent left
  rw [left,if_neg (apart a (by simp)),← sent,kept.content]

/-- Copies arrive as they are if none goes where one comes from. -/
theorem copyAssets_arrive (t t' : FileTree) (assets : List AssetCopy)
    (done : t.copyAssets assets = (t',.ok ()))
    (apart : ∀ a ∈ assets, ∀ b ∈ assets, t.place a.destination ≠ t.place b.source)
    (single : ∀ a ∈ assets, ∀ b ∈ assets, t.place a.destination = t.place b.destination →
      t.place a.source = t.place b.source) :
    ∀ a ∈ assets, t'.content (t.place a.destination) = t.content (t.place a.source) := by
  intro a member
  exact t.copyAssets_arrives t' assets done _ _ (fun b other same => single b other a member same)
    (fun b other => apart b other a member) ⟨a,member,rfl⟩

/-- A place that is only copied onto itself is left empty. -/
theorem copyAssets_empty (t t' : FileTree) (assets : List AssetCopy)
    (done : t.copyAssets assets = (t',.ok ())) (here : Location)
    (own : ∀ a ∈ assets, t.place a.destination = here → t.place a.source = here)
    (copied : ∃ a ∈ assets, t.place a.destination = here) : t'.content here = some .empty := by
  obtain ⟨before,a,after,middle,bytes,rfl,onto,_,_,left⟩ := t.copyAssets_last t' assets done here copied
  rw [left,if_pos (onto.trans (own a (by simp) onto).symm)]

end FileTree

/-! What is published. -/

namespace PublishSpec
variable (s : PublishSpec) (base : RenderContext) (t t' : FileTree) (h : Highlighter) (e : TemplateEngine)
  (html : String) (assets : List AssetCopy)

/-- All copies have arrived, and what the page was made from reads as before. -/
structure Faithful : Prop where
  copied : ∀ a ∈ assets, ∃ bytes, t.read a.source = .ok bytes ∧ t'.read a.destination = .ok bytes
  sources : ∀ a ∈ assets, t'.read a.source = t.read a.source
  document : ∀ path, s.input = some path → t'.read path = t.read path

/-- No place is both written and read, and no place is written in two ways. -/
structure Separate : Prop where
  copies : ∀ a ∈ assets, ∀ b ∈ assets, t.place a.destination ≠ t.place b.source
  single : ∀ a ∈ assets, ∀ b ∈ assets, t.place a.destination = t.place b.destination →
    t.place a.source = t.place b.source
  output : ∀ a ∈ assets, t.place s.output ≠ t.place a.source ∧ t.place s.output ≠ t.place a.destination
  document : ∀ path, s.input = some path → t.place s.output ≠ t.place path ∧
    ∀ a ∈ assets, t.place a.destination ≠ t.place path

/-- What is read and written can be told apart by its content, and no image is empty. -/
structure Telling : Prop where
  sources : ∀ a ∈ assets, ∀ b ∈ assets, t.read a.source = t.read b.source →
    t.place a.source = t.place b.source
  shown : ∀ a ∈ assets, t.read a.source ≠ .ok .empty
  page : ∀ a ∈ assets, t.read a.source ≠ .ok html.toUTF8
  document : ∀ path, s.input = some path → t.read path ≠ .ok html.toUTF8 ∧
    ∀ a ∈ assets, t.read a.source = t.read path → t.place a.source = t.place path

/-- What a complete page was made from. -/
theorem page_files (complete : s.page base t h e = .ok (html,assets)) :
    (∀ a ∈ assets, t.isFile a.source = true) ∧ ∀ path, s.input = some path → t.isFile path = true := by
  obtain ⟨markdown,rendered,read,done,complete⟩ := (s.page_ok_iff base t h e html assets).mp complete
  have copies := s.finish_assets t e rendered html assets complete
  have asked := (s.context base).render_asks t h markdown rendered done
  rw [copies] at asked
  refine ⟨fun a member => ?_,fun path input => ?_⟩
  · obtain ⟨_,_,asks⟩ := asked a member
    exact asks.file
  · have text := (s.source_ok_iff t markdown).mp read
    simp only [Reads,input] at text
    exact t.isFile_of_readText path markdown text

/-- What writing a page does to a tree, wherever it goes: the copies first, then the page. -/
structure Written (middle : FileTree) : Prop where
  copied : t.copyAssets assets = (middle,.ok ())
  grows : FileTree.Grows t t'
  destinations : ∀ a ∈ assets, t'.isFile a.destination = true
  output : t'.isFile s.output = true
  page : t'.content (t.place s.output) = some html.toUTF8
  kept : ∀ here, here ≠ t.place s.output → t'.content here = middle.content here
  others : ∀ here, here ≠ t.place s.output → (∀ a ∈ assets, here ≠ t.place a.destination) →
    FileTree.Spares t t' here

theorem written (done : s.write t html assets = (t',.ok ())) :
    ∃ middle, s.Written t t' html assets middle := by
  obtain ⟨outcome,wrote⟩ := FileTree.thenDo_ok _ _ t' done
  have copied : t.copyAssets assets = ((t.copyAssets assets).1,.ok ()) := Prod.ext rfl outcome
  obtain ⟨copies,files,spares⟩ := t.copyAssets_grows _ assets copied
  have puts := FileTree.writeOutput_puts _ t' s.output _ wrote
  have held := puts.held
  have others := puts.spares
  rw [copies.place] at held
  simp only [copies.place] at others
  exact ⟨_,
    { copied := copied
      grows := copies.trans puts.grows
      destinations := fun a member => puts.grows.isFile _ (files a member)
      output := puts.file
      page := held
      kept := fun here apart => (others here apart).content
      others := fun here page apart => (spares here apart).trans (others here page) }⟩

section Written
variable {s t t' html assets} {middle : FileTree}

theorem Written.read_output (written : s.Written t t' html assets middle) :
    t'.read s.output = .ok html.toUTF8 := by
  rw [t'.read_ok_iff s.output written.output,written.grows.place,written.page]

/-- What is in one place afterwards reads in one way. -/
theorem Written.read_eq (written : s.Written t t' html assets middle) (p q : Path)
    (file : t'.isFile p = true) (file' : t'.isFile q = true) (same : t.place p = t.place q) :
    t'.read p = t'.read q := by
  refine FileTree.read_eq_of_content file' file ?_
  rw [written.grows.place,written.grows.place,same]

/-- A file where nothing is written reads as before. -/
theorem Written.read_kept (written : s.Written t t' html assets middle) (p : Path)
    (file : t.isFile p = true) (page : t.place s.output ≠ t.place p)
    (copies : ∀ a ∈ assets, t.place a.destination ≠ t.place p) : t'.read p = t.read p := by
  refine FileTree.read_eq_of_content file (written.grows.isFile p file) ?_
  rw [written.grows.place]
  exact (written.others _ page.symm fun a member => (copies a member).symm).content

theorem Separate.faithful (apart : s.Separate t assets) (written : s.Written t t' html assets middle)
    (sources : ∀ a ∈ assets, t.isFile a.source = true)
    (document : ∀ path, s.input = some path → t.isFile path = true) : s.Faithful t t' assets := by
  have arrived := t.copyAssets_arrive middle assets written.copied apart.copies apart.single
  refine ⟨fun a member => ?_,fun a member => ?_,fun path input => ?_⟩
  · obtain ⟨bytes,read⟩ := t.read_of_isFile a.source (sources a member)
    have same : t'.content (t'.place a.destination) = t.content (t.place a.source) := by
      rw [written.grows.place,written.kept _ (apart.output a member).2.symm,arrived a member]
    have arrives := FileTree.read_eq_of_content (sources a member) (written.destinations a member) same
    exact ⟨bytes,read,arrives.trans read⟩
  · exact written.read_kept a.source (sources a member) (apart.output a member).1 fun b other =>
      apart.copies b other a member
  · obtain ⟨page,copies⟩ := apart.document path input
    exact written.read_kept path (document path input) page copies

theorem Faithful.arrived (faithful : s.Faithful t t' assets) (a : AssetCopy) (member : a ∈ assets) :
    t'.read a.destination = t.read a.source := by
  obtain ⟨bytes,read,read'⟩ := faithful.copied a member
  exact read'.trans read.symm

theorem Faithful.output_apart (faithful : s.Faithful t t' assets) (telling : s.Telling t html assets)
    (written : s.Written t t' html assets middle) (a : AssetCopy) (member : a ∈ assets)
    (source : t.isFile a.source = true) :
    t.place s.output ≠ t.place a.source ∧ t.place s.output ≠ t.place a.destination := by
  refine ⟨fun same => ?_,fun same => ?_⟩
  · have stays := written.grows.isFile _ source
    have read := written.read_eq s.output a.source written.output stays same
    rw [written.read_output,faithful.sources a member] at read
    exact telling.page a member read.symm
  · have arrives := written.destinations a member
    have read := written.read_eq s.output a.destination written.output arrives same
    rw [written.read_output,faithful.arrived a member] at read
    exact telling.page a member read.symm

theorem Faithful.copies_apart (faithful : s.Faithful t t' assets) (telling : s.Telling t html assets)
    (written : s.Written t t' html assets middle) (a b : AssetCopy) (member : a ∈ assets)
    (other : b ∈ assets) (source : t.isFile b.source = true) :
    t.place a.destination ≠ t.place b.source := by
  intro same
  have stays := written.grows.isFile _ source
  -- all that goes to this place comes from it, so it has been emptied
  have own : ∀ d ∈ assets, t.place d.destination = t.place b.source →
      t.place d.source = t.place b.source := by
    intro d copy same
    have read := written.read_eq d.destination b.source (written.destinations d copy) stays same
    rw [faithful.arrived d copy,faithful.sources b other] at read
    exact telling.sources d copy b other read
  have emptied := t.copyAssets_empty middle assets written.copied _ own ⟨a,member,same⟩
  have page := (faithful.output_apart telling written b other source).1
  rw [← written.kept _ page.symm,← written.grows.place] at emptied
  have read := (t'.read_ok_iff b.source stays .empty).mpr emptied
  rw [faithful.sources b other] at read
  exact telling.shown b other read

theorem Faithful.separate (faithful : s.Faithful t t' assets) (telling : s.Telling t html assets)
    (written : s.Written t t' html assets middle)
    (sources : ∀ a ∈ assets, t.isFile a.source = true)
    (document : ∀ path, s.input = some path → t.isFile path = true) : s.Separate t assets := by
  have apart : ∀ a ∈ assets, ∀ b ∈ assets, t.place a.destination ≠ t.place b.source :=
    fun a member b other => faithful.copies_apart telling written a b member other (sources b other)
  refine ⟨apart,fun a member b other same => ?_,fun a member => ?_,fun path input => ?_⟩
  · have arrives := written.destinations a member
    have read := written.read_eq _ _ arrives (written.destinations b other) same
    rw [faithful.arrived a member,faithful.arrived b other] at read
    exact telling.sources a member b other read
  · exact faithful.output_apart telling written a member (sources a member)
  · obtain ⟨told,shared⟩ := telling.document path input
    have file := written.grows.isFile path (document path input)
    refine ⟨fun same => ?_,fun a member same => ?_⟩
    · have read := written.read_eq s.output path written.output file same
      rw [written.read_output,faithful.document path input] at read
      exact told read.symm
    · have read := written.read_eq a.destination path (written.destinations a member) file same
      rw [faithful.arrived a member,faithful.document path input] at read
      exact apart a member a member (same.trans (shared a member read).symm)

end Written

theorem publish_ok_iff (result : PublishResult) : s.publish base t h e = (t',.ok result) ↔
    ∃ html, s.page base t h e = .ok (html,result.assets) ∧ s.write t html result.assets = (t',.ok ()) ∧
      result.output = s.output := by
  cases page : s.page base t h e with
  | error stopped => simp [publish,page]
  | ok complete =>
    obtain ⟨html,assets⟩ := complete
    rw [s.publish_complete base t h e html assets page]
    obtain ⟨output,copies⟩ := result
    constructor
    · intro published
      obtain ⟨tree,outcome⟩ := Prod.mk.inj published
      cases done : (s.write t html assets).2 with
      | error reported => simp [done,Except.map] at outcome
      | ok _ =>
        simp only [done,Except.map,Except.ok.injEq,PublishResult.mk.injEq] at outcome
        obtain ⟨rfl,rfl⟩ := outcome
        exact ⟨html,rfl,Prod.ext tree done,rfl⟩
    · rintro ⟨html',same,done,rfl⟩
      cases same
      rw [done]
      rfl

theorem publish_ok (result : PublishResult) (published : s.publish base t h e = (t',.ok result)) :
    ∃ html, s.page base t h e = .ok (html,result.assets) ∧
      s.write t html result.assets = (t',.ok ()) := by
  obtain ⟨html,page,done,_⟩ := (s.publish_ok_iff base t t' h e result).mp published
  exact ⟨html,page,done⟩

/-- A page is published as it is, and nothing changes elsewhere. Its images arrive and what it was
made from is kept, if no place is written that is also read and no two writes disagree on a place.
Where the files can be told apart there is no other way. -/
theorem publish_faithful (result : PublishResult)
    (published : s.publish base t h e = (t',.ok result)) :
    ∃ html, s.page base t h e = .ok (html,result.assets) ∧ t'.read s.output = .ok html.toUTF8 ∧
      (∀ here, here ≠ t.place s.output → (∀ a ∈ result.assets, here ≠ t.place a.destination) →
        FileTree.Spares t t' here) ∧
      (s.Separate t result.assets → s.Faithful t t' result.assets) ∧
      (s.Telling t html result.assets → s.Faithful t t' result.assets →
        s.Separate t result.assets) := by
  obtain ⟨html,complete,done⟩ := s.publish_ok base t t' h e result published
  obtain ⟨_,written⟩ := s.written t t' html result.assets done
  obtain ⟨sources,document⟩ := s.page_files base t h e html result.assets complete
  refine ⟨html,complete,written.read_output,written.others,fun apart => ?_,fun telling faithful => ?_⟩
  · exact apart.faithful written sources document
  · exact faithful.separate telling written sources document

end PublishSpec

/-! A page with an image, published beside its documentation or into it. -/

/-- The image has been published once before, when it was empty. -/
def pictured : FileTree :=
  ⟨[],[(["p"],.directory),(["p","docs"],.directory),(["p","docs","a.md"],.file "![](i)".toUTF8),
    (["p","docs","i"],.file ⟨#[105]⟩),(["s"],.directory),(["s","docs"],.directory),
    (["s","docs","i"],.file .empty)]⟩

def picture (site : String) : PublishSpec :=
  ⟨some ⟨"p/docs/a.md"⟩,(Path.mk site).join "a.html",⟨site⟩,none⟩

def pictureCopy (site : String) : AssetCopy := ⟨⟨"p/docs/i"⟩,(Path.mk site).join "docs/i"⟩

def pictureHtml : String := "<p><img src=\"/docs/i\" alt=\"\" /></p>\n"

private theorem picture_page (site : String) :
    (picture site).page standing pictured = .ok (pictureHtml,[pictureCopy site]) := by
  have text : pictured.readText ⟨"p/docs/a.md"⟩ = .ok "![](i)" := by
    have bytes : pictured.read ⟨"p/docs/a.md"⟩ = .ok "![](i)".toUTF8 := rfl
    unfold FileTree.readText
    rw [bytes]
    simp only [bind,Except.bind]
    decide
  have shapes : blocks "![](i)".toList =
      ([],[.block (.paragraph false) "![](i)\n".toList false []]) := by with_unfolding_all rfl
  have inside : inlines [] "![](i)\n".toList = [.leaf (.image "i" "")] := by with_unfolding_all rfl
  have image : ((picture site).context standing).rewriteImage pictured "i" =
      .ok ("/docs/i",[pictureCopy site]) := by
    have kind : standing.links.classify "i" standing.addresses = .docs "i" := by with_unfolding_all rfl
    have docs : standing.links.docsFile "i" = ⟨"docs/i"⟩ := by decide
    have joined : standing.root.join "docs/i" = ⟨"p/docs/i"⟩ := by decide
    have file : pictured.isFile ⟨"p/docs/i"⟩ = true := by decide
    unfold RenderContext.rewriteImage
    simp only [PublishSpec.context,kind,docs,joined,file,if_true]
    rfl
  have page : Node.toHtml (.node .document [.node .paragraph [.node (.image "/docs/i" "") []]]) =
      pictureHtml := by decide
  have rendered : ((picture site).context standing).render pictured "![](i)" =
      .ok ⟨pictureHtml,[pictureCopy site]⟩ := by
    rw [RenderContext.render,Markdown.parse,shapes]
    simp only [Block.toNodes,Block.toNode,inside,Markdown.Node.rewrite,Markdown.Node.rewriteAll,
      Markdown.Node.leaf,RenderContext.rewriteKind,image,bind,Except.bind,pure,Except.pure,page,
      List.append_nil,List.nil_append]
  have source : (picture site).source pictured = .ok "![](i)" :=
    (pictured.readDocument_ok_iff _ _).mpr text
  rw [PublishSpec.page_eq,source]
  simp only [bind,Except.bind,rendered]
  rfl

/-- What is in the tree once the page is published, if the image is left like this. -/
def picturedAfter (site : String) (image : ByteArray) : FileTree :=
  (pictured.put [site,"docs","i"] (.file image)).put [site,"a.html"] (.file pictureHtml.toUTF8)

private theorem picture_published (site : String) (image : ByteArray)
    (reached : site = "s" ∧ image = ⟨#[105]⟩ ∨ site = "p" ∧ image = .empty) :
    (picture site).publish standing pictured =
      (picturedAfter site image,.ok ⟨(Path.mk site).join "a.html",[pictureCopy site]⟩) := by
  have copied : pictured.copyAssets [pictureCopy site] =
      (pictured.put [site,"docs","i"] (.file image),.ok ()) := by
    have settled : pictured.ensureParent (pictureCopy site).destination = (pictured,.ok ()) := by
      rcases reached with ⟨rfl,rfl⟩ | ⟨rfl,rfl⟩
      · exact pictured.ensureParent_present _ ⟨"s/docs"⟩ (by decide) (by decide)
      · exact pictured.ensureParent_present _ ⟨"p/docs"⟩ (by decide) (by decide)
    show pictured.copyAsset (pictureCopy site) = _
    unfold FileTree.copyAsset
    rw [settled]
    rcases reached with ⟨rfl,rfl⟩ | ⟨rfl,rfl⟩ <;> rfl
  have wrote : (pictured.put [site,"docs","i"] (.file image)).writeOutput (picture site).output
      pictureHtml.toUTF8 = (picturedAfter site image,.ok ()) := by
    have settled : (pictured.put [site,"docs","i"] (.file image)).ensureParent (picture site).output =
        (pictured.put [site,"docs","i"] (.file image),.ok ()) := by
      rcases reached with ⟨rfl,rfl⟩ | ⟨rfl,rfl⟩
      · exact FileTree.ensureParent_present _ _ ⟨"s"⟩ (by decide) (by decide)
      · exact FileTree.ensureParent_present _ _ ⟨"p"⟩ (by decide) (by decide)
    unfold FileTree.writeOutput
    rw [settled]
    rcases reached with ⟨rfl,rfl⟩ | ⟨rfl,rfl⟩ <;> rfl
  rw [PublishSpec.publish_complete _ _ _ _ _ _ _ (picture_page site),PublishSpec.write,copied]
  simp only [FileTree.thenDo,wrote]
  rfl

private theorem picture_separate : (picture "s").Separate pictured [pictureCopy "s"] where
  copies := by decide
  single := by decide
  output := by decide
  document := fun path input => by
    obtain rfl := Option.some.inj input
    decide

private theorem picture_telling : (picture "p").Telling pictured pictureHtml [pictureCopy "p"] where
  sources := by decide
  shown := by decide
  page := by decide
  document := fun path input => by
    obtain rfl := Option.some.inj input
    decide

/-- Beside its documentation the page is published with its image, into it it is not. -/
theorem picture_arrives :
    (∃ t', (picture "s").publish standing pictured = (t',.ok ⟨⟨"s/a.html"⟩,[pictureCopy "s"]⟩) ∧
      (picture "s").Faithful pictured t' [pictureCopy "s"]) ∧
    ∃ t', (picture "p").publish standing pictured = (t',.ok ⟨⟨"p/a.html"⟩,[pictureCopy "p"]⟩) ∧
      ¬ (picture "p").Faithful pictured t' [pictureCopy "p"] := by
  have beside := picture_published "s" ⟨#[105]⟩ (.inl ⟨rfl,rfl⟩)
  have into := picture_published "p" .empty (.inr ⟨rfl,rfl⟩)
  obtain ⟨_,_,_,_,faithful,_⟩ := PublishSpec.publish_faithful _ _ _ _ _ _ _ beside
  obtain ⟨html,complete,_,_,_,separate⟩ := PublishSpec.publish_faithful _ _ _ _ _ _ _ into
  rw [picture_page "p"] at complete
  obtain rfl := (Prod.mk.inj (Except.ok.inj complete)).1
  refine ⟨⟨_,beside,faithful picture_separate⟩,_,into,fun kept => ?_⟩
  have apart := (separate picture_telling kept).copies (pictureCopy "p") (List.mem_singleton_self _)
    (pictureCopy "p") (List.mem_singleton_self _)
  exact apart (by decide)

/-- Published into its own documentation, a page loses its image. -/
theorem picture_emptied :
    ∃ t', (picture "p").publish standing pictured = (t',.ok ⟨⟨"p/a.html"⟩,[⟨⟨"p/docs/i"⟩,⟨"p/docs/i"⟩⟩]⟩) ∧
      pictured.read ⟨"p/docs/i"⟩ = .ok ⟨#[105]⟩ ∧ t'.read ⟨"p/docs/i"⟩ = .ok .empty :=
  ⟨_,picture_published "p" .empty (.inr ⟨rfl,rfl⟩),rfl,rfl⟩

end ReferenceSite
