import ReferenceSite.Proofs.Files.Growth
import ReferenceSite.Proofs.Page.ShownTree
import ReferenceSite.Proofs.Page.Unfinished

/-! What a page is made from. It reads its document, its template and the navigation, copies from the images,
and looks for the targets of links. Where all these paths lead to the same, the same page comes out. -/
namespace ReferenceSite
open ReferenceSite.Markdown

namespace FileTree

/-- What a path leads to, if it leads anywhere. -/
def entry? (t : FileTree) (p : Path) : Option Entry := (t.find p).toOption.map (·.2)

theorem contains_eq (t : FileTree) (p : Path) : t.contains p = (t.entry? p).isSome := by
  unfold contains entry?
  cases t.find p <;> rfl

theorem isFile_entry (t : FileTree) (p : Path) :
    t.isFile p = true ↔ ∃ content, t.entry? p = some (.file content) := by
  unfold isFile entry?
  cases t.find p with
  | error fault => simp [Except.toOption]
  | ok found =>
    obtain ⟨here,entry⟩ := found
    cases entry <;> simp [Except.toOption]

theorem readText_entry (t : FileTree) (p : Path) (text : String) : t.readText p = .ok text ↔
    ∃ content, t.entry? p = some (.file content) ∧ String.fromUTF8? content = some text := by
  unfold readText read entry?
  cases t.find p with
  | error fault => simp [bind,Except.bind,Except.toOption]
  | ok found =>
    obtain ⟨here,entry⟩ := found
    cases entry with
    | directory => simp [bind,Except.bind,Except.toOption,throw,throwThe,MonadExceptOf.throw]
    | file content =>
      simp only [bind,Except.bind,pure,Except.pure,Except.toOption,Option.map_some]
      cases known : String.fromUTF8? content <;>
        simp [known,throw,throwThe,MonadExceptOf.throw]

/-- A path leads to a file with what its place holds. -/
theorem content_of_entry (t : FileTree) (p : Path) (content : ByteArray)
    (found : t.entry? p = some (.file content)) : t.content (t.place p) = some content := by
  unfold entry? at found
  cases outcome : t.find p with
  | error fault => simp [outcome,Except.toOption] at found
  | ok result =>
    obtain ⟨here,entry⟩ := result
    simp only [outcome,Except.toOption,Option.map_some,Option.some.injEq] at found
    subst found
    obtain ⟨walked,held⟩ := (t.find_ok_iff p here _).mp outcome
    rw [← t.walk_ok p here walked,FileTree.content,held]

end FileTree

/-- These paths lead to the same in both trees. -/
def FileTree.Alike (t t' : FileTree) (paths : List Path) : Prop := ∀ p ∈ paths, t'.entry? p = t.entry? p

namespace FileTree
variable {t t' : FileTree} {paths : List Path}

theorem Alike.mono {fewer : List Path} (alike : t.Alike t' paths) (part : fewer ⊆ paths) : t.Alike t' fewer :=
  fun p member => alike p (part member)

theorem Alike.contains (alike : t.Alike t' paths) (p : Path) (member : p ∈ paths) :
    t'.contains p = t.contains p := by
  rw [contains_eq,contains_eq,alike p member]

theorem Alike.isFile (alike : t.Alike t' paths) (p : Path) (member : p ∈ paths) : t'.isFile p = t.isFile p := by
  rw [Bool.eq_iff_iff,isFile_entry,isFile_entry,alike p member]

theorem Alike.content (alike : t.Alike t' paths) (start : t'.workingDirectory = t.workingDirectory) (p : Path)
    (member : p ∈ paths) (file : t.isFile p = true) : t'.content (t.place p) = t.content (t.place p) := by
  obtain ⟨content,found⟩ := (t.isFile_entry p).mp file
  have held := t'.content_of_entry p content ((alike p member).trans found)
  rw [FileTree.place,start,← FileTree.place] at held
  rw [t.content_of_entry p content found,held]

theorem Alike.readText (alike : t.Alike t' paths) (p : Path) (member : p ∈ paths) (text : String)
    (read : t.readText p = .ok text) : t'.readText p = .ok text := by
  rw [readText_entry] at read ⊢
  rwa [alike p member]

theorem Alike.readDocument (alike : t.Alike t' paths) (p : Path) (member : p ∈ paths) (text : String)
    (read : t.readDocument p = .ok text) : t'.readDocument p = .ok text := by
  rw [readDocument_ok_iff] at read ⊢
  exact alike.readText p member text read

end FileTree

namespace RenderContext
variable (c : RenderContext) (h : Highlighter) {t t' : FileTree}

/-- What is looked for when a node of some kind is rewritten. -/
def lookups (c : RenderContext) : Kind → List Path
  | .link url _ =>
    match c.links.classify url c.addresses with
    | .repository path => [c.root.join (.ofList ((LinkPolicy.splitTarget path.toList).1.dropWhile (· = '/')))]
    | _ => []
  | .image url _ =>
    match c.links.classify url c.addresses with
    | .docs path => [c.root.join (c.links.docsFile path).text]
    | _ => []
  | _ => []

theorem rewriteKind_alike (kind : Kind) (alike : t.Alike t' (c.lookups kind)) :
    c.rewriteKind t' kind h = c.rewriteKind t kind h := by
  cases kind with
  | link url title =>
    have same : c.rewriteLink t' url = c.rewriteLink t url := by
      unfold rewriteLink
      cases kind : c.links.classify url c.addresses with
      | repository path =>
        have listed : c.lookups (.link url title) = [c.root.join
            (.ofList ((LinkPolicy.splitTarget path.toList).1.dropWhile (· = '/')))] := by simp only [lookups,kind]
        have found := alike.contains _ (listed ▸ List.mem_singleton_self _)
        simp only [LinkPolicy.checkRepositoryTarget,found]
      | docs path => rfl
      | external => rfl
    simp only [rewriteKind,same]
  | image url title =>
    have same : c.rewriteImage t' url = c.rewriteImage t url := by
      unfold rewriteImage
      cases kind : c.links.classify url c.addresses with
      | docs path =>
        have listed : c.lookups (.image url title) = [c.root.join (c.links.docsFile path).text] := by
          simp only [lookups,kind]
        have found := alike.isFile _ (listed ▸ List.mem_singleton_self _)
        simp only [found]
      | repository path => rfl
      | external => rfl
    simp only [rewriteKind,same]
  | _ => rfl

theorem demands_alike (kinds : List Kind) (alike : t.Alike t' (kinds.flatMap c.lookups)) :
    c.demands t' h kinds = c.demands t h kinds := by
  induction kinds with
  | nil => rfl
  | cons kind rest ih =>
    rw [List.flatMap_cons] at alike
    rw [demands,demands,c.rewriteKind_alike h kind (alike.mono (List.subset_append_left ..)),
      ih (alike.mono (List.subset_append_right ..))]

theorem Asks.looks {kind : Kind} {a : AssetCopy} (asks : c.Asks t kind a) : a.source ∈ c.lookups kind := by
  cases asks with
  | image kind _ _ => simp only [lookups,kind,List.mem_singleton]

end RenderContext

namespace PublishSpec
variable (s : PublishSpec) (base : RenderContext) (h : Highlighter) (e : TemplateEngine) {t t' : FileTree}

/-- The paths that a page reads, copies from or looks for. -/
def consulted (s : PublishSpec) (base : RenderContext) (t : FileTree) : List Path :=
  s.input.toList ++
    (match s.source t with
    | .ok markdown => (parse markdown).kinds.flatMap (s.context base).lookups
    | .error _ => []) ++
    match s.template with
    | some path => [path,PageData.navPath s.output]
    | none => []

theorem source_alike (alike : t.Alike t' s.input.toList) (markdown : String) (read : s.source t = .ok markdown) :
    s.source t' = .ok markdown := by
  unfold source at read ⊢
  cases input : s.input with
  | none => simpa [input] using read
  | some path =>
    simp only [input] at read ⊢
    exact alike.readDocument path (by simp [input]) markdown read

theorem finish_alike (path : Path) (template : s.template = some path)
    (alike : t.Alike t' [path,PageData.navPath s.output]) (rendered : RenderedDocument)
    (result : String × List AssetCopy) (done : s.finish t e rendered = .ok result) :
    s.finish t' e rendered = .ok result := by
  unfold finish at done ⊢
  simp only [template] at done ⊢
  obtain ⟨text,read,done⟩ := (bind_ok_iff ..).mp done
  obtain ⟨nav,found,done⟩ := (bind_ok_iff ..).mp done
  have read' := alike.readDocument path (by simp) text read
  have found' : PageData.readNav t' s.output = .ok nav := by
    have known : t'.isFile (PageData.navPath s.output) = t.isFile (PageData.navPath s.output) :=
      alike.isFile _ (by simp)
    unfold PageData.readNav at found ⊢
    simp only [known] at found ⊢
    split at found
    · rename_i file
      rw [if_pos file]
      split at found
      · rename_i text read
        rw [alike.readText _ (by simp) text read]
        exact found
      · cases found
    · rename_i other
      rw [if_neg other]
      exact found
  exact (bind_ok_iff ..).mpr ⟨text,read',(bind_ok_iff ..).mpr ⟨nav,found',done⟩⟩

theorem consulted_eq (markdown : String) (read : s.source t = .ok markdown) : s.consulted base t =
    s.input.toList ++ (parse markdown).kinds.flatMap (s.context base).lookups ++
      match s.template with
      | some path => [path,PageData.navPath s.output]
      | none => [] := by
  simp only [consulted,read]

/-- What a page is made from is found in either of two trees that are alike there. -/
theorem consulted_alike (markdown : String) (read : s.source t' = .ok markdown)
    (alike : t.Alike t' (s.consulted base t)) : t'.Alike t (s.consulted base t') := by
  have document : t'.Alike t s.input.toList := fun p member =>
    (alike p (List.mem_append_left _ (List.mem_append_left _ member))).symm
  have read' := s.source_alike document markdown read
  rw [s.consulted_eq base markdown read]
  rw [s.consulted_eq base markdown read'] at alike
  exact fun p member => (alike p member).symm

/-- Where all that a page is made from is alike, the same page is made. -/
theorem page_alike (alike : t.Alike t' (s.consulted base t)) (html : String) (assets : List AssetCopy)
    (complete : s.page base t h e = .ok (html,assets)) : s.page base t' h e = .ok (html,assets) := by
  obtain ⟨markdown,rendered,read,done,complete⟩ := (s.page_ok_iff base _ h e html assets).mp complete
  rw [s.consulted_eq base markdown read] at alike
  have document : t.Alike t' s.input.toList := alike.mono fun p member =>
    List.mem_append_left _ (List.mem_append_left _ member)
  have references : t.Alike t' ((parse markdown).kinds.flatMap (s.context base).lookups) :=
    alike.mono fun p member => List.mem_append_left _ (List.mem_append_right _ member)
  refine (s.page_ok_iff base _ h e html assets).mpr ⟨markdown,rendered,s.source_alike document markdown read,?_,?_⟩
  · rw [RenderContext.render_demands] at done ⊢
    rwa [(s.context base).demands_alike h _ references]
  · cases template : s.template with
    | none =>
      unfold finish at complete ⊢
      simpa only [template] using complete
    | some path =>
      refine s.finish_alike e path template (alike.mono ?_) rendered _ complete
      simp [template]

/-- The images that a page copies are among what it was made from. -/
theorem page_looks (html : String) (assets : List AssetCopy) (complete : s.page base t h e = .ok (html,assets)) :
    ∀ a ∈ assets, a.source ∈ s.consulted base t := by
  obtain ⟨markdown,rendered,read,done,complete⟩ := (s.page_ok_iff base _ h e html assets).mp complete
  have asked := (s.context base).render_asks t h markdown rendered done
  rw [s.finish_assets t e rendered html assets complete] at asked
  intro a member
  obtain ⟨kind,shown,asks⟩ := asked a member
  rw [s.consulted_eq base markdown read]
  exact List.mem_append_left _ (List.mem_append_right _ (List.mem_flatMap.mpr ⟨kind,shown,asks.looks⟩))

end PublishSpec
end ReferenceSite
