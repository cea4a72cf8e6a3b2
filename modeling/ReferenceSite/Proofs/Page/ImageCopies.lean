import ReferenceSite.Page.Render
import ReferenceSite.Proofs.Files.Lexical
import ReferenceSite.Proofs.Text.Lines

/-! Which files a page copies into the site. Every image of the documentation asks for one copy, in
the order of the document, and nothing else does. Where the site is written decides where the copies
go and nothing else. -/
namespace ReferenceSite
open ReferenceSite.Markdown ReferenceSite.Text

def RenderContext.docsImage? (c : RenderContext) : Kind → Option String
  | .image url _ =>
    match c.links.classify url c.addresses with
    | .docs path => some path
    | _ => none
  | _ => none

def Markdown.Node.docsImages (c : RenderContext) (n : Node) : List String :=
  n.preorder.filterMap (c.docsImage? ·.kind)

namespace RenderContext

def publishedTo (c : RenderContext) (site : Option Path) : RenderContext := { c with outDir := site }

def copies (c : RenderContext) (path : String) : List AssetCopy :=
  c.outDir.toList.map fun site =>
    ⟨c.root.join (c.links.docsFile path).text,site.join (c.links.docsFile path).text⟩

theorem rewriteImage_publishedTo (c : RenderContext) (t : FileTree) (site : Option Path)
    (url title : String) :
    (c.publishedTo site).rewriteImage t url = (c.rewriteImage t url).map fun result =>
      (result.1,(c.docsImage? (.image url title)).toList.flatMap (c.publishedTo site).copies) := by
  unfold rewriteImage docsImage?
  simp only [publishedTo]
  cases kind : c.links.classify url c.addresses with
  | docs path =>
    by_cases there : t.isFile (c.root.join (c.links.docsFile path).text) <;>
      simp [there,Except.map,copies]
  | repository path => simp [Except.map]
  | external => simp [Except.map]

theorem rewriteKind_publishedTo (c : RenderContext) (t : FileTree) (site : Option Path) (kind : Kind)
    (h : Highlighter) :
    (c.publishedTo site).rewriteKind t kind h = (c.rewriteKind t kind h).map fun result =>
      (result.1,(c.docsImage? kind).toList.flatMap (c.publishedTo site).copies) := by
  cases kind with
  | image url title =>
    have image := rewriteImage_publishedTo c t site url title
    simp only [rewriteKind,image]
    cases c.rewriteImage t url <;> rfl
  | link url title =>
    have same : (c.publishedTo site).rewriteLink t url = c.rewriteLink t url := by
      simp only [rewriteLink,publishedTo]
    simp only [rewriteKind,same]
    cases c.rewriteLink t url <;> rfl
  | codeBlock info literal =>
    simp only [rewriteKind]
    cases h info literal <;> rfl
  | _ => rfl

end RenderContext

namespace Markdown.Node

mutual
theorem rewrite_publishedTo (c : RenderContext) (t : FileTree) (site : Option Path) (n : Node)
    (h : Highlighter) :
    rewrite (c.publishedTo site) t n h = (rewrite c t n h).map fun result =>
      (result.1,(n.preorder.filterMap (c.docsImage? ·.kind)).flatMap
        (c.publishedTo site).copies) := by
  obtain ⟨kind,children⟩ := n
  have inside := rewriteAll_publishedTo c t site children h
  have own := c.rewriteKind_publishedTo t site kind h
  simp only [rewrite,own,inside]
  cases c.rewriteKind t kind h with
  | error fault => rfl
  | ok first =>
    cases rewriteAll c t children h with
    | error fault => rfl
    | ok second =>
      cases image : c.docsImage? kind <;>
        simp [Except.map,bind,Except.bind,pure,Except.pure,preorder,
          Node.kind,image,RenderContext.publishedTo]

theorem rewriteAll_publishedTo (c : RenderContext) (t : FileTree) (site : Option Path)
    (nodes : List Node) (h : Highlighter) :
    rewriteAll (c.publishedTo site) t nodes h = (rewriteAll c t nodes h).map fun result =>
      (result.1,((preorderAll nodes).filterMap (c.docsImage? ·.kind)).flatMap
        (c.publishedTo site).copies) := by
  cases nodes with
  | nil => rfl
  | cons n rest =>
    have first := rewrite_publishedTo c t site n h
    have others := rewriteAll_publishedTo c t site rest h
    simp only [rewriteAll,first,others]
    cases rewrite c t n h with
    | error fault => rfl
    | ok head =>
      cases rewriteAll c t rest h with
      | error fault => rfl
      | ok tail =>
        simp [Except.map,bind,Except.bind,pure,Except.pure,preorderAll]
end

end Markdown.Node

namespace RenderContext

/-- Where a page is published changes its copies, one for each image of the documentation, and
neither its text nor whether it is rendered. -/
theorem render_publishedTo (c : RenderContext) (t : FileTree) (site : Option Path) (markdown : String)
    (h : Highlighter) :
    (c.publishedTo site).render t markdown h = (c.render t markdown h).map fun page =>
      ⟨page.html,((Markdown.parse markdown).docsImages c).flatMap (c.publishedTo site).copies⟩ := by
  simp only [render,Markdown.Node.rewrite_publishedTo c t site (Markdown.parse markdown) h]
  cases (Markdown.parse markdown).rewrite c t h <;>
    simp only [Except.map,bind,Except.bind,pure,Except.pure,Markdown.Node.docsImages]

theorem render_published_isOk (c : RenderContext) (t : FileTree) (site : Option Path)
    (markdown : String) (h : Highlighter) :
    ((c.publishedTo site).render t markdown h).isOk = (c.render t markdown h).isOk := by
  rw [render_publishedTo c t site markdown h]
  cases c.render t markdown h <;> simp only [Except.map,Except.isOk,Except.toBool]

theorem mem_assets (c : RenderContext) (t : FileTree) (h : Highlighter) (site : Path) (markdown : String)
    (page : RenderedDocument) (rendered : (c.publishedTo (some site)).render t markdown h = .ok page)
    (copy : AssetCopy) :
    copy ∈ page.assets ↔ ∃ path ∈ (Markdown.parse markdown).docsImages c,
      copy = ⟨c.root.join (c.links.docsFile path).text,site.join (c.links.docsFile path).text⟩ := by
  rw [render_publishedTo c t _ markdown h] at rendered
  generalize (Markdown.parse markdown).docsImages c = images at rendered ⊢
  cases result : c.render t markdown h with
  | error fault => simp [result,Except.map] at rendered
  | ok unpublished =>
    simp only [result,Except.map,Except.ok.injEq] at rendered
    subst rendered
    simp [copies,publishedTo]

end RenderContext

/-! The file of an image, and the directory of the documentation that it is looked up in. -/

theorem LinkPolicy.docsFile_eq (p : LinkPolicy) (d path : String) (docs : p.docsPrefix = "/" ++ d ++ "/")
    (opened : d.toList.head? ≠ some '/') (closed : d.toList.getLast? ≠ some '/') :
    p.docsFile path = (Path.mk d).join (.ofList (splitTarget path.toList).1) := by
  have ahead : p.docsPrefix.toList = '/' :: (d.toList ++ ['/']) := by simp [docs]
  have back : d.toList.reverse.dropWhile (· = '/') = d.toList.reverse := by
    refine dropWhile_kept _ _ fun c last => ?_
    rw [List.head?_reverse] at last
    simpa using fun slash : c = '/' => closed (slash ▸ last)
  have front : dropWhileEnd (· = '/') ((d.toList ++ ['/']).dropWhile (· = '/')) = d.toList := by
    cases empty : d.toList with
    | nil => rfl
    | cons c cs =>
      have inner : c ≠ '/' := fun slash => opened (by simp [empty,slash])
      rw [List.cons_append,List.dropWhile_cons_of_neg (by simpa using inner),← List.cons_append,← empty]
      simp [dropWhileEnd,back]
  simp only [docsFile,ahead]
  rw [List.dropWhile_cons_of_pos (by simp),front,String.ofList_toList]

/-- Copies stay inside the directories of the documentation, wherever the site is written, exactly if
every image names a file below that directory without a way around it. -/
theorem RenderContext.copies_inside_iff (c : RenderContext) (t : FileTree) (h : Highlighter)
    (markdown d : String) (docs : c.links.docsPrefix = "/" ++ d ++ "/")
    (opened : d.toList.head? ≠ some '/') (closed : d.toList.getLast? ≠ some '/') :
    (∀ site page, (c.publishedTo (some site)).render t markdown h = .ok page →
      ∀ copy ∈ page.assets, copy.source.Within (c.root.join d) ∧
        copy.destination.Within (site.join d)) ↔
    ((c.render t markdown h).isOk = true →
      ∀ path ∈ (Markdown.parse markdown).docsImages c,
        ((Path.mk d).join (.ofList (LinkPolicy.splitTarget path.toList).1)).Descends ⟨d⟩) := by
  have relative : (Path.mk d).isAbsolute = false := by simpa [Path.isAbsolute] using opened
  have file (path : String) := c.links.docsFile_eq d path docs opened closed
  constructor
  · intro stays rendered path shown
    rw [← Path.within_iff_descends _ d relative,← file]
    intro site
    rw [← c.render_published_isOk t (some site) markdown h] at rendered
    cases published : (c.publishedTo (some site)).render t markdown h with
    | error fault => simp [published,Except.isOk,Except.toBool] at rendered
    | ok page =>
      have copied := (c.mem_assets t h site markdown page published _).mpr ⟨path,shown,rfl⟩
      obtain ⟨_,below⟩ := stays site page published _ copied
      dsimp only at below
      exact below
  · intro descends site page published copy copied
    have rendered : (c.render t markdown h).isOk = true := by
      rw [← c.render_published_isOk t (some site) markdown h,published]
      rfl
    obtain ⟨path,shown,rfl⟩ := (c.mem_assets t h site markdown page published copy).mp copied
    have inside := Path.within_of_descends _ d relative (descends rendered path shown)
    rw [← file] at inside
    dsimp only
    exact ⟨inside c.root,inside site⟩

/-! A page in the documentation of a project, and a file beside the project. -/

def project : RenderContext := .standard ⟨"p/docs/a.md"⟩ ⟨"p"⟩

def besides : FileTree :=
  ⟨[],[(["p"],.directory),(["p","docs"],.directory),(["o"],.file .empty)]⟩

def climbing : String := "![](./../../o)"

theorem climbing_inside_iff :
    project.links.docsPrefix = "/" ++ "docs" ++ "/" ∧
    ((∀ site page, (project.publishedTo (some site)).render besides climbing = .ok page →
      ∀ copy ∈ page.assets, copy.source.Within (project.root.join "docs") ∧
        copy.destination.Within (site.join "docs")) ↔
    ((project.render besides climbing).isOk = true →
      ∀ path ∈ (Markdown.parse climbing).docsImages project,
        ((Path.mk "docs").join (.ofList (LinkPolicy.splitTarget path.toList).1)).Descends ⟨"docs"⟩)) :=
  ⟨by decide,RenderContext.copies_inside_iff project besides .byScope climbing "docs" (by decide)
    (by decide) (by decide)⟩

private theorem parse_climbing : Markdown.parse climbing =
    .node .document [.node .paragraph [.leaf (.image "./../../o" "")]] := by
  have shapes : blocks climbing.toList =
      ([],[.block (.paragraph false) "![](./../../o)\n".toList false []]) := by with_unfolding_all rfl
  have inside : inlines [] "![](./../../o)\n".toList = [.leaf (.image "./../../o" "")] := by with_unfolding_all rfl
  rw [Markdown.parse,shapes]
  simp only [Block.toNodes,Block.toNode,inside]

private theorem classify_climbing :
    project.links.classify "./../../o" project.addresses = .docs "../../o" := by with_unfolding_all rfl

private theorem rewrite_climbing : (Markdown.parse climbing).rewrite project besides =
    .ok (.node .document [.node .paragraph [.leaf (.image "/docs/../../o" "")]],[]) := by
  have image : project.rewriteImage besides "./../../o" = .ok ("/docs/../../o",[]) := by
    unfold RenderContext.rewriteImage
    simp only [classify_climbing]
    decide
  rw [parse_climbing]
  simp only [Markdown.Node.rewrite,Markdown.Node.rewriteAll,Markdown.Node.leaf,
    RenderContext.rewriteKind,image]
  rfl

/-- The file beside the project is read, and written beside the site. -/
theorem climbing_copied :
    ∃ page, (project.publishedTo (some ⟨"p/site"⟩)).render besides climbing = .ok page ∧
      ∃ copy ∈ page.assets, ¬ copy.source.Within (project.root.join "docs") ∧
        ¬ copy.destination.Within ((Path.mk "p/site").join "docs") := by
  have shown : (Markdown.parse climbing).docsImages project = ["../../o"] := by
    rw [parse_climbing]
    simp [Markdown.Node.docsImages,Markdown.Node.preorder,Markdown.Node.preorderAll,
      Markdown.Node.leaf,Markdown.Node.kind,RenderContext.docsImage?,classify_climbing]
  have rendered := project.render_publishedTo besides (some ⟨"p/site"⟩) climbing .byScope
  simp only [RenderContext.render,rewrite_climbing,bind,Except.bind,pure,Except.pure,Except.map]
    at rendered
  have copied := (project.mem_assets besides .byScope ⟨"p/site"⟩ climbing _ rendered
    ⟨⟨"p/docs/../../o"⟩,⟨"p/site/docs/../../o"⟩⟩).mpr ⟨"../../o",by simp [shown],by decide⟩
  exact ⟨_,rendered,_,copied,by decide,by decide⟩

end ReferenceSite
