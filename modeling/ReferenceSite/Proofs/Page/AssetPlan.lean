import ReferenceSite.Proofs.Link.Target
import ReferenceSite.Proofs.Page.ImageCopies
import ReferenceSite.Proofs.Page.ShownTree

/-! The copies that a page asks for, one for each image of the documentation. The file that is copied is the one
that the image is published under, behind the slash of the site, unless the address of the documentation itself
holds a mark of a query or a fragment. -/
namespace ReferenceSite
open ReferenceSite.Text ReferenceSite.Markdown

namespace Path

/-- A relative path is found again behind what it is joined to. -/
theorem join_inj (base : Path) (a b : String) (relative : (Path.mk a).isAbsolute = false)
    (relative' : (Path.mk b).isAbsolute = false) : base.join a = base.join b ↔ a = b := by
  refine ⟨fun same => ?_,fun same => same ▸ rfl⟩
  simp only [join,relative,relative',Bool.false_eq_true,false_or] at same
  split at same
  · exact (Path.mk.inj same)
  · split at same
    · simpa [← String.toList_inj] using same
    · simpa [← String.toList_inj] using same

theorem relative_append (d rest : String) (nonempty : d ≠ "") (opened : d.toList.head? ≠ some '/') :
    (Path.mk (d ++ rest)).isAbsolute = false := by
  obtain ⟨c,cs,first⟩ := List.exists_cons_of_ne_nil (mt String.toList_eq_nil_iff.mp nonempty)
  simpa [isAbsolute,first] using opened

end Path

namespace LinkPolicy

theorem targetOf_append (before after : String) : targetOf (before ++ after) =
    if '#' ∉ before.toList ∧ '?' ∉ before.toList then before ++ targetOf after else targetOf before := by
  have plain : (∀ c ∈ before.toList, decide (c ≠ '#' ∧ c ≠ '?') = true) ↔
      '#' ∉ before.toList ∧ '?' ∉ before.toList := by
    simp only [decide_eq_true_eq,forall_and,List.forall_mem_ne']
  simp only [targetOf,String.toList_append,splitTarget_fst]
  split
  · rename_i unmarked
    rw [List.takeWhile_append_of_pos (plain.mpr unmarked),String.ofList_append,String.ofList_toList]
  · rename_i marked
    rw [List.takeWhile_append,if_neg fun whole => marked (plain.mp ?_)]
    have same := (List.takeWhile_prefix _).eq_of_length whole
    exact List.takeWhile_eq_self_iff.mp same

theorem length_targetOf (path : String) : (targetOf path).toList.length ≤ path.toList.length := by
  rw [targetOf,String.toList_ofList,splitTarget_fst]
  exact (List.takeWhile_sublist _).length_le

theorem targetOf_relative (path : String) (relative : path.toList.head? ≠ some '/') :
    (Path.mk (targetOf path)).isAbsolute = false := by
  obtain ⟨suffix,divides⟩ := divides_targetOf path
  rw [Path.isAbsolute,decide_eq_false_iff_not]
  intro slash
  rw [divides.whole,String.toList_append,List.head?_append,slash] at relative
  exact relative rfl

section
variable (p : LinkPolicy) (d : String) (docs : p.docsPrefix = "/" ++ d ++ "/") (nonempty : d ≠ "")
  (opened : d.toList.head? ≠ some '/') (closed : d.toList.getLast? ≠ some '/')
include docs nonempty opened closed

theorem docsFile_text (path : String) (relative : path.toList.head? ≠ some '/') :
    (p.docsFile path).text = d ++ "/" ++ targetOf path := by
  have below := targetOf_relative path relative
  rw [p.docsFile_eq d path docs opened closed]
  change ((Path.mk d).join (targetOf path)).text = _
  simp [Path.join,below,nonempty,closed]

/-- The file is the one that the image is published under exactly if the address of the documentation is a
path. -/
theorem published_file (path : String) (relative : path.toList.head? ≠ some '/') :
    ∃ r, targetOf (p.docsPrefix ++ path) = "/" ++ r ∧
      (Path.mk r).isAbsolute = false ∧ (Path.mk (p.docsFile path).text).isAbsolute = false ∧
      ((p.docsFile path).text = r ↔ '#' ∉ d.toList ∧ '?' ∉ d.toList) := by
  have behind : p.docsPrefix ++ path = "/" ++ (d ++ ("/" ++ path)) := by
    rw [docs,String.append_assoc,String.append_assoc]
  have inside (rest : String) : (Path.mk (d ++ rest)).isAbsolute = false := Path.relative_append d rest nonempty opened
  rw [docsFile_text p d docs nonempty opened closed path relative,String.append_assoc]
  refine ⟨targetOf (d ++ ("/" ++ path)),?_,?_,inside _,?_⟩
  · rw [behind,targetOf_append,if_pos (by decide)]
  · exact targetOf_relative _ (by simpa [Path.isAbsolute] using inside ("/" ++ path))
  · rw [targetOf_append d]
    by_cases unmarked : '#' ∉ d.toList ∧ '?' ∉ d.toList
    · rw [if_pos unmarked,targetOf_append,if_pos (by decide)]
      exact iff_of_true rfl unmarked
    · rw [if_neg unmarked]
      refine iff_of_false (fun same => ?_) unmarked
      have short := length_targetOf d
      have lengths := congrArg (·.toList.length) same
      simp only [String.toList_append,List.length_append] at lengths
      have slash : "/".toList.length = 1 := rfl
      omega

end

end LinkPolicy

namespace RenderContext

/-- The copy into a site that an image of the documentation asks for. -/
def copyTo (c : RenderContext) (site : Path) (path : String) : AssetCopy :=
  ⟨c.root.join (c.links.docsFile path).text,site.join (c.links.docsFile path).text⟩

variable (c : RenderContext) (t : FileTree) (h : Highlighter) (markdown : String)

theorem html_publishedTo (site : Option Path) :
    ((c.publishedTo site).render t markdown h).map (·.html) = (c.render t markdown h).map (·.html) := by
  rw [render_publishedTo c t site markdown h]
  cases c.render t markdown h <;> simp only [Except.map]

theorem render_unpublished (page : RenderedDocument)
    (rendered : (c.publishedTo none).render t markdown h = .ok page) : page.assets = [] := by
  rw [render_publishedTo c t none markdown h] at rendered
  obtain ⟨unpublished,_,rfl⟩ := (map_ok_iff ..).mp rendered
  dsimp only
  exact List.flatMap_eq_nil_iff.mpr fun _ _ => rfl

theorem render_published (site : Path) (page : RenderedDocument)
    (rendered : (c.publishedTo (some site)).render t markdown h = .ok page) :
    page.assets = ((parse markdown).docsImages c).map (c.copyTo site) := by
  rw [render_publishedTo c t (some site) markdown h] at rendered
  obtain ⟨unpublished,_,rfl⟩ := (map_ok_iff ..).mp rendered
  dsimp only
  exact List.map_eq_flatMap.symm

/-- An image of the documentation on a page that is rendered is shown with its address in the site, and asks
for one copy. -/
theorem rewriteImage_docs (site : Path) (page : RenderedDocument)
    (rendered : (c.publishedTo (some site)).render t markdown h = .ok page) (url title path : String)
    (shown : .image url title ∈ (parse markdown).kinds) (kind : c.links.classify url c.addresses = .docs path) :
    (c.publishedTo (some site)).rewriteImage t url = .ok (c.links.docsPrefix ++ path,[c.copyTo site path]) := by
  unfold render at rendered
  obtain ⟨⟨tree,assets⟩,rewritten,_⟩ := (bind_ok_iff ..).mp rendered
  rw [Node.rewrite_eq _ h t _ (parse_headingsInline markdown)] at rewritten
  obtain ⟨copies,met,_⟩ := (bind_ok_iff ..).mp rewritten
  obtain ⟨_,own⟩ := (c.publishedTo (some site)).rewritten_of_demands t h _ _ met _ shown
  obtain ⟨image,done,_⟩ := (bind_ok_iff ..).mp own
  unfold rewriteImage at done ⊢
  simp only [publishedTo,kind] at done ⊢
  split at done
  · rename_i there
    rw [if_pos there]
    rfl
  · cases done

/-- With a site there is one copy for each image of the documentation, in their order, and without one there is
none; nothing else depends on where the site is written. The copy of an image is made at the address that the image
is published under, exactly if the address of the documentation is a path. -/
theorem assets_mirror (d : String) (docs : c.links.docsPrefix = "/" ++ d ++ "/") (nonempty : d ≠ "")
    (opened : d.toList.head? ≠ some '/') (closed : d.toList.getLast? ≠ some '/') :
    (∀ site, ((c.publishedTo site).render t markdown h).map (·.html) = (c.render t markdown h).map (·.html)) ∧
    (∀ page, (c.publishedTo none).render t markdown h = .ok page → page.assets = []) ∧
    ∀ site page, (c.publishedTo (some site)).render t markdown h = .ok page →
      page.assets = ((parse markdown).docsImages c).map (c.copyTo site) ∧
      ∀ url title path, .image url title ∈ (parse markdown).kinds → c.links.classify url c.addresses = .docs path →
        ∃ src, (c.publishedTo (some site)).rewriteImage t url = .ok (src,[c.copyTo site path]) ∧
          (path.toList.head? ≠ some '/' → ∃ r, LinkPolicy.targetOf src = "/" ++ r ∧
            (c.copyTo site path = ⟨c.root.join r,site.join r⟩ ↔ '#' ∉ d.toList ∧ '?' ∉ d.toList)) := by
  refine ⟨c.html_publishedTo t h markdown,c.render_unpublished t h markdown,fun site page rendered => ⟨?_,?_⟩⟩
  · exact c.render_published t h markdown site page rendered
  · intro url title path shown kind
    refine ⟨_,c.rewriteImage_docs t h markdown site page rendered url title path shown kind,fun relative => ?_⟩
    obtain ⟨r,target,below,file,same⟩ := c.links.published_file d docs nonempty opened closed path relative
    refine ⟨r,target,?_⟩
    rw [← same,copyTo,AssetCopy.mk.injEq,Path.join_inj _ _ _ file below,Path.join_inj _ _ _ file below,
      and_self]

end RenderContext

/-! The figure of a page, shown twice, and the same in a directory whose name looks like a fragment. -/

def drawn : FileTree :=
  ⟨[],[(["p"],.directory),(["p","docs"],.directory),(["p","docs","x.png"],.file .empty),
    (["p","a#b"],.directory),(["p","a#b","x.png"],.file .empty)]⟩

def figure : String := "![](x.png?s)![](./x.png)"

private theorem parse_figure : parse figure =
    .node .document [.node .paragraph [.leaf (.image "x.png?s" ""),.leaf (.image "./x.png" "")]] := by
  have shapes : blocks figure.toList =
      ([],[.block (.paragraph false) "![](x.png?s)![](./x.png)\n".toList false []]) := by with_unfolding_all rfl
  have inside : inlines [] "![](x.png?s)![](./x.png)\n".toList =
      [.leaf (.image "x.png?s" ""),.leaf (.image "./x.png" "")] := by with_unfolding_all rfl
  rw [parse,shapes]
  simp only [Block.toNodes,Block.toNode,inside]

/-- Documentation below a directory whose name looks like a fragment. -/
def signed : RenderContext := { project with links := { project.links with docsPrefix := "/a#b/" } }

private theorem classify_figure (c : RenderContext) (at_docs : c = project ∨ c = signed) :
    c.links.classify "x.png?s" c.addresses = .docs "x.png?s" ∧
      c.links.classify "./x.png" c.addresses = .docs "x.png" := by
  obtain rfl | rfl := at_docs <;> exact ⟨by with_unfolding_all rfl,by with_unfolding_all rfl⟩

private theorem images_figure (c : RenderContext) (at_docs : c = project ∨ c = signed) :
    (parse figure).docsImages c = ["x.png?s","x.png"] := by
  obtain ⟨queried,stepped⟩ := classify_figure c at_docs
  rw [parse_figure]
  simp [Node.docsImages,Node.preorder,Node.preorderAll,Node.leaf,Node.kind,RenderContext.docsImage?,queried,stepped]

private theorem render_figure (c : RenderContext) (at_docs : c = project ∨ c = signed) (site : Path) :
    ∃ page, (c.publishedTo (some site)).render drawn figure = .ok page := by
  obtain ⟨queried,stepped⟩ := classify_figure c at_docs
  have image (url path : String) (kind : c.links.classify url c.addresses = .docs path)
      (there : drawn.isFile (c.root.join (c.links.docsFile path).text) = true) :
      (c.publishedTo (some site)).rewriteImage drawn url =
        .ok (c.links.docsPrefix ++ path,[c.copyTo site path]) := by
    simp only [RenderContext.rewriteImage,RenderContext.publishedTo,kind,there,if_true]
    rfl
  have there : drawn.isFile (c.root.join (c.links.docsFile "x.png?s").text) = true ∧
      drawn.isFile (c.root.join (c.links.docsFile "x.png").text) = true := by
    obtain rfl | rfl := at_docs <;> decide +kernel
  rw [RenderContext.render,parse_figure]
  simp only [Node.rewrite,Node.rewriteAll,Node.leaf,RenderContext.rewriteKind,image _ _ queried there.1,
    image _ _ stepped there.2]
  exact ⟨_,rfl⟩

theorem figure_mirrored :
    project.links.docsPrefix = "/" ++ "docs" ++ "/" ∧
    (∃ page, (project.publishedTo (some ⟨"s"⟩)).render drawn figure = .ok page ∧
      page.assets = [⟨⟨"p/docs/x.png"⟩,⟨"s/docs/x.png"⟩⟩,⟨⟨"p/docs/x.png"⟩,⟨"s/docs/x.png"⟩⟩]) := by
  obtain ⟨page,rendered⟩ := render_figure project (.inl rfl) ⟨"s"⟩
  obtain ⟨_,_,mirrors⟩ := project.assets_mirror drawn .byScope figure "docs" (by decide) (by decide) (by decide)
    (by decide)
  obtain ⟨planned,_⟩ := mirrors ⟨"s"⟩ page rendered
  rw [images_figure project (.inl rfl)] at planned
  exact ⟨by decide,page,rendered,planned.trans (by decide +kernel)⟩

/-- The figure is published under an address that ends ahead of its directory, and copied from that directory. -/
theorem figure_elsewhere :
    signed.links.docsPrefix = "/" ++ "a#b" ++ "/" ∧ signed.links.classify "./x.png" signed.addresses = .docs "x.png" ∧
    ∃ page, (signed.publishedTo (some ⟨"s"⟩)).render drawn figure = .ok page ∧
      LinkPolicy.targetOf (signed.links.imageSrc (.docs "x.png") "./x.png") = "/" ++ "a" ∧
      page.assets = [⟨⟨"p/a#b/x.png"⟩,⟨"s/a#b/x.png"⟩⟩,⟨⟨"p/a#b/x.png"⟩,⟨"s/a#b/x.png"⟩⟩] ∧
      page.assets ≠ [⟨⟨"p/a"⟩,⟨"s/a"⟩⟩,⟨⟨"p/a"⟩,⟨"s/a"⟩⟩] := by
  obtain ⟨page,rendered⟩ := render_figure signed (.inr rfl) ⟨"s"⟩
  have planned := signed.render_published drawn .byScope figure ⟨"s"⟩ page rendered
  rw [images_figure signed (.inr rfl)] at planned
  have copied : page.assets = [⟨⟨"p/a#b/x.png"⟩,⟨"s/a#b/x.png"⟩⟩,⟨⟨"p/a#b/x.png"⟩,⟨"s/a#b/x.png"⟩⟩] :=
    planned.trans (by decide +kernel)
  exact ⟨by decide,(classify_figure signed (.inr rfl)).2,page,rendered,by decide,copied,
    by rw [copied]; decide⟩

end ReferenceSite
