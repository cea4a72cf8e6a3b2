import ReferenceSite.Proofs.Markdown.ShownText
import ReferenceSite.Proofs.Page.DeadReferences

/-! What the site shows of a document. A node that is no reference, code or heading stays what it is; a link
out of the project keeps its address, and a heading whose text holds a marker begins with its anchor. -/
namespace ReferenceSite
open ReferenceSite.Text ReferenceSite.Markdown

/-- Neither refers to anything nor is code or a heading: the site shows such a node as it is. -/
def Markdown.Kind.isKept : Kind → Bool
  | .link .. | .image .. | .codeBlock .. | .heading _ => false
  | _ => true

theorem RenderContext.rewriteKind_kept (c : RenderContext) (t : FileTree) (h : Highlighter) (kind : Kind)
    (kept : kind.isKept = true ∨ ∃ level, kind = .heading level) : c.rewriteKind t kind h = .ok (kind,[]) := by
  cases kind <;> first | rfl | simp [Kind.isKept] at kept

namespace Markdown.Node
variable {c : RenderContext} {t : FileTree} {h : Highlighter}

/-- The children of a rewritten node, which gets an anchor among them if it is a heading. -/
def settled (c : RenderContext) (kind : Kind) (children : List Node) : List Node :=
  match kind with
  | .heading level => anchorHeading c.levels level children
  | _ => children

theorem rewrite_ok (kind : Kind) (children : List Node) (n' : Node) (assets : List AssetCopy)
    (done : rewrite c t (node kind children) h = .ok (n',assets)) :
    ∃ kind' own children' inner, c.rewriteKind t kind h = .ok (kind',own) ∧
      rewriteAll c t children h = .ok (children',inner) ∧ n' = node kind' (settled c kind' children') := by
  rw [rewrite] at done
  obtain ⟨⟨kind',own⟩,first,done⟩ := (bind_ok_iff ..).mp done
  obtain ⟨⟨children',inner⟩,further,done⟩ := (bind_ok_iff ..).mp done
  refine ⟨kind',own,children',inner,first,further,?_⟩
  cases done
  rfl

theorem mem_rewriteAll (nodes nodes' : List Node) (assets : List AssetCopy)
    (done : rewriteAll c t nodes h = .ok (nodes',assets)) (n : Node) (member : n ∈ nodes) :
    ∃ n' own, rewrite c t n h = .ok (n',own) ∧ n' ∈ nodes' := by
  induction nodes generalizing nodes' assets with
  | nil => simp at member
  | cons m nodes ih =>
    rw [rewriteAll] at done
    obtain ⟨⟨m',first⟩,own,done⟩ := (bind_ok_iff ..).mp done
    obtain ⟨⟨later,others⟩,further,done⟩ := (bind_ok_iff ..).mp done
    cases done
    rcases List.mem_cons.mp member with rfl | inside
    · exact ⟨m',first,own,by simp⟩
    · obtain ⟨n',kept,found,among⟩ := ih later others further inside
      exact ⟨n',kept,found,List.mem_cons_of_mem _ among⟩

/-- Writes these texts next to each other on the site, wherever it stands. -/
def Publishes (c : RenderContext) (t : FileTree) (h : Highlighter) (n : Node) (texts : List (List Char)) : Prop :=
  ∀ n' assets, rewrite c t n h = .ok (n',assets) → n'.Writes texts

variable {texts : List (List Char)}

theorem Publishes.inside {n : Node} (publishes : n.Publishes c t h texts) (kind : Kind)
    (kept : kind.isKept = true) (shows : kind.shows = true) (children : List Node) (member : n ∈ children) :
    (node kind children).Publishes c t h texts := by
  intro n' assets done
  obtain ⟨kind',own,children',inner,first,further,rfl⟩ := rewrite_ok kind children n' assets done
  rw [c.rewriteKind_kept t h kind (.inl kept)] at first
  cases first
  obtain ⟨m,_,found,among⟩ := mem_rewriteAll children children' inner further n member
  have within : settled c kind children' = children' := by
    cases kind <;> first | rfl | cases kept
  rw [within]
  exact (publishes m _ found).inside kind shows children' among

/-- A link out of the project keeps its address. -/
theorem publishes_link (url : String) (outward : c.links.classify url c.addresses = .external) (children : List Node) :
    (node (.link url "") children).Publishes c t h
      ["<a href=\"".toList,escapeHref url.toList,[],"\">".toList] := by
  intro n' assets done
  obtain ⟨kind',own,children',inner,first,further,rfl⟩ := rewrite_ok _ children n' assets done
  have same : c.rewriteKind t (.link url "") h = .ok (.link url "",[]) := by
    simp only [RenderContext.rewriteKind,RenderContext.rewriteLink,outward]
    rfl
  rw [same] at first
  cases first
  exact writes_link url _

/-- A heading that begins with a text with a marker begins with its anchor. -/
theorem publishes_heading (level : Nat) (s name rest : String) (others : List Node)
    (marked : Anchor.takeExplicit? s = some (name,rest)) :
    (node (.heading level) (leaf (.text s) :: others)).Publishes c t h [(Anchor.html name).toList] := by
  intro n' assets done
  obtain ⟨kind',own,children',inner,first,further,rfl⟩ := rewrite_ok _ _ n' assets done
  rw [c.rewriteKind_kept t h _ (.inr ⟨level,rfl⟩)] at first
  cases first
  have text : rewrite c t (leaf (.text s)) h = .ok (leaf (.text s),[]) := rfl
  rw [rewriteAll,text] at further
  obtain ⟨_,own,further⟩ := (bind_ok_iff ..).mp further
  cases own
  obtain ⟨⟨later,_⟩,_,further⟩ := (bind_ok_iff ..).mp further
  cases further
  have found : takeMarkerAll? (leaf (.text s) :: later) = some (name,leaf (.text rest) :: later) := by
    simp [takeMarkerAll?,leaf,takeMarker?,marked]
  simp only [settled,anchorHeading,found]
  exact (writes_htmlInline _).inside _ rfl _ List.mem_cons_self

theorem Publishes.render {markdown : String} (publishes : (parse markdown).Publishes c t h texts)
    (page : RenderedDocument) (rendered : c.render t markdown h = .ok page) :
    texts.flatten <:+: page.html.toList := by
  unfold RenderContext.render at rendered
  obtain ⟨⟨n',assets⟩,done,rendered⟩ := (bind_ok_iff ..).mp rendered
  cases rendered
  exact (publishes n' assets done).toHtml

end Markdown.Node
end ReferenceSite
