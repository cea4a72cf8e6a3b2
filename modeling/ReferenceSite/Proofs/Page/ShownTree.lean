import ReferenceSite.Proofs.Markdown.NodeKinds
import ReferenceSite.Proofs.Page.ShownNodes

/-! The tree of a page as a map of the tree of its document. Headings get their anchors from what they hold
in the document, then every node takes the kind it is shown as where it stands. Looking for markers and
wordings does not see the second step, so that it makes no difference which of the two comes first. Whether a
page is refused and which copies it asks for can be read off the kinds in the document. -/
namespace ReferenceSite
open ReferenceSite.Markdown

namespace RenderContext

/-- What a node is shown as, wherever it stands. -/
def shownKind (c : RenderContext) (h : Highlighter) : Kind → Kind
  | .link url title => .link (c.links.linkHref (c.links.classify url c.addresses) url) title
  | .image url title => .image (c.links.imageSrc (c.links.classify url c.addresses) url) title
  | .codeBlock info literal =>
    match h info literal with
    | .ok html => .htmlBlock (Code.element html c.codeClass)
    | .error _ => .codeBlock info literal
  | kind => kind

/-- The copies that nodes of these kinds ask for, unless one of them is refused. -/
def demands (c : RenderContext) (t : FileTree) (h : Highlighter) :
    List Kind → Except RenderFault (List AssetCopy)
  | [] => pure []
  | kind :: rest => do
    let (_,own) ← c.rewriteKind t kind h
    let more ← c.demands t h rest
    pure (own ++ more)

variable (c : RenderContext) (t : FileTree) (h : Highlighter)

theorem rewriteKind_shown (kind kind' : Kind) (own : List AssetCopy)
    (done : c.rewriteKind t kind h = .ok (kind',own)) : kind' = c.shownKind h kind := by
  cases kind with
  | link url title =>
    obtain ⟨href,rewritten,same⟩ := (bind_ok_iff ..).mp done
    cases same
    unfold rewriteLink at rewritten
    simp only at rewritten
    split at rewritten
    · split at rewritten <;> cases rewritten
      rfl
    · cases rewritten
      rfl
  | image url title =>
    obtain ⟨⟨src,copies⟩,rewritten,same⟩ := (bind_ok_iff ..).mp done
    cases same
    unfold rewriteImage at rewritten
    simp only at rewritten
    split at rewritten
    · split at rewritten <;> cases rewritten
      rfl
    · cases rewritten
      rfl
  | codeBlock info literal =>
    obtain ⟨html,shown,same⟩ := (bind_ok_iff ..).mp done
    cases same
    simp only [shownKind,shown]
  | _ =>
    cases done
    rfl

theorem shownKind_eq_text (kind : Kind) (s : String) : c.shownKind h kind = .text s ↔ kind = .text s := by
  cases kind with
  | codeBlock info literal =>
    simp only [shownKind]
    split <;> simp
  | _ => simp [shownKind]

theorem rewriteKind_bind {β : Type} (kind : Kind) (next : Kind × List AssetCopy → Except RenderFault β) :
    c.rewriteKind t kind h >>= next =
      c.rewriteKind t kind h >>= fun result => next (c.shownKind h kind,result.2) := by
  cases done : c.rewriteKind t kind h with
  | error fault => rfl
  | ok result =>
    have same := c.rewriteKind_shown t h kind result.1 result.2 done
    simp only [← same,bind,Except.bind]

theorem demands_append (before after : List Kind) :
    c.demands t h (before ++ after) =
      c.demands t h before >>= fun own => c.demands t h after >>= fun more => pure (own ++ more) := by
  induction before with
  | nil =>
    rw [List.nil_append,demands]
    cases c.demands t h after <;> rfl
  | cons kind before ih =>
    simp only [List.cons_append,demands,ih]
    cases c.rewriteKind t kind h with
    | error fault => rfl
    | ok result =>
      cases c.demands t h before with
      | error fault => rfl
      | ok own => cases c.demands t h after <;> simp [bind,Except.bind,pure,Except.pure]

/-- A text asks for nothing and is never refused. -/
theorem demands_text (before after : List Kind) (s rest : String) :
    c.demands t h (before ++ .text rest :: after) = c.demands t h (before ++ .text s :: after) := by
  simp [demands_append,demands,rewriteKind]

/-- Where the demands of all nodes are met, none of them is refused. -/
theorem rewritten_of_demands (kinds : List Kind) (assets : List AssetCopy)
    (met : c.demands t h kinds = .ok assets) (kind : Kind) (member : kind ∈ kinds) :
    ∃ result, c.rewriteKind t kind h = .ok result := by
  induction kinds generalizing assets with
  | nil => simp at member
  | cons kind rest ih =>
    obtain ⟨own,first,later⟩ := (bind_ok_iff ..).mp met
    rcases List.mem_cons.mp member with rfl | inside
    · exact ⟨own,first⟩
    · obtain ⟨more,further,-⟩ := (bind_ok_iff ..).mp later
      exact ih more further inside

theorem shown_of_demands (kinds : List Kind) (assets : List AssetCopy)
    (met : c.demands t h kinds = .ok assets) (info literal : String)
    (member : Kind.codeBlock info literal ∈ kinds) : ∃ html, h info literal = .ok html := by
  obtain ⟨result,rewritten⟩ := c.rewritten_of_demands t h kinds assets met _ member
  obtain ⟨html,shown,-⟩ := (bind_ok_iff ..).mp rewritten
  exact ⟨html,shown⟩

end RenderContext

namespace Markdown.Node

def kinds (n : Node) : List Kind := n.preorder.map kind

def kindsAll (nodes : List Node) : List Kind := (preorderAll nodes).map kind

theorem kinds_node (kind : Kind) (children : List Node) : (node kind children).kinds = kind :: kindsAll children := by
  simp [kinds,kindsAll,preorder,Node.kind]

theorem kindsAll_cons (n : Node) (rest : List Node) : kindsAll (n :: rest) = n.kinds ++ kindsAll rest := by
  simp [kinds,kindsAll,preorderAll]

mutual
def mapKinds (f : Kind → Kind) : Node → Node
  | node kind children => node (f kind) (mapKindsAll f children)

def mapKindsAll (f : Kind → Kind) : List Node → List Node
  | [] => []
  | n :: rest => mapKinds f n :: mapKindsAll f rest
end

theorem mapKindsAll_eq_map (f : Kind → Kind) (nodes : List Node) : mapKindsAll f nodes = nodes.map (mapKinds f) := by
  induction nodes with
  | nil => rfl
  | cons n rest ih => rw [mapKindsAll,ih,List.map_cons]

mutual
/-- The document with the anchors of its headings, and without the markers that name them. -/
def anchored (levels : Nat × Nat) : Node → Node
  | node kind children =>
    node kind (match kind with
      | .heading level => anchorHeading levels level children
      | _ => anchoredAll levels children)

def anchoredAll (levels : Nat × Nat) : List Node → List Node
  | [] => []
  | n :: rest => anchored levels n :: anchoredAll levels rest
end

theorem anchoredAll_eq_map (levels : Nat × Nat) (nodes : List Node) :
    anchoredAll levels nodes = nodes.map (anchored levels) := by
  induction nodes with
  | nil => rfl
  | cons n rest ih => rw [anchoredAll,ih,List.map_cons]

theorem anchored_node (levels : Nat × Nat) (kind : Kind) (children : List Node)
    (other : ∀ level, kind ≠ .heading level) :
    anchored levels (node kind children) = node kind (anchoredAll levels children) := by
  cases kind <;> first | rfl | exact absurd rfl (other _)

mutual
theorem anchored_inline (levels : Nat × Nat) (n : Node) (inline : n.IsInline) : anchored levels n = n := by
  obtain ⟨kind,children⟩ := n
  obtain ⟨own,inside⟩ := (holds_node _ _).mp inline
  have same := anchoredAll_inline levels children inside
  cases kind <;> first | exact own.elim | simp only [anchored,same]

theorem anchoredAll_inline (levels : Nat × Nat) (nodes : List Node) (inline : ∀ n ∈ nodes, n.IsInline) :
    anchoredAll levels nodes = nodes := by
  cases nodes with
  | nil => rfl
  | cons n rest =>
    obtain ⟨first,later⟩ := List.forall_mem_cons.mp inline
    rw [anchoredAll,anchored_inline levels n first,anchoredAll_inline levels rest later]
end

/-! ### Markers and wordings -/

/-- A text gives up its marker, and nothing else changes. -/
def Unmarks (name : String) (before after : List Kind) : Prop :=
  ∃ first s rest last, before = first ++ .text s :: last ∧ after = first ++ .text rest :: last ∧
    Anchor.takeExplicit? s = some (name,rest)

theorem Unmarks.between {name : String} {before after : List Kind} (unmarks : Unmarks name before after)
    (ahead behind : List Kind) : Unmarks name (ahead ++ before ++ behind) (ahead ++ after ++ behind) := by
  obtain ⟨first,s,rest,last,rfl,rfl,taken⟩ := unmarks
  exact ⟨ahead ++ first,s,rest,last ++ behind,by simp,by simp,taken⟩

mutual
theorem takeMarker?_unmarks (n n' : Node) (name : String) (found : takeMarker? n = some (name,n')) :
    Unmarks name n.kinds n'.kinds := by
  obtain ⟨kind,children⟩ := n
  cases kind
  case text s =>
    simp only [takeMarker?] at found
    obtain ⟨⟨_,rest⟩,taken,same⟩ := Option.map_eq_some_iff.mp found
    cases same
    exact ⟨[],s,rest,kindsAll children,kinds_node _ _,kinds_node _ _,taken⟩
  all_goals
    simp only [takeMarker?] at found
    obtain ⟨⟨_,children'⟩,taken,same⟩ := Option.map_eq_some_iff.mp found
    cases same
    simpa [kinds_node] using (takeMarkerAll?_unmarks children children' _ taken).between [_] []

theorem takeMarkerAll?_unmarks (nodes nodes' : List Node) (name : String)
    (found : takeMarkerAll? nodes = some (name,nodes')) : Unmarks name (kindsAll nodes) (kindsAll nodes') := by
  cases nodes with
  | nil => cases found
  | cons n rest =>
    simp only [takeMarkerAll?] at found
    cases own : takeMarker? n with
    | some taken =>
      obtain ⟨_,n'⟩ := taken
      rw [own] at found
      cases found
      simpa [kindsAll_cons] using (takeMarker?_unmarks n n' _ own).between [] (kindsAll rest)
    | none =>
      rw [own] at found
      obtain ⟨⟨_,rest'⟩,taken,same⟩ := Option.map_eq_some_iff.mp found
      cases same
      simpa [kindsAll_cons] using (takeMarkerAll?_unmarks rest rest' _ taken).between n.kinds []
end

theorem takeMarker?_node (kind : Kind) (children : List Node) (silent : ∀ s, kind ≠ .text s) :
    takeMarker? (node kind children) =
      (takeMarkerAll? children).map fun found => (found.1,node kind found.2) := by
  cases kind <;> first | exact absurd rfl (silent _) | rfl

section Shown
variable (c : RenderContext) (h : Highlighter)

mutual
theorem takeMarker?_shown (n : Node) : takeMarker? (mapKinds (c.shownKind h) n) =
    (takeMarker? n).map fun found => (found.1,mapKinds (c.shownKind h) found.2) := by
  obtain ⟨kind,children⟩ := n
  have inside := takeMarkerAll?_shown children
  by_cases spoken : ∃ s, kind = .text s
  · obtain ⟨s,rfl⟩ := spoken
    simp only [mapKinds,RenderContext.shownKind,takeMarker?]
    cases Anchor.takeExplicit? s <;> rfl
  · have silent (s : String) : kind ≠ .text s := fun same => spoken ⟨s,same⟩
    rw [mapKinds,takeMarker?_node _ _ fun s => mt (c.shownKind_eq_text h kind s).mp (silent s),
      takeMarker?_node kind children silent,inside]
    cases takeMarkerAll? children <;> rfl

theorem takeMarkerAll?_shown (nodes : List Node) : takeMarkerAll? (mapKindsAll (c.shownKind h) nodes) =
    (takeMarkerAll? nodes).map fun found => (found.1,mapKindsAll (c.shownKind h) found.2) := by
  cases nodes with
  | nil => rfl
  | cons n rest =>
    have first := takeMarker?_shown n
    have others := takeMarkerAll?_shown rest
    simp only [mapKindsAll,takeMarkerAll?,first,others]
    cases takeMarker? n <;> cases takeMarkerAll? rest <;> rfl
end

mutual
theorem kinds_mapKinds (f : Kind → Kind) (n : Node) : (mapKinds f n).kinds = n.kinds.map f := by
  obtain ⟨kind,children⟩ := n
  rw [mapKinds,kinds_node,kinds_node,kindsAll_mapKinds f children,List.map_cons]

theorem kindsAll_mapKinds (f : Kind → Kind) (nodes : List Node) :
    kindsAll (mapKindsAll f nodes) = (kindsAll nodes).map f := by
  cases nodes with
  | nil => rfl
  | cons n rest =>
    rw [mapKindsAll,kindsAll_cons,kindsAll_cons,kinds_mapKinds f n,kindsAll_mapKinds f rest,List.map_append]
end

/-- What a node itself adds to the wording of its heading. -/
def wordOf : Kind → String
  | .text s | .code s => s
  | .softBreak | .lineBreak => " "
  | _ => ""

theorem wording_eq (nodes : List Node) : wording nodes = "".intercalate ((kindsAll nodes).map wordOf) := by
  rw [kindsAll,List.map_map]
  rfl

theorem wordOf_shown (kind : Kind) : wordOf (c.shownKind h kind) = wordOf kind := by
  cases kind with
  | codeBlock info literal =>
    simp only [RenderContext.shownKind]
    split <;> rfl
  | _ => rfl

theorem wording_shown (nodes : List Node) : wording (mapKindsAll (c.shownKind h) nodes) = wording nodes := by
  rw [wording_eq,wording_eq,kindsAll_mapKinds,List.map_map]
  exact congrArg _ (List.map_congr_left fun kind _ => wordOf_shown c h kind)

/-- A heading gets the same anchor whether it is shown first or afterwards. -/
theorem anchorHeading_shown (levels : Nat × Nat) (level : Nat) (nodes : List Node) :
    anchorHeading levels level (mapKindsAll (c.shownKind h) nodes) =
      mapKindsAll (c.shownKind h) (anchorHeading levels level nodes) := by
  unfold anchorHeading
  rw [takeMarkerAll?_shown,wording_shown]
  cases takeMarkerAll? nodes with
  | some found => rfl
  | none => cases Anchor.implicit? (wording nodes) level levels.1 levels.2 <;> rfl

/-! ### Rewriting -/

variable (t : FileTree)

theorem rewrite_node (kind : Kind) (children : List Node) :
    rewrite c t (node kind children) h = c.rewriteKind t kind h >>= fun own =>
      rewriteAll c t children h >>= fun inner =>
        pure (node (c.shownKind h kind) (settled c (c.shownKind h kind) inner.1),own.2 ++ inner.2) := by
  rw [rewrite,RenderContext.rewriteKind_bind]
  rfl

/-- The kinds of the nodes decide whether they are rewritten, and which copies they ask for. -/
abbrev shows (c : RenderContext) (t : FileTree) (h : Highlighter) (kinds : List Kind) {α : Type} (shown : α) :
    Except RenderFault (α × List AssetCopy) :=
  c.demands t h kinds >>= fun assets => pure (shown,assets)

theorem settled_shown (kind : Kind) (children : List Node) :
    settled c (c.shownKind h kind) children = settled c kind children := by
  cases kind with
  | codeBlock info literal =>
    simp only [RenderContext.shownKind]
    split <;> rfl
  | _ => rfl

theorem settled_anchored (kind : Kind) (children : List Node)
    (apart : ∀ level, kind = .heading level → ∀ n ∈ children, n.IsInline) :
    settled c (c.shownKind h kind) (mapKindsAll (c.shownKind h) (anchoredAll c.levels children)) =
      (mapKinds (c.shownKind h) (anchored c.levels (node kind children))).children := by
  rw [settled_shown]
  cases kind with
  | heading level =>
    rw [anchoredAll_inline c.levels children (apart level rfl)]
    exact anchorHeading_shown c h c.levels level children
  | _ => rfl

mutual
theorem rewrite_eq (n : Node) (apart : n.HeadingsInline) :
    rewrite c t n h = shows c t h n.kinds (mapKinds (c.shownKind h) (anchored c.levels n)) := by
  obtain ⟨kind,children⟩ := n
  obtain ⟨own,inside⟩ := (headingsInline_node _ _).mp apart
  rw [rewrite_node,rewriteAll_eq children inside,kinds_node,shows,shows,RenderContext.demands]
  cases c.rewriteKind t kind h with
  | error fault => rfl
  | ok result =>
    cases c.demands t h (kindsAll children) with
    | error fault => rfl
    | ok assets =>
      have settles := settled_anchored c h kind children own
      simp only [bind,Except.bind,pure,Except.pure,settles]
      rfl

theorem rewriteAll_eq (nodes : List Node) (apart : ∀ n ∈ nodes, n.HeadingsInline) :
    rewriteAll c t nodes h =
      shows c t h (kindsAll nodes) (mapKindsAll (c.shownKind h) (anchoredAll c.levels nodes)) := by
  cases nodes with
  | nil => rfl
  | cons n rest =>
    obtain ⟨first,later⟩ := List.forall_mem_cons.mp apart
    rw [rewriteAll,rewrite_eq n first,rewriteAll_eq rest later,kindsAll_cons]
    simp only [shows,RenderContext.demands_append]
    cases c.demands t h n.kinds with
    | error fault => rfl
    | ok own => cases c.demands t h (kindsAll rest) <;> rfl
end
end Shown

end Markdown.Node

/-! ### Copies -/

namespace RenderContext
variable (c : RenderContext) (t : FileTree) (h : Highlighter)

/-- An image of the documentation, the file of which is there, and the copy that it asks for. -/
inductive Asks : Kind → AssetCopy → Prop
  | image {url title path : String} {site : Path} : c.links.classify url c.addresses = .docs path →
      c.outDir = some site → t.isFile (c.root.join (c.links.docsFile path).text) = true →
      Asks (.image url title)
        ⟨c.root.join (c.links.docsFile path).text,site.join (c.links.docsFile path).text⟩

theorem Asks.file {kind : Kind} {a : AssetCopy} (asks : c.Asks t kind a) : t.isFile a.source = true := by
  cases asks with
  | image _ _ file => simpa only using file

theorem rewriteKind_asks (kind kind' : Kind) (own : List AssetCopy)
    (done : c.rewriteKind t kind h = .ok (kind',own)) : ∀ a ∈ own, c.Asks t kind a := by
  cases kind with
  | image url title =>
    obtain ⟨⟨src,copies⟩,image,same⟩ := (bind_ok_iff ..).mp done
    cases same
    unfold rewriteImage at image
    cases kind : c.links.classify url c.addresses with
    | docs path =>
      simp only [kind] at image
      split at image
      · rename_i file
        cases image
        intro a member
        obtain ⟨site,published,rfl⟩ := List.mem_map.mp member
        exact .image kind (Option.mem_toList.mp published) file
      · cases image
    | repository path =>
      simp only [kind] at image
      cases image
      simp
    | external =>
      simp only [kind] at image
      cases image
      simp
  | link url title =>
    obtain ⟨href,_,same⟩ := (bind_ok_iff ..).mp done
    cases same
    simp
  | codeBlock info literal =>
    obtain ⟨html,_,same⟩ := (bind_ok_iff ..).mp done
    cases same
    simp
  | _ =>
    cases done
    simp

theorem demands_asks (kinds : List Kind) (assets : List AssetCopy) (met : c.demands t h kinds = .ok assets) :
    ∀ a ∈ assets, ∃ kind ∈ kinds, c.Asks t kind a := by
  induction kinds generalizing assets with
  | nil =>
    cases met
    simp
  | cons kind rest ih =>
    obtain ⟨⟨kind',own⟩,first,later⟩ := (bind_ok_iff ..).mp met
    obtain ⟨more,further,same⟩ := (bind_ok_iff ..).mp later
    cases same
    intro a member
    rcases List.mem_append.mp member with early | late
    · exact ⟨kind,List.mem_cons_self,c.rewriteKind_asks t h kind kind' own first a early⟩
    · obtain ⟨other,listed,asks⟩ := ih more further a late
      exact ⟨other,List.mem_cons_of_mem _ listed,asks⟩

/-- The kinds of a document decide what it is rendered to, and where it looks for files. -/
theorem render_demands (markdown : String) : c.render t markdown h =
    c.demands t h (parse markdown).kinds >>= fun assets => pure
      ⟨((Markdown.Node.anchored c.levels (parse markdown)).mapKinds (c.shownKind h)).toHtml,assets⟩ := by
  rw [render,Markdown.Node.rewrite_eq c h t _ (parse_headingsInline markdown)]
  unfold Markdown.Node.shows
  cases c.demands t h (parse markdown).kinds <;> rfl

theorem render_asks (markdown : String) (rendered : RenderedDocument)
    (done : c.render t markdown h = .ok rendered) :
    ∀ a ∈ rendered.assets, ∃ kind ∈ (parse markdown).kinds, c.Asks t kind a := by
  rw [render_demands] at done
  obtain ⟨copies,met,same⟩ := (bind_ok_iff ..).mp done
  have listed : rendered.assets = copies := (congrArg RenderedDocument.assets (Except.ok.inj same)).symm
  rw [listed]
  exact c.demands_asks t h _ copies met

end RenderContext
end ReferenceSite
