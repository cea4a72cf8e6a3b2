import ReferenceSite.Proofs.Page.ShownTree

/-! Rendering as a walk that edits the document where it stands. The nodes are listed once, in the order of the
text; then one after the other is edited in the tree, a heading by taking the marker out of what it holds and
putting the anchor in front of it. Nodes are found by how many siblings stand behind them at each step down,
which an anchor in front does not change. What has been edited so far stands in front of what is left, so that
the walk is followed with any finished siblings in front. It ends with the tree that the rewriting makes. -/
namespace ReferenceSite
open ReferenceSite.Markdown

namespace Markdown.Node

/-! ### Spots in a tree -/

mutual
/-- The spots of a node and of everything inside it, in the order of the text. A spot counts the siblings
behind each node on the way to it. -/
def spots : Node → List (List Nat)
  | node _ children => [] :: spotsAll children

def spotsAll : List Node → List (List Nat)
  | [] => []
  | n :: rest => (spots n).map (rest.length :: ·) ++ spotsAll rest
end

/-- What is done to a node: the node instead of it, and the copies that are asked for. -/
abbrev Edit := Node → Except RenderFault (Node × List AssetCopy)

mutual
def editAt (edit : Edit) (spot : List Nat) (n : Node) : Except RenderFault (Node × List AssetCopy) :=
  match n,spot with
  | n,[] => edit n
  | node kind children,i :: spot => do
    let (children,assets) ← editAmong edit i spot children
    pure (node kind children,assets)

def editAmong (edit : Edit) (i : Nat) (spot : List Nat) (nodes : List Node) :
    Except RenderFault (List Node × List AssetCopy) :=
  match nodes with
  | [] => pure ([],[])
  | n :: rest =>
    if rest.length = i then do
      let (n,assets) ← editAt edit spot n
      pure (n :: rest,assets)
    else do
      let (rest,assets) ← editAmong edit i spot rest
      pure (n :: rest,assets)
end

/-- Edits one spot after the other. -/
def editEach (edit : Edit) : List (List Nat) → Edit
  | [],n => pure (n,[])
  | spot :: later,n => do
    let (n,own) ← editAt edit spot n
    let (n,more) ← editEach edit later n
    pure (n,own ++ more)

/-- What is done to a node of a document when its turn comes. -/
def visit (c : RenderContext) (t : FileTree) (h : Highlighter) : Edit
  | node (.heading level) children => pure (node (.heading level) (anchorHeading c.levels level children),[])
  | node kind children => do
    let (kind,own) ← c.rewriteKind t kind h
    pure (node kind children,own)

/-- The document after all its nodes, as they were listed before the first edit, had their turn. -/
def editInPlace (c : RenderContext) (t : FileTree) (h : Highlighter) : Edit := fun n =>
  editEach (visit c t h) n.spots n

/-! ### Edits inside one node -/

section Edit
variable (edit : Edit)

theorem editEach_append (before after : List (List Nat)) (n : Node) :
    editEach edit (before ++ after) n = editEach edit before n >>= fun first =>
      editEach edit after first.1 >>= fun later => pure (later.1,first.2 ++ later.2) := by
  induction before generalizing n with
  | nil =>
    rw [List.nil_append,editEach]
    cases done : editEach edit after n <;> simp [bind,Except.bind,pure,Except.pure,done]
  | cons spot before ih =>
    simp only [List.cons_append,editEach,ih]
    cases editAt edit spot n with
    | error fault => rfl
    | ok first =>
      cases second : editEach edit before first.1 with
      | error fault => simp [bind,Except.bind,second]
      | ok later =>
        cases third : editEach edit after later.1 <;>
          simp [bind,Except.bind,pure,Except.pure,second,third]

theorem editAmong_here (spot : List Nat) (front rest : List Node) (n : Node) :
    editAmong edit rest.length spot (front ++ n :: rest) = editAt edit spot n >>= fun done =>
      pure (front ++ done.1 :: rest,done.2) := by
  induction front with
  | nil =>
    rw [List.nil_append,editAmong,if_pos rfl]
    rfl
  | cons m front ih =>
    have behind : (front ++ n :: rest).length ≠ rest.length := by
      simp only [List.length_append,List.length_cons]
      omega
    rw [List.cons_append,editAmong,if_neg behind,ih]
    cases editAt edit spot n <;> rfl

/-- Edits at spots inside one child leave its siblings alone. -/
theorem editEach_inside (spots : List (List Nat)) (kind : Kind) (front rest : List Node) (n : Node) :
    editEach edit (spots.map (rest.length :: ·)) (node kind (front ++ n :: rest)) =
      editEach edit spots n >>= fun done => pure (node kind (front ++ done.1 :: rest),done.2) := by
  induction spots generalizing n with
  | nil => rfl
  | cons spot spots ih =>
    rw [List.map_cons,editEach,editAt,editAmong_here,editEach]
    cases editAt edit spot n with
    | error fault => rfl
    | ok first =>
      have later := ih first.1
      cases further : editEach edit spots first.1 <;>
        simp [bind,Except.bind,pure,Except.pure,later,further]

end Edit

section Visit
variable (c : RenderContext) (t : FileTree) (h : Highlighter)

/-- The walk through siblings, behind siblings that are done. -/
theorem editEach_all (kind : Kind) (front todo : List Node) (map : Node → Node)
    (each : ∀ n ∈ todo, editInPlace c t h n = shows c t h n.kinds (map n)) :
    editEach (visit c t h) (spotsAll todo) (node kind (front ++ todo)) =
      shows c t h (kindsAll todo) (node kind (front ++ todo.map map)) := by
  induction todo generalizing front with
  | nil => rfl
  | cons n rest ih =>
    obtain ⟨first,later⟩ := List.forall_mem_cons.mp each
    rw [spotsAll,editEach_append,editEach_inside,← editInPlace,first,kindsAll_cons]
    simp only [shows,RenderContext.demands_append]
    cases c.demands t h n.kinds with
    | error fault => rfl
    | ok own =>
      have others := ih (front ++ [map n]) later
      simp only [List.append_assoc,List.singleton_append] at others
      simp only [bind,Except.bind,pure,Except.pure,others,List.map_cons]
      cases further : c.demands t h (kindsAll rest) <;>
        simp [shows,bind,Except.bind,pure,Except.pure,further]

/-- The walk through a node whose own turn leaves what is to be walked through behind finished nodes. -/
theorem editInPlace_node (kind : Kind) (children front todo : List Node) (map : Node → Node)
    (turn : visit c t h (node kind children) = c.rewriteKind t kind h >>= fun own =>
      pure (node (c.shownKind h kind) (front ++ todo),own.2))
    (listed : spotsAll todo = spotsAll children)
    (demanded : c.demands t h (kindsAll todo) = c.demands t h (kindsAll children))
    (each : ∀ n ∈ todo, editInPlace c t h n = shows c t h n.kinds (map n)) :
    editInPlace c t h (node kind children) =
      shows c t h (node kind children).kinds (node (c.shownKind h kind) (front ++ todo.map map)) := by
  rw [editInPlace,spots,editEach,editAt,turn,← listed,kinds_node,shows,RenderContext.demands,← demanded]
  cases c.rewriteKind t kind h with
  | error fault => rfl
  | ok own =>
    have inside := editEach_all c t h (c.shownKind h kind) front todo map each
    simp only [bind,Except.bind,pure,Except.pure,inside,shows]
    cases c.demands t h (kindsAll todo) <;> rfl

theorem visit_node (kind : Kind) (children : List Node) (other : ∀ level, kind ≠ .heading level) :
    visit c t h (node kind children) = c.rewriteKind t kind h >>= fun own =>
      pure (node (c.shownKind h kind) children,own.2) := by
  have turn : visit c t h (node kind children) = c.rewriteKind t kind h >>= fun own =>
      pure (node own.1 children,own.2) := by
    cases kind <;> first | rfl | exact absurd rfl (other _)
  rw [turn,RenderContext.rewriteKind_bind]

end Visit

/-! ### Headings -/

mutual
theorem spots_takeMarker? (n n' : Node) (name : String) (found : takeMarker? n = some (name,n')) :
    n'.spots = n.spots := by
  obtain ⟨kind,children⟩ := n
  by_cases spoken : ∃ s, kind = .text s
  · obtain ⟨s,rfl⟩ := spoken
    obtain ⟨⟨_,rest⟩,_,same⟩ := Option.map_eq_some_iff.mp found
    cases same
    rw [spots,spots]
  · rw [takeMarker?_node kind children fun s same => spoken ⟨s,same⟩] at found
    obtain ⟨⟨_,children'⟩,taken,same⟩ := Option.map_eq_some_iff.mp found
    cases same
    rw [spots,spots,(spotsAll_takeMarkerAll? children children' _ taken).1]

theorem spotsAll_takeMarkerAll? (nodes nodes' : List Node) (name : String)
    (found : takeMarkerAll? nodes = some (name,nodes')) :
    spotsAll nodes' = spotsAll nodes ∧ nodes'.length = nodes.length := by
  cases nodes with
  | nil => cases found
  | cons n rest =>
    simp only [takeMarkerAll?] at found
    cases own : takeMarker? n with
    | some taken =>
      obtain ⟨_,n'⟩ := taken
      rw [own] at found
      cases found
      rw [spotsAll,spotsAll,spots_takeMarker? n n' _ own]
      exact ⟨rfl,rfl⟩
    | none =>
      rw [own] at found
      obtain ⟨⟨_,rest'⟩,taken,same⟩ := Option.map_eq_some_iff.mp found
      cases same
      obtain ⟨listed,length⟩ := spotsAll_takeMarkerAll? rest rest' _ taken
      rw [spotsAll,spotsAll,listed,List.length_cons,List.length_cons,length]
      exact ⟨rfl,rfl⟩
end

theorem isInline_iff (nodes : List Node) : (∀ n ∈ nodes, n.IsInline) ↔ ∀ kind ∈ kindsAll nodes, kind.IsInline := by
  rw [kindsAll,List.forall_mem_map,forall_mem_preorderAll]
  rfl

/-- The turn of a heading: an anchor if it gets one, and behind it what was there without a marker. -/
structure Opens (c : RenderContext) (children front todo : List Node) : Prop where
  shown : ∀ h, mapKindsAll (c.shownKind h) front = front
  listed : spotsAll todo = spotsAll children
  demanded : ∀ t h, c.demands t h (kindsAll todo) = c.demands t h (kindsAll children)
  inline : (∀ n ∈ children, n.IsInline) → ∀ n ∈ todo, n.IsInline

theorem Opens.same (c : RenderContext) (children front : List Node)
    (shown : ∀ h, mapKindsAll (c.shownKind h) front = front) : Opens c children front children :=
  ⟨shown,rfl,fun _ _ => rfl,id⟩

theorem Opens.unmarked (c : RenderContext) (children front todo : List Node) (name : String)
    (shown : ∀ h, mapKindsAll (c.shownKind h) front = front)
    (taken : takeMarkerAll? children = some (name,todo)) : Opens c children front todo := by
  obtain ⟨first,s,rest,last,was,is,_⟩ := takeMarkerAll?_unmarks children todo name taken
  refine ⟨shown,(spotsAll_takeMarkerAll? children todo name taken).1,?_,?_⟩
  · intro t h
    rw [was,is]
    exact c.demands_text t h first last s rest
  · intro inline
    rw [isInline_iff,was] at inline
    rw [isInline_iff,is]
    intro kind member
    rcases List.mem_append.mp member with early | late
    · exact inline kind (List.mem_append_left _ early)
    · rcases List.mem_cons.mp late with rfl | later
      · trivial
      · exact inline kind (List.mem_append_right _ (List.mem_cons_of_mem _ later))

theorem anchorHeading_opens (c : RenderContext) (level : Nat) (children : List Node) :
    ∃ front todo, anchorHeading c.levels level children = front ++ todo ∧ Opens c children front todo := by
  have anchor (name : String) (h : Highlighter) :
      mapKindsAll (c.shownKind h) [leaf (.htmlInline (Anchor.html name))] =
        [leaf (.htmlInline (Anchor.html name))] := rfl
  unfold anchorHeading
  cases taken : takeMarkerAll? children with
  | some found => exact ⟨[_],found.2,rfl,.unmarked c children _ _ found.1 (anchor _) taken⟩
  | none =>
    cases Anchor.implicit? (wording children) level c.levels.1 c.levels.2 with
    | some name => exact ⟨[_],children,rfl,.same c children _ (anchor name)⟩
    | none => exact ⟨[],children,rfl,.same c children [] fun _ => rfl⟩

section Walk
variable (c : RenderContext) (t : FileTree) (h : Highlighter)

mutual
/-- Where there is no heading, the walk changes kinds only. -/
theorem editInPlace_inline (n : Node) (inline : n.IsInline) :
    editInPlace c t h n = shows c t h n.kinds (mapKinds (c.shownKind h) n) := by
  obtain ⟨kind,children⟩ := n
  obtain ⟨own,inside⟩ := (holds_node _ _).mp inline
  have other (level : Nat) (same : kind = .heading level) : False := by
    rw [same] at own
    exact own
  have turn := visit_node c t h kind children other
  rw [mapKinds,mapKindsAll_eq_map]
  exact editInPlace_node c t h kind children [] children _ turn rfl rfl (editInPlace_inlineAll children inside)

theorem editInPlace_inlineAll (nodes : List Node) (inline : ∀ n ∈ nodes, n.IsInline) :
    ∀ n ∈ nodes, editInPlace c t h n = shows c t h n.kinds (mapKinds (c.shownKind h) n) := by
  cases nodes with
  | nil => simp
  | cons n rest =>
    obtain ⟨first,later⟩ := List.forall_mem_cons.mp inline
    exact List.forall_mem_cons.mpr ⟨editInPlace_inline n first,editInPlace_inlineAll rest later⟩
end

mutual
theorem editInPlace_eq (n : Node) (apart : n.HeadingsInline) :
    editInPlace c t h n = shows c t h n.kinds (mapKinds (c.shownKind h) (anchored c.levels n)) := by
  obtain ⟨kind,children⟩ := n
  obtain ⟨own,inside⟩ := (headingsInline_node _ _).mp apart
  by_cases heads : ∃ level, kind = .heading level
  · obtain ⟨level,rfl⟩ := heads
    obtain ⟨front,todo,opened,opens⟩ := anchorHeading_opens c level children
    have shown : mapKinds (c.shownKind h) (anchored c.levels (node (.heading level) children)) =
        node (.heading level) (front ++ todo.map (mapKinds (c.shownKind h))) := by
      rw [anchored,opened,mapKinds,mapKindsAll_eq_map,List.map_append,← mapKindsAll_eq_map _ front,opens.shown h]
      rfl
    rw [shown]
    refine editInPlace_node c t h (.heading level) children front todo _ ?_ opens.listed (opens.demanded t h)
      (editInPlace_inlineAll c t h todo (opens.inline (own level rfl)))
    rw [visit,opened]
    rfl
  · have other (level : Nat) (same : kind = .heading level) : False := heads ⟨level,same⟩
    have shown : mapKinds (c.shownKind h) (anchored c.levels (node kind children)) =
        node (c.shownKind h kind) (children.map fun n => mapKinds (c.shownKind h) (anchored c.levels n)) := by
      rw [anchored_node c.levels kind children other,mapKinds,mapKindsAll_eq_map,anchoredAll_eq_map,List.map_map]
      rfl
    rw [shown]
    exact editInPlace_node c t h kind children [] children _ (visit_node c t h kind children other) rfl rfl
      (editInPlace_eqAll children inside)

theorem editInPlace_eqAll (nodes : List Node) (apart : ∀ n ∈ nodes, n.HeadingsInline) :
    ∀ n ∈ nodes, editInPlace c t h n =
      shows c t h n.kinds (mapKinds (c.shownKind h) (anchored c.levels n)) := by
  cases nodes with
  | nil => simp
  | cons n rest =>
    obtain ⟨first,later⟩ := List.forall_mem_cons.mp apart
    exact List.forall_mem_cons.mpr ⟨editInPlace_eq n first,editInPlace_eqAll rest later⟩
end

/-- The walk through a tree makes what the rewriting makes, and fails where it fails. -/
theorem editInPlace_rewrite (n : Node) (apart : n.HeadingsInline) :
    editInPlace c t h n = rewrite c t n h := by
  rw [editInPlace_eq c t h n apart,rewrite_eq c h t n apart]

/-- What a tree without headings inside headings is rewritten to is what the walk in place leaves behind. It is the
tree in which headings got their anchors and lost their markers, and then every node took the kind it is shown as. -/
theorem rewrite_map (n page : Node) (assets : List AssetCopy) (apart : n.HeadingsInline)
    (done : rewrite c t n h = .ok (page,assets)) : editInPlace c t h n = .ok (page,assets) ∧
      page = mapKinds (c.shownKind h) (anchored c.levels n) ∧
      ∀ info literal, .codeBlock info literal ∈ n.kinds → ∃ html, h info literal = .ok html := by
  refine ⟨(editInPlace_rewrite c t h n apart).trans done,?_⟩
  rw [rewrite_eq c h t n apart] at done
  obtain ⟨copies,met,same⟩ := (bind_ok_iff ..).mp done
  cases same
  exact ⟨rfl,c.shown_of_demands t h _ _ met⟩

end Walk
end Markdown.Node

namespace RenderContext
open Markdown.Node

/-- The tree that becomes the page is what the walk in place leaves behind. It is the tree of the document in
which headings got their anchors and lost their markers, and then every node took the kind it is shown as. -/
theorem render_map (c : RenderContext) (t : FileTree) (h : Highlighter) (markdown : String)
    (doc : RenderedDocument) (done : c.render t markdown h = .ok doc) :
    ∃ page, editInPlace c t h (parse markdown) = .ok (page,doc.assets) ∧
      rewrite c t (parse markdown) h = .ok (page,doc.assets) ∧ doc.html = page.toHtml ∧
      page = mapKinds (c.shownKind h) (anchored c.levels (parse markdown)) ∧
      ∀ info literal, .codeBlock info literal ∈ (parse markdown).kinds → ∃ html, h info literal = .ok html := by
  unfold render at done
  obtain ⟨⟨page,assets⟩,rewritten,same⟩ := (bind_ok_iff ..).mp done
  cases same
  obtain ⟨walked,mapped⟩ := rewrite_map c t h _ page assets (parse_headingsInline markdown) rewritten
  exact ⟨page,walked,rewritten,rfl,mapped⟩

/-! A heading with a link and a marker, above indented code. -/

def marked : String := "## [a](/docs/b.md) \x7b#c\x7d\n\n    x\n"

def plainly : Highlighter := fun _ code => .ok code

private theorem parse_marked : parse marked = .node .document
    [.node (.heading 2) [.node (.link "/docs/b.md" "") [.leaf (.text "a")],.leaf (.text " \x7b#c\x7d")],
      .leaf (.codeBlock "" "x\n")] := by
  have shapes : blocks marked.toList =
      ([],[.block (.heading 2) "[a](/docs/b.md) \x7b#c\x7d".toList true [],
        .block .indented "x\n".toList false []]) := by with_unfolding_all rfl
  have inside : inlines [] "[a](/docs/b.md) \x7b#c\x7d".toList =
      [.node (.link "/docs/b.md" "") [.leaf (.text "a")],.leaf (.text " \x7b#c\x7d")] := by with_unfolding_all rfl
  rw [parse,shapes]
  simp only [Block.toNodes,Block.toNode,inside]
  rfl

/-- The link loses the ending of its file, the marker becomes an anchor, and the code the site's element. -/
theorem marked_shown :
    standing.render sparse marked plainly = .ok ⟨"<h2><a name=\"c\" class=\"anchor\" href=\"#c\"></a>" ++
      "<a href=\"/docs/b\">a</a></h2>\n<code class=\"hljs code-block\">x\n</code>\n",[]⟩ ∧
    ∃ page, editInPlace standing sparse plainly (parse marked) = .ok (page,[]) ∧
      rewrite standing sparse (parse marked) plainly = .ok (page,[]) ∧
      page = mapKinds (standing.shownKind plainly) (anchored standing.levels (parse marked)) := by
  have done : standing.render sparse marked plainly =
      .ok ⟨"<h2><a name=\"c\" class=\"anchor\" href=\"#c\"></a>" ++
        "<a href=\"/docs/b\">a</a></h2>\n<code class=\"hljs code-block\">x\n</code>\n",[]⟩ := by
    rw [render,parse_marked]
    decide +kernel
  obtain ⟨page,walked,rewritten,_,mapped,_⟩ := render_map standing sparse plainly marked _ done
  exact ⟨done,page,walked,rewritten,mapped⟩

end RenderContext
end ReferenceSite
