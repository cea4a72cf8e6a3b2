import ReferenceSite.Markdown.Html

/-! What a page shows of the nodes of a document. Fragments without a line start between them are written
next to each other, and what a node writes wherever it stands is written by every node around it that
shows what is inside it. -/
namespace ReferenceSite.Markdown

theorem layout_append (fresh : Bool) (first second : List Fragment) :
    ∃ fresh', layout fresh (first ++ second) = layout fresh first ++ layout fresh' second := by
  induction first generalizing fresh with
  | nil => exact ⟨fresh,rfl⟩
  | cons f first ih =>
    cases f with
    | raw s =>
      obtain ⟨fresh',same⟩ := ih (if s.isEmpty then fresh else s.getLast? == some '\n')
      exact ⟨fresh',by rw [List.cons_append,layout,layout,same,List.append_assoc]⟩
    | lineStart =>
      obtain ⟨fresh',same⟩ := ih true
      refine ⟨fresh',?_⟩
      cases fresh <;> simp [layout,same]

theorem layout_raws (fresh : Bool) (texts : List (List Char)) :
    layout fresh (texts.map .raw) = texts.flatten := by
  induction texts generalizing fresh with
  | nil => rfl
  | cons s texts ih => simp [layout,ih]

theorem layout_infix (fresh : Bool) (texts : List (List Char)) (fragments : List Fragment)
    (written : texts.map .raw <:+: fragments) : texts.flatten <:+: layout fresh fragments := by
  obtain ⟨before,after,rfl⟩ := written
  obtain ⟨middle,split⟩ := layout_append fresh (before ++ texts.map .raw) after
  obtain ⟨inner,front⟩ := layout_append fresh before (texts.map .raw)
  rw [split,front,layout_raws]
  exact ⟨_,_,rfl⟩

/-- Shows what is inside it. -/
def Kind.shows : Kind → Bool
  | .codeBlock .. | .htmlBlock _ | .thematicBreak | .text _ | .softBreak | .lineBreak | .code _
  | .htmlInline _ | .image .. => false
  | _ => true

namespace Node

/-- Writes these texts next to each other, wherever it stands. -/
def Writes (n : Node) (texts : List (List Char)) : Prop := ∀ p, texts.map .raw <:+: fragments p n

variable {texts : List (List Char)}

theorem Writes.all {n : Node} (writes : n.Writes texts) (nodes : List Node) (member : n ∈ nodes) (p : Place) :
    texts.map .raw <:+: fragmentsAll p nodes := by
  induction nodes generalizing p with
  | nil => simp at member
  | cons m nodes ih =>
    rw [fragmentsAll]
    rcases List.mem_cons.mp member with rfl | later
    · exact (writes p).trans (List.prefix_append _ _).isInfix
    · exact (ih later _).trans (List.suffix_append _ _).isInfix

theorem Writes.cells {n : Node} (writes : n.Writes texts) (nodes : List Node) (member : n ∈ nodes) (head : Bool)
    (alignments : List Alignment) : texts.map .raw <:+: cellFragments head alignments nodes := by
  induction nodes generalizing alignments with
  | nil => simp at member
  | cons m nodes ih =>
    rw [cellFragments]
    rcases List.mem_cons.mp member with rfl | later
    · exact (writes .plain).trans ⟨_,_,rfl⟩
    · have rest := ih later (alignments.drop 1)
      exact rest.trans ((List.suffix_cons _ _).isInfix.trans (List.suffix_append _ _).isInfix)

theorem Writes.inside {n : Node} (writes : n.Writes texts) (kind : Kind) (shows : kind.shows = true)
    (children : List Node) (member : n ∈ children) : (node kind children).Writes texts := by
  intro p
  have within := writes.all children member
  cases kind with
  | codeBlock | htmlBlock | thematicBreak | text | softBreak | lineBreak | code | htmlInline | image => cases shows
  | document | tableCell =>
    rw [fragments]
    exact within _
  | paragraph =>
    rw [fragments]
    split
    · exact within _
    · exact (within _).trans ⟨_,_,rfl⟩
  | tableRow header =>
    rw [fragments]
    exact (writes.cells children member header _).trans ⟨_,_,by simp only [List.append_assoc]; rfl⟩
  | emphasis | strong | strikethrough =>
    rw [fragments]
    exact (within _).trans ((List.suffix_cons _ _).isInfix.trans (List.prefix_append _ _).isInfix)
  | list =>
    unfold fragments
    exact (within _).trans ⟨_,_,by simp only [List.append_assoc]; rfl⟩
  | _ =>
    rw [fragments]
    exact (within _).trans ⟨_,_,by simp only [List.append_assoc]; rfl⟩

theorem Writes.toHtml {n : Node} (writes : n.Writes texts) : texts.flatten <:+: n.toHtml.toList := by
  rw [Node.toHtml,String.toList_ofList]
  exact layout_infix true texts _ (writes .plain)

/-- A raw tag is written as it is. -/
theorem writes_htmlInline (html : String) : (leaf (.htmlInline html)).Writes [html.toList] := by
  intro p
  rw [leaf,fragments]
  exact List.infix_rfl

/-- A link without a title opens with its address. -/
theorem writes_link (url : String) (children : List Node) :
    (node (.link url "") children).Writes
      ["<a href=\"".toList,escapeHref url.toList,[],"\">".toList] := by
  intro p
  rw [fragments]
  exact ⟨[],_,rfl⟩

end Node
end ReferenceSite.Markdown
