import ReferenceSite.Proofs.Markdown.NodeKinds

/-! Texts are leaves. Neither the reading of a line nor the structure of the blocks gives texts anything to
hold, so that in a document no text holds another node. -/
namespace ReferenceSite.Markdown

/-- No text in the node, itself included, holds other nodes. -/
def Node.EndsInTexts (n : Node) : Prop := ∀ m ∈ n.preorder, ∀ s, m.kind = .text s → m.children = []

theorem Node.endsInTexts_node (kind : Kind) (children : List Node) : (Node.node kind children).EndsInTexts ↔
    (∀ s, kind = .text s → children = []) ∧ ∀ n ∈ children, n.EndsInTexts := by
  rw [EndsInTexts,preorder,List.forall_mem_cons,forall_mem_preorderAll]
  rfl

theorem Node.endsInTexts_leaf (kind : Kind) : (Node.leaf kind).EndsInTexts :=
  (endsInTexts_node kind []).mpr ⟨fun _ _ => rfl,by simp⟩

theorem inlines_endsInTexts (references : References) (s : List Char) :
    ∀ n ∈ inlines references s, n.EndsInTexts :=
  fun n member m inside => (inlines_isRead references s n member m inside).ends

mutual
theorem toNode_endsInTexts (references : References) (b : Block) : (b.toNode references).EndsInTexts := by
  obtain ⟨shape,text,_,children⟩ := b
  have inside := toNodes_endsInTexts references children
  have line := inlines_endsInTexts references text
  cases shape <;> simp only [Block.toNode,Node.endsInTexts_leaf,Node.endsInTexts_node]
  all_goals exact ⟨nofun,by first | exact inside | exact line⟩

theorem toNodes_endsInTexts (references : References) (blocks : List Block) :
    ∀ n ∈ Block.toNodes references blocks, n.EndsInTexts := by
  cases blocks with
  | nil => simp [Block.toNodes]
  | cons b rest =>
    exact List.forall_mem_cons.mpr ⟨toNode_endsInTexts references b,toNodes_endsInTexts references rest⟩
end

theorem parse_endsInTexts (text : String) : (parse text).EndsInTexts :=
  (Node.endsInTexts_node _ _).mpr ⟨nofun,toNodes_endsInTexts _ _⟩

mutual
theorem Node.preorder_subset (n m : Node) (inside : m ∈ n.preorder) : m.preorder ⊆ n.preorder := by
  obtain ⟨kind,children⟩ := n
  rcases List.mem_cons.mp inside with rfl | within
  · exact List.Subset.refl _
  · exact List.subset_cons_of_subset _ (preorderAll_subset children m within)

theorem Node.preorderAll_subset (nodes : List Node) (m : Node) (inside : m ∈ preorderAll nodes) :
    m.preorder ⊆ preorderAll nodes := by
  cases nodes with
  | nil => cases inside
  | cons n rest =>
    rcases List.mem_append.mp inside with first | later
    · exact List.subset_append_of_subset_left _ (preorder_subset n m first)
    · exact List.subset_append_of_subset_right _ (preorderAll_subset rest m later)
end

/-- What a node of a document holds, for instance a heading, holds its texts as leaves. -/
theorem parse_inside_endsInTexts (text : String) (n : Node) (inside : n ∈ (parse text).preorder) :
    ∀ m ∈ n.children, m.EndsInTexts := by
  obtain ⟨kind,children⟩ := n
  have ends : (Node.node kind children).EndsInTexts := fun m member =>
    parse_endsInTexts text m (Node.preorder_subset _ _ inside member)
  exact ((Node.endsInTexts_node kind children).mp ends).2

end ReferenceSite.Markdown
