import ReferenceSite.Proofs.Link.Class
import ReferenceSite.Proofs.Page.DeadReferences
import ReferenceSite.Proofs.Reference.SectionText

/-! Which references of a reference page can be dead: the links to the defining files, and what the
comments hold. Titles, links between sections and the words of the tables never are. -/
namespace ReferenceSite
open ReferenceSite.Text ReferenceSite.Markdown

/-! Links that lead into the repository begin with a slash or with two dots. -/

theorem LinkPolicy.classify_repository (p : LinkPolicy) (a : Address.Parser) (href path : String)
    (kind : p.classify href a = .repository path) :
    href.toList.head? = some '/' ∨ href.toList.head? = some '.' := by
  obtain ⟨_,own,found,_⟩ := (classify_repository_iff p a href path).mp kind
  obtain ⟨slash,same | climbing⟩ := repositoryPath?_eq_some _ own found
  · exact .inl (same ▸ slash)
  · exact .inr (by simp [climbing])

namespace Markdown

/-- No reference in the node, at any depth, is dead. -/
def Node.IsAlive (c : RenderContext) (t : FileTree) (n : Node) : Prop :=
  ∀ m ∈ n.preorder, ∀ target, ¬ c.Dead t m.kind target

section Alive
variable (c : RenderContext) (t : FileTree)

theorem Node.isAlive_node (kind : Kind) (children : List Node) :
    (Node.node kind children).IsAlive c t ↔
      (∀ target, ¬ c.Dead t kind target) ∧ ∀ n ∈ children, n.IsAlive c t := by
  rw [IsAlive,preorder,List.forall_mem_cons,forall_mem_preorderAll]
  rfl

/-- Kinds that refer to nothing. -/
theorem not_dead_of_other (kind : Kind) (other : ∀ url title, kind ≠ .link url title ∧ kind ≠ .image url title)
    (target : String) : ¬ c.Dead t kind target := by
  intro dead
  cases dead with
  | link => exact (other _ _).1 rfl
  | image => exact (other _ _).2 rfl

theorem not_dead_link (url title : String) (outward : url.toList.head? ≠ some '/' ∧ url.toList.head? ≠ some '.')
    (target : String) : ¬ c.Dead t (.link url title) target := by
  intro dead
  cases dead with
  | link kind _ => exact (c.links.classify_repository c.addresses url _ kind).elim outward.1 outward.2

theorem Node.IsTame.isAlive {n : Node} (tame : n.IsTame) : n.IsAlive c t := by
  intro m member target
  cases shape : m.kind with
  | link url title =>
    have kept := tame m member
    rw [shape] at kept
    cases kept with
    | link first => exact not_dead_link c t url title (by simp [first]) target
  | image url title =>
    have kept := tame m member
    rw [shape] at kept
    cases kept
  | _ => exact not_dead_of_other c t _ (by simp) target

/-- Where all code is shown, only a dead reference stops a document from being rendered. -/
theorem render_outcome (h : Highlighter) (shown : ∀ info literal, ∃ html, h info literal = .ok html)
    (markdown : String) :
    (parse markdown).IsAlive c t ∧ (∃ page, c.render t markdown h = .ok page) ∨
      ¬ (parse markdown).IsAlive c t ∧ ∃ target, c.render t markdown h = .error (.deadLink c.document target) := by
  have refused := exists_firstIn (fun n : Node => c.Refuses t h n.kind) (parse markdown).preorder
  have dead (n : Node) (fault : RenderFault) : c.Refuses t h n.kind fault ↔
      ∃ target, c.Dead t n.kind target ∧ fault = .deadLink c.document target :=
    c.refuses_shown t h n.kind (fun info literal _ => shown info literal) fault
  simp only [← c.render_error_iff t h,dead] at refused
  cases outcome : c.render t markdown h with
  | ok page =>
    refine .inl ⟨fun n member target found => ?_,page,rfl⟩
    obtain ⟨fault,failed⟩ := refused.mpr ⟨n,member,_,target,found,rfl⟩
    rw [outcome] at failed
    cases failed
  | error fault =>
    obtain ⟨n,member,_,target,found,_⟩ := refused.mp ⟨fault,outcome⟩
    refine .inr ⟨fun alive => alive n member target found,?_⟩
    obtain ⟨before,m,after,_,_,refuses⟩ := (c.render_error_iff t h markdown fault).mp outcome
    obtain ⟨first,_,rfl⟩ := (dead m fault).mp refuses
    exact ⟨first,rfl⟩

theorem render_ok_iff_isAlive (h : Highlighter) (shown : ∀ info literal, ∃ html, h info literal = .ok html)
    (markdown : String) :
    (∃ page, c.render t markdown h = .ok page) ↔ (parse markdown).IsAlive c t := by
  rcases render_outcome c t h shown markdown with ⟨alive,rendered⟩ | ⟨dead,target,failed⟩
  · exact iff_of_true rendered alive
  · exact iff_of_false (fun ⟨page,rendered⟩ => by simp [failed] at rendered) dead

end Alive
end Markdown

namespace Reference

def sourceLink (file : String) : Kind := .link (.ofList (fileAddress file)) ""

/-- What the comments of a type are read as. -/
def commentNodes (d : TypeDef) : List Node :=
  (if d.prose = [] then [] else inlines [] (d.prose ++ ['\n'])) ++
    (bodyRows d.body).flatMap fun r => inlines [] (trimSpace r.2.2)

section Alive
variable (c : RenderContext) (t : FileTree)

theorem leaf_isAlive (kind : Kind) (other : ∀ url title, kind ≠ .link url title ∧ kind ≠ .image url title) :
    (Node.leaf kind).IsAlive c t :=
  (Node.isAlive_node c t _ _).mpr ⟨not_dead_of_other c t kind other,by simp⟩

theorem code_isAlive (s : String) (within : IsCode s) :
    ∀ n ∈ inlines [] (code s).toList, n.IsAlive c t := by
  rw [code_inlines s within,List.forall_mem_singleton]
  exact leaf_isAlive c t _ (by simp)

theorem linkCell_isAlive (type name : String) (within : IsCode type) (named : IsName name) :
    ∀ n ∈ inlines [] (linkCell type name), n.IsAlive c t := by
  rw [linkCell_inlines type name within named,List.forall_mem_singleton,Node.isAlive_node,
    List.forall_mem_singleton]
  exact ⟨not_dead_link c t _ _ (by simp [anchorAddress]),leaf_isAlive c t _ (by simp)⟩

theorem fieldType_isAlive (f : Field) (printable : f.IsPrintable) :
    ∀ n ∈ inlines [] (fieldType f).toList, n.IsAlive c t := by
  cases linked : f.target with
  | none =>
    have same : fieldType f = code f.declaredType := by simp [fieldType,linked]
    exact same ▸ code_isAlive c t _ printable.type
  | some target =>
    have same : (fieldType f).toList = linkCell f.declaredType target.fullName := by
      rw [fieldType_toList,linked]
    exact same ▸ linkCell_isAlive c t _ _ printable.type (printable.target _ linked)

/-- Only the comment of a row can refer to anything. -/
theorem columns_isAlive (body : TypeBody) (printable : body.IsPrintable) :
    ∀ r ∈ bodyRows body, (∀ n ∈ inlines [] r.1, n.IsAlive c t) ∧ ∀ n ∈ inlines [] r.2.1, n.IsAlive c t := by
  cases body with
  | enumeration values =>
    intro r member
    obtain ⟨v,inside,rfl⟩ := List.mem_map.mp member
    exact ⟨code_isAlive c t _ (printable v inside).name,code_isAlive c t _ (number_isCode v.number)⟩
  | message fields =>
    intro r member
    obtain ⟨f,inside,rfl⟩ := List.mem_map.mp member
    exact ⟨code_isAlive c t _ (printable f inside).name,fieldType_isAlive c t f (printable f inside)⟩

theorem rowNode_isAlive (r : List Char × List Char × List Char) (first : ∀ n ∈ inlines [] r.1, n.IsAlive c t)
    (second : ∀ n ∈ inlines [] r.2.1, n.IsAlive c t) :
    (rowNode r).IsAlive c t ↔ ∀ n ∈ inlines [] (trimSpace r.2.2), n.IsAlive c t := by
  have quiet := not_dead_of_other c t
  rw [rowNode,Node.isAlive_node]
  simp only [List.map_cons,List.map_nil,List.forall_mem_cons,cellNode,Node.isAlive_node]
  exact ⟨fun alive => alive.2.2.2.1.2,fun alive => ⟨quiet _ (by simp),⟨quiet _ (by simp),first⟩,
    ⟨quiet _ (by simp),second⟩,⟨quiet _ (by simp),alive⟩,by simp⟩⟩

theorem bodyNode_isAlive (body : TypeBody) (printable : body.IsPrintable) :
    (bodyNode body).IsAlive c t ↔
      ∀ r ∈ bodyRows body, ∀ n ∈ inlines [] (trimSpace r.2.2), n.IsAlive c t := by
  have quiet := not_dead_of_other c t
  have columns := columns_isAlive c t body printable
  have head : (Node.node (.tableRow true)
      ((bodyHeads body).map fun head => cellNode head.toList)).IsAlive c t := by
    refine (Node.isAlive_node c t _ _).mpr ⟨quiet _ (by simp),fun n member => ?_⟩
    obtain ⟨s,inside,rfl⟩ := List.mem_map.mp member
    refine (Node.isAlive_node c t _ _).mpr ⟨quiet _ (by simp),?_⟩
    rw [opening_inlines body s (List.mem_cons_of_mem _ inside),List.forall_mem_singleton]
    exact leaf_isAlive c t _ (by simp)
  rw [bodyNode,Node.isAlive_node,List.forall_mem_cons,List.forall_mem_map]
  constructor
  · exact fun alive r member =>
      (rowNode_isAlive c t r (columns r member).1 (columns r member).2).mp (alive.2.2 r member)
  · exact fun alive => ⟨quiet _ (by simp),head,fun r member =>
      (rowNode_isAlive c t r (columns r member).1 (columns r member).2).mpr (alive r member)⟩

theorem sourceNode_isAlive (file : String) (signs : ∀ c ∈ file.toList, isFileSign c = true) :
    (Node.node .paragraph (inlines [] (sourceLine file ++ ['\n']))).IsAlive c t ↔
      ∀ target, ¬ c.Dead t (sourceLink file) target := by
  have quiet := not_dead_of_other c t
  obtain ⟨children,read,tame⟩ := sourceLine_inlines file signs
  rw [read,Node.isAlive_node,List.forall_mem_cons,List.forall_mem_singleton,Node.isAlive_node]
  exact ⟨fun alive => alive.2.2.1,fun alive => ⟨quiet _ (by simp),leaf_isAlive c t _ (by simp),alive,
    fun n member => (tame n member).isAlive c t⟩⟩

theorem proseNodes_isAlive (prose : List Char) : (∀ n ∈ proseNodes prose, n.IsAlive c t) ↔
    ∀ n ∈ (if prose = [] then [] else inlines [] (prose ++ ['\n'])), n.IsAlive c t := by
  have quiet := not_dead_of_other c t
  unfold proseNodes
  split
  · simp
  · rw [List.forall_mem_singleton,Node.isAlive_node]
    exact ⟨fun alive => alive.2,fun alive => ⟨quiet _ (by simp),alive⟩⟩

theorem section_isAlive (e : Entity) (printable : e.definition.IsPrintable) :
    (∀ n ∈ sectionNodes e, n.IsAlive c t) ↔
      (∀ target, ¬ c.Dead t (sourceLink e.definition.file) target) ∧
        ∀ n ∈ commentNodes e.definition, n.IsAlive c t := by
  have quiet := not_dead_of_other c t
  have titled : (Node.node (.heading (level e)) (inlines [] (title e.definition.fullName).toList)).IsAlive c t :=
    (Node.isAlive_node c t _ _).mpr ⟨quiet _ (by simp),fun n member =>
      (title_isTame _ printable.name n member).isAlive c t⟩
  have opened : (Node.node (.heading 4) (inlines [] (bodyTitle e.definition.body).toList)).IsAlive c t := by
    rw [opening_inlines e.definition.body _ (by simp)]
    exact (Node.isAlive_node c t _ _).mpr ⟨quiet _ (by simp),
      List.forall_mem_singleton.mpr (leaf_isAlive c t _ (by simp))⟩
  have source := sourceNode_isAlive c t e.definition.file printable.file
  have body := bodyNode_isAlive c t e.definition.body printable.body
  have prose := proseNodes_isAlive c t e.definition.prose
  simp only [sectionNodes,commentNodes,List.forall_mem_append,List.forall_mem_cons,List.forall_mem_flatMap,
    titled,opened,source,body,prose,List.not_mem_nil,false_imp_iff,implies_true,true_and,and_true]
  exact and_assoc.trans and_left_comm

/-- Nothing in the page is dead but for the links to the defining files and what the comments hold. -/
theorem parse_isAlive (es : List Entity) (printable : ∀ e ∈ es, e.definition.IsPrintable) :
    (parse (types es)).IsAlive c t ↔ ∀ e ∈ es, (∀ target, ¬ c.Dead t (sourceLink e.definition.file) target) ∧
      ∀ n ∈ commentNodes e.definition, n.IsAlive c t := by
  rw [parse_types es printable,Node.isAlive_node,List.forall_mem_flatMap]
  have each (e : Entity) (member : e ∈ es) := section_isAlive c t e (printable e member)
  exact ⟨fun alive e member => (each e member).mp (alive.2 e member),fun alive =>
    ⟨not_dead_of_other c t _ (by simp),fun e member => (each e member).mpr (alive e member)⟩⟩

end Alive
end Reference
end ReferenceSite
