import ReferenceSite.Page.Render
import ReferenceSite.Proofs.Files.Lexical
import ReferenceSite.Proofs.Outcome

/-! What a document is refused for. A link into the repository is dead if it climbs or leads to
nothing, an image of the documentation if there is no file. The first node in document order that is
refused decides the outcome, whatever it is inside of, and a document without one is rendered. -/
namespace ReferenceSite
open ReferenceSite.Markdown

/-! The first item of a list that brings anything. -/

def FirstIn {α β : Type} (brings : α → β → Prop) (items : List α) (b : β) : Prop :=
  ∃ before x after, items = before ++ x :: after ∧
    (∀ y ∈ before, ∀ other, ¬ brings y other) ∧ brings x b

section FirstIn
variable {α β γ : Type} {brings : α → β → Prop}

theorem firstIn_nil (b : β) : ¬ FirstIn brings [] b := by
  rintro ⟨before,x,after,same,_⟩
  simp at same

theorem firstIn_cons (x : α) (items : List α) (b : β) :
    FirstIn brings (x :: items) b ↔
      brings x b ∨ (∀ other, ¬ brings x other) ∧ FirstIn brings items b := by
  constructor
  · rintro ⟨before,y,after,same,quiet,found⟩
    cases before with
    | nil =>
      obtain ⟨rfl,rfl⟩ := List.cons.inj same
      exact .inl found
    | cons z before =>
      obtain ⟨rfl,rfl⟩ := List.cons.inj same
      refine .inr ⟨quiet x (by simp),before,y,after,rfl,?_,found⟩
      exact fun y member => quiet y (by simp [member])
  · rintro (found | ⟨silent,before,y,after,rfl,quiet,found⟩)
    · exact ⟨[],x,items,rfl,by simp,found⟩
    · exact ⟨x :: before,y,after,rfl,List.forall_mem_cons.mpr ⟨silent,quiet⟩,found⟩

theorem firstIn_append (first second : List α) (b : β) :
    FirstIn brings (first ++ second) b ↔ FirstIn brings first b ∨
      (∀ x ∈ first, ∀ other, ¬ brings x other) ∧ FirstIn brings second b := by
  induction first with
  | nil => simp [firstIn_nil]
  | cons x first ih =>
    rw [List.cons_append,firstIn_cons,firstIn_cons,ih,List.forall_mem_cons]
    constructor
    · rintro (found | ⟨silent,found | ⟨quiet,found⟩⟩)
      · exact .inl (.inl found)
      · exact .inl (.inr ⟨silent,found⟩)
      · exact .inr ⟨⟨silent,quiet⟩,found⟩
    · rintro ((found | ⟨silent,found⟩) | ⟨⟨silent,quiet⟩,found⟩)
      · exact .inl found
      · exact .inr ⟨silent,.inl found⟩
      · exact .inr ⟨silent,.inr ⟨quiet,found⟩⟩

theorem exists_firstIn (brings : α → β → Prop) (items : List α) :
    (∃ b, FirstIn brings items b) ↔ ∃ x ∈ items, ∃ b, brings x b := by
  constructor
  · rintro ⟨b,before,x,after,rfl,_,found⟩
    exact ⟨x,by simp,b,found⟩
  · rintro ⟨x,member,b,found⟩
    induction items with
    | nil => simp at member
    | cons y items ih =>
      by_cases early : ∃ other, brings y other
      · obtain ⟨other,early⟩ := early
        exact ⟨other,(firstIn_cons y items other).mpr (.inl early)⟩
      · have silent : ∀ other, ¬ brings y other := fun other early' => early ⟨other,early'⟩
        rcases List.mem_cons.mp member with rfl | later
        · exact absurd found (silent b)
        · obtain ⟨c,first⟩ := ih later
          exact ⟨c,(firstIn_cons y items c).mpr (.inr ⟨silent,first⟩)⟩

theorem firstIn_image (shown : γ → β) (kept : α → γ → Prop) (items : List α)
    (same : ∀ x ∈ items, ∀ b, brings x b ↔ ∃ c, kept x c ∧ b = shown c) (b : β) :
    FirstIn brings items b ↔ ∃ c, FirstIn kept items c ∧ b = shown c := by
  constructor
  · rintro ⟨before,x,after,rfl,quiet,found⟩
    obtain ⟨c,meant,rfl⟩ := (same x (by simp) b).mp found
    refine ⟨c,⟨before,x,after,rfl,?_,meant⟩,rfl⟩
    intro y member other early
    exact quiet y member (shown other) ((same y (by simp [member]) _).mpr ⟨other,early,rfl⟩)
  · rintro ⟨c,⟨before,x,after,rfl,quiet,meant⟩,rfl⟩
    refine ⟨before,x,after,rfl,?_,(same x (by simp) _).mpr ⟨c,meant,rfl⟩⟩
    intro y member other early
    obtain ⟨d,early,_⟩ := (same y (by simp [member]) other).mp early
    exact quiet y member d early

end FirstIn

/-! Links into the repository. -/

namespace Path

private theorem mem_slashes (cs : List Char) (segment : String) (named : segment ≠ "") :
    segment ∈ ((cs.dropWhile (· = '/')).splitOn '/').map String.ofList ↔
      segment ∈ (cs.splitOn '/').map String.ofList := by
  induction cs with
  | nil => rfl
  | cons c cs ih =>
    by_cases slash : c = '/'
    · subst slash
      have split : ('/' :: cs).splitOn '/' = [] :: cs.splitOn '/' := by
        simpa using List.splitOn_append_cons_self (a := '/') [] cs
      rw [List.dropWhile_cons_of_pos (by simp),ih,split,List.map_cons,List.mem_cons]
      simp [named]
    · rw [List.dropWhile_cons_of_neg (by simpa using slash)]

theorem parent_mem_steps (segments : List String) :
    .parent ∈ (segments.filter (! isSilent ·)).map stepOf ↔ ".." ∈ segments := by
  simp only [List.mem_map,List.mem_filter]
  constructor
  · rintro ⟨segment,⟨member,_⟩,up⟩
    unfold stepOf at up
    split at up
    · rename_i same
      exact same ▸ member
    · cases up
  · exact fun member => ⟨"..",⟨member,by decide⟩,by decide⟩

/-- A path steps up exactly if two dots stand between its slashes, with those at its front or without. -/
theorem parent_mem_components (cs : List Char) :
    .parent ∈ (Path.mk (.ofList (cs.dropWhile (· = '/')))).components ↔
      ".." ∈ (Path.mk (.ofList cs)).segments := by
  have relative : (Path.mk (.ofList (cs.dropWhile (· = '/')))).isAbsolute = false := by
    have first := List.head?_dropWhile_not (· = '/') cs
    cases opened : (cs.dropWhile (· = '/')).head? with
    | none => simp [isAbsolute,opened]
    | some c => simpa [isAbsolute,opened] using first
  have front : ".." ∈ (Path.mk (.ofList (cs.dropWhile (· = '/')))).segments ↔
      ".." ∈ (Path.mk (.ofList cs)).segments := by
    cases cs with
    | nil => rfl
    | cons c cs =>
      by_cases slash : c = '/'
      · subst slash
        have rest := mem_slashes cs ".." (by decide)
        rw [List.dropWhile_cons_of_pos (by simp)] at relative ⊢
        have absolute : (Path.mk (.ofList ('/' :: cs))).isAbsolute = true := by simp [isAbsolute]
        simpa only [segments,relative,absolute,Bool.false_eq_true,if_false,if_true,
          String.toList_ofList,List.drop_succ_cons,List.drop_zero] using rest
      · rw [List.dropWhile_cons_of_neg (by simpa using slash)]
  rw [← front]
  unfold components
  simp only [relative,Bool.false_eq_true,if_false]
  split
  · rename_i rest first
    rw [first]
    simpa using parent_mem_steps rest
  · exact parent_mem_steps _

end Path

namespace LinkPolicy

/-- The path of a reference without its query and its fragment. -/
def targetOf (path : String) : String := .ofList (splitTarget path.toList).1

/-- Leads to nothing in the project: the path steps up, or nothing is there. -/
def Dangles (t : FileTree) (root : Path) (path : String) : Prop :=
  ".." ∈ (Path.mk (targetOf path)).segments ∨
    t.contains (root.join (.ofList ((targetOf path).toList.dropWhile (· = '/')))) = false

theorem checkRepositoryTarget_error_iff (t : FileTree) (root : Path) (path target : String) :
    checkRepositoryTarget t root path = .error target ↔
      Dangles t root path ∧ target = targetOf path := by
  have climbs := Path.parent_mem_components (splitTarget path.toList).1
  unfold checkRepositoryTarget Dangles
  simp only [targetOf,String.toList_ofList,← climbs]
  split
  · rename_i leads
    simp [leads.1,leads.2]
  · rename_i astray
    have dangles := not_and_or.mp astray
    rw [not_not,Bool.not_eq_true] at dangles
    exact ⟨fun refused => ⟨dangles,(Except.error.inj refused).symm⟩,fun ⟨_,same⟩ => by rw [same]⟩

end LinkPolicy

/-! Nodes that are refused. -/

namespace RenderContext
variable (c : RenderContext) (t : FileTree) (h : Highlighter)

/-- Leads nowhere, and is reported by this target. -/
inductive Dead : Kind → String → Prop
  | link {url title path : String} : c.links.classify url c.addresses = .repository path →
      LinkPolicy.Dangles t c.root path → Dead (.link url title) (LinkPolicy.targetOf path)
  | image {url title path : String} : c.links.classify url c.addresses = .docs path →
      t.isFile (c.root.join (c.links.docsFile path).text) = false →
      Dead (.image url title) ("/" ++ (c.links.docsFile path).text)

inductive Refuses : Kind → RenderFault → Prop
  | reference {kind : Kind} {target : String} : c.Dead t kind target →
      Refuses kind (.deadLink c.document target)
  | code {info literal : String} {fault : RenderFault} : h info literal = .error fault →
      Refuses (.codeBlock info literal) fault

/-- Where code is shown, only references are refused. -/
theorem refuses_shown (kind : Kind)
    (shown : ∀ info literal, kind = .codeBlock info literal → ∃ html, h info literal = .ok html)
    (fault : RenderFault) : c.Refuses t h kind fault ↔
      ∃ target, c.Dead t kind target ∧ fault = .deadLink c.document target := by
  constructor
  · intro refused
    cases refused with
    | reference dead => exact ⟨_,dead,rfl⟩
    | code failed =>
      obtain ⟨html,done⟩ := shown _ _ rfl
      simp [done] at failed
  · rintro ⟨target,dead,rfl⟩
    exact .reference dead

theorem rewriteLink_error_iff (url title : String) (fault : RenderFault) :
    c.rewriteLink t url = .error fault ↔ c.Refuses t h (.link url title) fault := by
  unfold rewriteLink
  constructor
  · intro failed
    cases kind : c.links.classify url c.addresses with
    | repository path =>
      simp only [kind] at failed
      split at failed
      · cases failed
      · rename_i target refused
        obtain ⟨dangles,rfl⟩ := (LinkPolicy.checkRepositoryTarget_error_iff ..).mp refused
        cases failed
        exact .reference (.link kind dangles)
    | docs path => simp [kind] at failed
    | external => simp [kind] at failed
  · rintro ⟨dead⟩
    cases dead with
    | link kind dangles =>
      have refused := (LinkPolicy.checkRepositoryTarget_error_iff t c.root _ _).mpr ⟨dangles,rfl⟩
      simp only [kind,refused]

theorem rewriteImage_error_iff (url title : String) (fault : RenderFault) :
    c.rewriteImage t url = .error fault ↔ c.Refuses t h (.image url title) fault := by
  unfold rewriteImage
  constructor
  · intro failed
    cases kind : c.links.classify url c.addresses with
    | docs path =>
      simp only [kind] at failed
      split at failed
      · cases failed
      · rename_i missing
        cases failed
        exact .reference (.image kind (by simpa using missing))
    | repository path => simp [kind] at failed
    | external => simp [kind] at failed
  · rintro ⟨dead⟩
    cases dead with
    | image kind missing => simp only [kind,missing,Bool.false_eq_true,if_false]

theorem rewriteKind_error_iff (kind : Kind) (fault : RenderFault) :
    c.rewriteKind t kind h = .error fault ↔ c.Refuses t h kind fault := by
  cases kind with
  | link url title =>
    rw [← c.rewriteLink_error_iff t h url title fault,rewriteKind]
    cases c.rewriteLink t url <;> simp [bind,Except.bind,pure,Except.pure]
  | image url title =>
    rw [← c.rewriteImage_error_iff t h url title fault,rewriteKind]
    cases c.rewriteImage t url <;> simp [bind,Except.bind,pure,Except.pure]
  | codeBlock info literal =>
    have refused : c.Refuses t h (.codeBlock info literal) fault ↔ h info literal = .error fault :=
      ⟨fun | .code failed => failed,.code⟩
    rw [refused,rewriteKind]
    cases h info literal <;> simp [bind,Except.bind,pure,Except.pure]
  | _ =>
    refine ⟨nofun,fun refused => ?_⟩
    cases refused with
    | reference dead => cases dead

end RenderContext

/-! The tree of a document, node by node. -/

namespace Markdown.Node
variable (c : RenderContext) (t : FileTree) (h : Highlighter)

mutual
theorem rewrite_error_iff (n : Node) (fault : RenderFault) :
    rewrite c t n h = .error fault ↔ FirstIn (c.Refuses t h ·.kind) n.preorder fault := by
  obtain ⟨kind,children⟩ := n
  have own := c.rewriteKind_error_iff t h kind
  have inside := rewriteAll_error_iff children fault
  rw [preorder,firstIn_cons,← inside]
  simp only [Node.kind,← own,rewrite]
  cases c.rewriteKind t kind h with
  | error refused => simp [bind,Except.bind]
  | ok first =>
    cases rewriteAll c t children h <;> simp [bind,Except.bind,pure,Except.pure]

theorem rewriteAll_error_iff (nodes : List Node) (fault : RenderFault) :
    rewriteAll c t nodes h = .error fault ↔
      FirstIn (c.Refuses t h ·.kind) (preorderAll nodes) fault := by
  cases nodes with
  | nil => exact ⟨nofun,fun found => absurd found (firstIn_nil fault)⟩
  | cons n rest =>
    have first := rewrite_error_iff n
    have others := rewriteAll_error_iff rest fault
    have silent : (∀ m ∈ n.preorder, ∀ other, ¬ c.Refuses t h m.kind other) ↔
        ∀ other, rewrite c t n h ≠ .error other := by
      have some := exists_firstIn (fun m : Node => c.Refuses t h m.kind) n.preorder
      simp only [← first] at some
      simpa using not_congr some.symm
    rw [preorderAll,firstIn_append,silent,← first,← others,rewriteAll]
    cases rewrite c t n h with
    | error refused => simp [bind,Except.bind]
    | ok done =>
      cases rewriteAll c t rest h <;> simp [bind,Except.bind,pure,Except.pure]
end

/-- A tree whose code is shown is rewritten exactly if no reference in it is dead, and fails with the first
one otherwise. -/
theorem rewrite_dead_iff (n : Node) (shown : ∀ m ∈ n.preorder, ∀ info literal,
      m.kind = .codeBlock info literal → ∃ html, h info literal = .ok html) :
    (∀ fault, rewrite c t n h = .error fault ↔
      ∃ target, FirstIn (c.Dead t ·.kind) n.preorder target ∧ fault = .deadLink c.document target) ∧
    ((∃ done, rewrite c t n h = .ok done) ↔ ∀ m ∈ n.preorder, ∀ target, ¬ c.Dead t m.kind target) := by
  have reported (fault : RenderFault) : rewrite c t n h = .error fault ↔
      ∃ target, FirstIn (c.Dead t ·.kind) n.preorder target ∧ fault = .deadLink c.document target := by
    rw [rewrite_error_iff]
    refine firstIn_image (.deadLink c.document) _ _ ?_ fault
    exact fun m member => c.refuses_shown t h m.kind (shown m member)
  refine ⟨reported,?_⟩
  have found := exists_firstIn (fun m : Node => c.Dead t m.kind) n.preorder
  constructor
  · rintro ⟨done,rewritten⟩ m member target dead
    obtain ⟨first,found⟩ := found.mpr ⟨m,member,target,dead⟩
    have failed := (reported _).mpr ⟨first,found,rfl⟩
    rw [rewritten] at failed
    cases failed
  · intro alive
    cases outcome : rewrite c t n h with
    | ok done => exact ⟨done,rfl⟩
    | error fault =>
      obtain ⟨target,first,_⟩ := (reported fault).mp outcome
      obtain ⟨m,member,target,dead⟩ := found.mp ⟨target,first⟩
      exact absurd dead (alive m member target)

end Markdown.Node

namespace RenderContext

theorem render_error (c : RenderContext) (t : FileTree) (h : Highlighter) (markdown : String)
    (fault : RenderFault) : c.render t markdown h = .error fault ↔
      (Markdown.parse markdown).rewrite c t h = .error fault := by
  rw [render]
  cases (Markdown.parse markdown).rewrite c t h <;> simp [bind,Except.bind,pure,Except.pure]

theorem render_error_iff (c : RenderContext) (t : FileTree) (h : Highlighter) (markdown : String)
    (fault : RenderFault) : c.render t markdown h = .error fault ↔
      FirstIn (c.Refuses t h ·.kind) (Markdown.parse markdown).preorder fault := by
  rw [render_error,Markdown.Node.rewrite_error_iff]

/-- A document whose code is shown is rendered exactly if no reference in it is dead, and fails with
the first one otherwise. -/
theorem render_dead_iff (c : RenderContext) (t : FileTree) (h : Highlighter) (markdown : String)
    (shown : ∀ n ∈ (Markdown.parse markdown).preorder, ∀ info literal,
      n.kind = .codeBlock info literal → ∃ html, h info literal = .ok html) :
    (∀ fault, c.render t markdown h = .error fault ↔
      ∃ target, FirstIn (c.Dead t ·.kind) (Markdown.parse markdown).preorder target ∧
        fault = .deadLink c.document target) ∧
    ((∃ page, c.render t markdown h = .ok page) ↔
      ∀ n ∈ (Markdown.parse markdown).preorder, ∀ target, ¬ c.Dead t n.kind target) := by
  obtain ⟨reported,alive⟩ := Markdown.Node.rewrite_dead_iff c t h (Markdown.parse markdown) shown
  have rendered : (∃ page, c.render t markdown h = .ok page) ↔
      ∃ done, (Markdown.parse markdown).rewrite c t h = .ok done := by
    rw [render]
    cases (Markdown.parse markdown).rewrite c t h <;> simp [bind,Except.bind,pure,Except.pure]
  exact ⟨fun fault => (c.render_error t h markdown fault).trans (reported fault),rendered.trans alive⟩

end RenderContext

/-! An image within a link. -/

def sparse : FileTree := ⟨[],[(["p"],.directory)]⟩

def standing : RenderContext := .standard ⟨"a.md"⟩ ⟨"p"⟩

def framed : String := "[![](i)](/x)"

theorem framed_reported :
    (∀ n ∈ (Markdown.parse framed).preorder, ∀ info literal, n.kind = .codeBlock info literal →
      ∃ html, Highlighter.byScope info literal = .ok html) ∧
    standing.render sparse framed = .error (.deadLink ⟨"a.md"⟩ "/x") := by
  have shapes : blocks framed.toList =
      ([],[.block (.paragraph false) "[![](i)](/x)\n".toList false []]) := by with_unfolding_all rfl
  have inside : inlines [] "[![](i)](/x)\n".toList =
      [.node (.link "/x" "") [.leaf (.image "i" "")]] := by with_unfolding_all rfl
  have tree : (Markdown.parse framed).preorder =
      [.node .document [.node .paragraph [.node (.link "/x" "") [.leaf (.image "i" "")]]],
        .node .paragraph [.node (.link "/x" "") [.leaf (.image "i" "")]],
        .node (.link "/x" "") [.leaf (.image "i" "")],.leaf (.image "i" "")] := by
    rw [Markdown.parse,shapes]
    simp only [Block.toNodes,Block.toNode,inside]
    rfl
  have shown : ∀ n ∈ (Markdown.parse framed).preorder, ∀ info literal,
      n.kind = .codeBlock info literal → ∃ html, Highlighter.byScope info literal = .ok html :=
    fun _ _ _ _ _ => ⟨_,rfl⟩
  have dead : standing.Dead sparse (.link "/x" "") "/x" := by
    have kind : standing.links.classify "/x" standing.addresses = .repository "/x" := by with_unfolding_all rfl
    have target : LinkPolicy.targetOf "/x" = "/x" := by decide
    have dangles : LinkPolicy.Dangles sparse ⟨"p"⟩ "/x" := .inr (by decide)
    exact target ▸ .link kind dangles
  have first : FirstIn (standing.Dead sparse ·.kind) (Markdown.parse framed).preorder "/x" := by
    rw [tree,firstIn_cons,firstIn_cons,firstIn_cons]
    refine .inr ⟨?_,.inr ⟨?_,.inl dead⟩⟩
    · intro other dead
      simp only [Node.kind] at dead
      cases dead
    · intro other dead
      simp only [Node.kind] at dead
      cases dead
  exact ⟨shown,((standing.render_dead_iff sparse .byScope framed shown).1 _).mpr ⟨"/x",first,rfl⟩⟩

end ReferenceSite
