import Mathlib.Data.List.TakeDrop
import ReferenceSite.Proofs.Link.Class
import ReferenceSite.Proofs.Page.DeadReferences

/-! Where a link into the repository leads. Its target ends at the first mark of a query or a fragment; the
target that is looked up below the root is the one that is published behind the address of the browser, and
it is the link's own path but for two dots at its front. -/
namespace ReferenceSite
open ReferenceSite.Text

/-! A path that does not step up stays below what it is joined to. -/

namespace Path

theorem parent_mem_iff (p : Path) : .parent ∈ p.components ↔ ".." ∈ p.segments := by
  unfold components
  split
  · simpa using parent_mem_steps p.segments
  · split
    · rename_i rest first
      simpa [first] using parent_mem_steps rest
    · exact parent_mem_steps p.segments

end Path

/-- A path up to the first mark of a query or a fragment, and what follows from there. -/
structure Divides (path target suffix : String) : Prop where
  whole : path = target ++ suffix
  unmarked : '#' ∉ target.toList ∧ '?' ∉ target.toList
  marked : ∀ c, suffix.toList.head? = some c → c = '#' ∨ c = '?'

def behindSlashes (path : String) : String := .ofList (path.toList.dropWhile (· = '/'))

theorem behindSlashes_relative (path : String) : (Path.mk (behindSlashes path)).isAbsolute = false := by
  have stops := stops_dropWhile (· = '/') path.toList
  rw [behindSlashes,Path.isAbsolute,String.toList_ofList,decide_eq_false_iff_not]
  intro slash
  simpa using stops '/' slash

namespace LinkPolicy

theorem splitTarget_fst (path : List Char) :
    (splitTarget path).1 = path.takeWhile fun c => c ≠ '#' ∧ c ≠ '?' := by
  rw [splitTarget,List.span_eq_takeWhile_dropWhile]

/-- A line is marked within the fragment. -/
theorem splitTarget_markLine (path : List Char) : (splitTarget (markLine path)).1 = (splitTarget path).1 := by
  have within (before rest : List Char) (sharp : before.getLast? = some '#') :
      (splitTarget (before ++ rest)).1 = (splitTarget before).1 := by
    obtain ⟨front,rfl⟩ := List.getLast?_eq_some_iff.mp sharp
    simp [splitTarget_fst,List.takeWhile_append]
  unfold markLine
  dsimp only
  split
  · rename_i marked
    rw [within _ _ marked.2,← within _ (path.drop _) marked.2,List.take_append_drop]
  · rfl

theorem splitTarget_eq_iff (path target suffix : String) :
    splitTarget path.toList = (target.toList,suffix.toList) ↔ Divides path target suffix := by
  rw [splitTarget,List.span_eq_takeWhile_dropWhile,Prod.mk.injEq]
  constructor
  · rintro ⟨front,back⟩
    refine ⟨?_,?_,?_⟩
    · rw [← String.toList_inj,String.toList_append,← front,← back,List.takeWhile_append_dropWhile]
    · have unmarked : ∀ c ∈ target.toList, c ≠ '#' ∧ c ≠ '?' := by
        intro c member
        rw [← front] at member
        simpa using List.mem_takeWhile_imp member
      exact ⟨fun sharp => (unmarked _ sharp).1 rfl,fun mark => (unmarked _ mark).2 rfl⟩
    · intro c first
      rw [← back] at first
      have stop := stops_dropWhile (fun c => decide (c ≠ '#' ∧ c ≠ '?')) path.toList c first
      simpa [or_iff_not_imp_left] using stop
  · rintro ⟨rfl,⟨sharp,mark⟩,marked⟩
    have passed : ∀ c ∈ target.toList, decide (c ≠ '#' ∧ c ≠ '?') = true := by
      intro c member
      have other (d : Char) (outside : d ∉ target.toList) : c ≠ d := fun same => outside (same ▸ member)
      simpa using ⟨other '#' sharp,other '?' mark⟩
    have stops : Stops (fun c => decide (c ≠ '#' ∧ c ≠ '?')) suffix.toList := by
      intro c first
      simpa [or_iff_not_imp_left] using marked c first
    rw [String.toList_append]
    exact ⟨takeWhile_past _ _ _ passed stops,dropWhile_past _ _ _ passed stops⟩

theorem divides_targetOf (path : String) : ∃ suffix, Divides path (targetOf path) suffix := by
  refine ⟨.ofList (splitTarget path.toList).2,(splitTarget_eq_iff ..).mp ?_⟩
  rw [targetOf,String.toList_ofList,String.toList_ofList]

theorem checkRepositoryTarget_ok_iff (t : FileTree) (root : Path) (path : String) :
    checkRepositoryTarget t root path = .ok () ↔ ¬ Dangles t root path := by
  have refused := checkRepositoryTarget_error_iff t root path
  cases checked : checkRepositoryTarget t root path with
  | error target => exact ⟨nofun,fun sound => absurd ((refused target).mp checked).1 sound⟩
  | ok leads =>
    refine ⟨fun _ dangles => ?_,fun _ => rfl⟩
    have failed := (refused _).mpr ⟨dangles,rfl⟩
    rw [checked] at failed
    cases failed

theorem not_dangles_iff (t : FileTree) (root : Path) (path : String) :
    ¬ Dangles t root path ↔ .parent ∉ (Path.mk (targetOf path)).components ∧
      t.contains (root.join (behindSlashes (targetOf path))) = true := by
  rw [Dangles,not_or,Path.parent_mem_iff,Bool.not_eq_false,behindSlashes]

theorem dangles_markLine (t : FileTree) (root : Path) (path : List Char) :
    Dangles t root (.ofList (markLine path)) ↔ Dangles t root (.ofList path) := by
  simp only [Dangles,targetOf,String.toList_ofList,splitTarget_markLine]

/-- The target of a link is that of its path, or that behind two dots. -/
theorem targetOf_repository (p : LinkPolicy) (a : Address.Parser) (href path : String)
    (kind : p.classify href a = .repository path) :
    targetOf href = targetOf path ∨ targetOf href = ".." ++ targetOf path := by
  obtain ⟨_,own,found,rfl⟩ := (classify_repository_iff p a href path).mp kind
  rcases (repositoryPath?_eq_some _ own found).2 with same | climbing
  · left
    rw [targetOf,targetOf,String.toList_ofList,splitTarget_markLine,same]
  · right
    rw [targetOf,targetOf,String.toList_ofList,splitTarget_markLine,climbing,← String.toList_inj]
    simp [splitTarget_fst]

end LinkPolicy

theorem RenderContext.rewriteLink_ok_iff (c : RenderContext) (t : FileTree) (href path rewritten : String)
    (kind : c.links.classify href c.addresses = .repository path) : c.rewriteLink t href = .ok rewritten ↔
      LinkPolicy.checkRepositoryTarget t c.root path = .ok () ∧ rewritten = c.links.sourceBaseUrl ++ path := by
  unfold rewriteLink
  simp only [kind,LinkPolicy.linkHref]
  cases LinkPolicy.checkRepositoryTarget t c.root path with
  | ok passed => exact ⟨fun same => ⟨rfl,(Except.ok.inj same).symm⟩,fun ⟨_,same⟩ => by rw [same]⟩
  | error target => exact ⟨nofun,nofun⟩

/-- A link into the repository is checked at the target that it is published with. The check passes
exactly if the target does not step up and leads to something below the root. -/
theorem RenderContext.rewriteLink_repository (c : RenderContext) (t : FileTree) (href path : String)
    (kind : c.links.classify href c.addresses = .repository path) :
    ∃ target suffix, Divides path target suffix ∧
      (LinkPolicy.checkRepositoryTarget t c.root path = .ok () ↔
        .parent ∉ (Path.mk target).components ∧ t.contains (c.root.join (behindSlashes target)) = true) ∧
      (LinkPolicy.checkRepositoryTarget t c.root path = .ok () →
        (c.root.join (behindSlashes target)).Descends c.root ∧
        (c.root.join (behindSlashes target)).isAbsolute = c.root.isAbsolute) ∧
      c.links.linkHref (c.links.classify href c.addresses) href = c.links.sourceBaseUrl ++ target ++ suffix ∧
      (∀ rewritten, c.rewriteLink t href = .ok rewritten ↔
        LinkPolicy.checkRepositoryTarget t c.root path = .ok () ∧
          rewritten = c.links.sourceBaseUrl ++ target ++ suffix) ∧
      ∃ own, Divides href target own ∨ Divides href (".." ++ target) own := by
  obtain ⟨suffix,divides⟩ := LinkPolicy.divides_targetOf path
  have checked := (LinkPolicy.checkRepositoryTarget_ok_iff t c.root path).trans
    (LinkPolicy.not_dangles_iff t c.root path)
  have relative := behindSlashes_relative (LinkPolicy.targetOf path)
  have published : c.links.sourceBaseUrl ++ LinkPolicy.targetOf path ++ suffix = c.links.sourceBaseUrl ++ path := by
    rw [String.append_assoc,← divides.whole]
  refine ⟨_,suffix,divides,checked,?_,?_,?_,?_⟩
  · intro passed
    have level : .parent ∉ (Path.mk (behindSlashes (LinkPolicy.targetOf path))).components := by
      rw [behindSlashes,Path.parent_mem_components,String.ofList_toList,← Path.parent_mem_iff]
      exact (checked.mp passed).1
    exact ⟨Path.join_descends c.root _ relative level,Path.isAbsolute_join c.root _ relative⟩
  · rw [kind,LinkPolicy.linkHref,published]
  · intro rewritten
    rw [published]
    exact c.rewriteLink_ok_iff t href path rewritten kind
  · obtain ⟨own,whole⟩ := LinkPolicy.divides_targetOf href
    refine ⟨own,?_⟩
    rcases LinkPolicy.targetOf_repository c.links c.addresses href path kind with same | climbing
    · exact .inl (same ▸ whole)
    · exact .inr (climbing ▸ whole)

def toolbox : FileTree :=
  ⟨[],[(["p"],.directory),(["p","tools"],.directory),(["p","tools","x"],.file .empty)]⟩

theorem numbered_checked :
    standing.links.classify "../tools//x?a#7" standing.addresses = .repository "/tools//x?a#L7" ∧
    LinkPolicy.checkRepositoryTarget toolbox ⟨"p"⟩ "/tools//x?a#L7" = .ok () ∧
    standing.rewriteLink toolbox "../tools//x?a#7" =
      .ok "https://github.com/google/perfetto/blob/master/tools//x?a#L7" := by
  have kind : standing.links.classify "../tools//x?a#7" standing.addresses = .repository "/tools//x?a#L7" := by
    decide +kernel
  have passed : LinkPolicy.checkRepositoryTarget toolbox ⟨"p"⟩ "/tools//x?a#L7" = .ok () :=
    by decide
  obtain ⟨target,suffix,divides,_,_,_,rewritten,_⟩ := standing.rewriteLink_repository toolbox _ _ kind
  refine ⟨kind,passed,(rewritten _).mpr ⟨passed,?_⟩⟩
  rw [String.append_assoc,← divides.whole]
  rfl

end ReferenceSite
