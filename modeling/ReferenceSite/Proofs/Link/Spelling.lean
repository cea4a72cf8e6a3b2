import ReferenceSite.Proofs.Link.Target

/-! The spellings of a link. A path of the documentation can be written as it is, with dot steps before it or
behind the address of the documentation, and means the same page each time. Dot steps before a link that
climbs out of the documentation do change it: they make it one of the documentation, which is not checked. -/
namespace ReferenceSite
open ReferenceSite.Text

def dotSteps (steps : Nat) : String := .ofList (List.replicate steps ['.','/']).flatten

namespace LinkPolicy

theorem dropDotSteps_dotSteps (steps : Nat) (href : List Char) :
    dropDotSteps ((dotSteps steps).toList ++ href) = dropDotSteps href := by
  rw [dotSteps,String.toList_ofList]
  induction steps with
  | zero => rfl
  | succ steps ih => simpa [List.replicate_succ,dropDotSteps] using ih

theorem isBareRelative_dotSteps (a : Address.Parser) (steps : Nat) (href : List Char) :
    isBareRelative ((dotSteps (steps + 1)).toList ++ href) a = true := by
  simp [isBareRelative,dotSteps,List.replicate_succ,dropPrefix?,a.dotted]

section
variable (p : LinkPolicy) (a : Address.Parser) (opened : p.docsPrefix.toList.head? = some '/')
include opened

/-- With dot steps before it, any text is a path of the documentation. -/
theorem classify_dotSteps (steps : Nat) (href : String) :
    p.classify (dotSteps (steps + 1) ++ href) a = .docs (.ofList (dropDotSteps href.toList)) := by
  apply (classify_docs_iff p a _ _ opened).mpr
  rw [String.toList_append,dropDotSteps_dotSteps]
  exact .inr ⟨isBareRelative_dotSteps a steps href.toList,rfl⟩

theorem classify_dotSteps_eq_iff (steps : Nat) (href : String) :
    p.classify (dotSteps (steps + 1) ++ href) a = p.classify href a ↔ isBareRelative href.toList a = true := by
  rw [classify_dotSteps p a opened,eq_comm,classify_docs_iff p a _ _ opened]
  constructor
  · rintro (longer | ⟨bare,_⟩)
    · -- The address begins with a slash, so no dot step is dropped to make room for it.
      have first : href.toList.head? = some '/' := by
        rw [longer,String.toList_append,List.head?_append,opened]
        rfl
      rw [dropDotSteps_kept _ (by simp [first]),String.ofList_toList] at longer
      have empty : p.docsPrefix = "" := by
        rw [← String.toList_inj]
        have whole := congrArg String.toList longer
        rw [String.toList_append] at whole
        simpa using whole
      simp [empty] at opened
    · exact bare
  · exact fun bare => .inr ⟨bare,rfl⟩

theorem classify_climbing (rest : String) :
    p.classify ("../" ++ rest) a = .repository (.ofList (markLine ('/' :: rest.toList))) := by
  have shape : ("../" ++ rest).toList = '.' :: '.' :: '/' :: rest.toList := by simp
  have climbs : isBareRelative ('.' :: '.' :: '/' :: rest.toList) a = false := by
    simp [isBareRelative,dropPrefix?]
  refine (classify_repository_iff ..).mpr ⟨fun docs found => ?_,_,by rw [shape]; rfl,rfl⟩
  rcases (classify_docs_iff p a _ _ opened).mp found with below | ⟨bare,_⟩
  · have first : ("../" ++ rest).toList.head? = some '/' := by
      rw [below,String.toList_append,List.head?_append,opened]
      rfl
    simp [shape] at first
  · simp [shape,climbs] at bare

end

theorem linkHref_docs (p : LinkPolicy) (path target suffix href : String) (divides : Divides path target suffix) :
    (∀ page, target = page ++ ".md" → p.linkHref (.docs path) href = p.docsPrefix ++ page ++ suffix) ∧
    ((∀ page, target ≠ page ++ ".md") → p.linkHref (.docs path) href = p.docsPrefix ++ target ++ suffix) := by
  rw [linkHref,(splitTarget_eq_iff path target suffix).mpr divides]
  constructor
  · rintro page rfl
    have stem : dropSuffix? ".md".toList (page ++ ".md").toList = some page.toList :=
      (dropSuffix?_eq_some_iff _ _ _).mpr (String.toList_append ..)
    simp only [stem,Option.getD_some,String.ofList_append,String.ofList_toList,String.append_assoc]
  · intro kept
    have whole : dropSuffix? ".md".toList target.toList = none := by
      by_contra some
      obtain ⟨page,found⟩ := Option.ne_none_iff_exists'.mp some
      refine kept (.ofList page) ?_
      rw [← String.toList_inj,(dropSuffix?_eq_some_iff _ _ _).mp found]
      simp
    simp only [whole,Option.getD_none,String.ofList_append,String.ofList_toList,String.append_assoc]

end LinkPolicy

/-- Dot steps keep the class of a link exactly if it is a relative path without them. A link that climbs is
one into the repository and is checked; with dot steps it is one of the documentation and never refused. -/
theorem RenderContext.dotSteps_iff (c : RenderContext) (t : FileTree)
    (opened : c.links.docsPrefix.toList.head? = some '/') (href : String) (steps : Nat) :
    (c.links.classify (dotSteps (steps + 1) ++ href) c.addresses = c.links.classify href c.addresses ↔
      LinkPolicy.isBareRelative href.toList c.addresses = true) ∧
    ∀ rest, href = "../" ++ rest →
      c.links.classify (dotSteps (steps + 1) ++ href) c.addresses ≠ c.links.classify href c.addresses ∧
      c.links.classify href c.addresses = .repository (.ofList (LinkPolicy.markLine ('/' :: rest.toList))) ∧
      c.links.classify (dotSteps (steps + 1) ++ href) c.addresses = .docs href ∧
      ((∃ rewritten, c.rewriteLink t href = .ok rewritten) ↔ ¬ LinkPolicy.Dangles t c.root ("/" ++ rest)) ∧
      ∃ rewritten, c.rewriteLink t (dotSteps (steps + 1) ++ href) = .ok rewritten := by
  have kept := LinkPolicy.classify_dotSteps_eq_iff c.links c.addresses opened steps href
  refine ⟨kept,?_⟩
  rintro rest rfl
  have climbs := LinkPolicy.classify_climbing c.links c.addresses opened rest
  have docs : c.links.classify (dotSteps (steps + 1) ++ ("../" ++ rest)) c.addresses = .docs ("../" ++ rest) := by
    have kept : LinkPolicy.dropDotSteps ("../" ++ rest).toList = ("../" ++ rest).toList := by
      simp [LinkPolicy.dropDotSteps]
    rw [LinkPolicy.classify_dotSteps c.links c.addresses opened,kept,String.ofList_toList]
  refine ⟨?_,climbs,docs,?_,?_⟩
  · rw [docs,climbs]
    exact nofun
  · have named : "/" ++ rest = .ofList ('/' :: rest.toList) := by
      rw [← String.toList_inj]
      simp
    simp only [c.rewriteLink_ok_iff t _ _ _ climbs,LinkPolicy.checkRepositoryTarget_ok_iff,
      LinkPolicy.dangles_markLine,named,exists_and_left,exists_eq,and_true]
  · refine ⟨c.links.linkHref (.docs ("../" ++ rest)) (dotSteps (steps + 1) ++ ("../" ++ rest)),?_⟩
    unfold rewriteLink
    simp only [docs]

theorem gone_stepped :
    standing.links.docsPrefix.toList.head? = some '/' ∧
    standing.links.classify (dotSteps 2 ++ "../gone") standing.addresses = .docs "../gone" ∧
    (∃ rewritten, standing.rewriteLink sparse (dotSteps 2 ++ "../gone") = .ok rewritten) ∧
    ((∃ rewritten, standing.rewriteLink sparse "../gone" = .ok rewritten) ↔
      ¬ LinkPolicy.Dangles sparse ⟨"p"⟩ "/gone") := by
  have opened : standing.links.docsPrefix.toList.head? = some '/' := by decide
  obtain ⟨_,climbing⟩ := standing.dotSteps_iff sparse opened "../gone" 1
  obtain ⟨_,_,docs,checked,unchecked⟩ := climbing "gone" rfl
  exact ⟨opened,docs,unchecked,checked⟩

/-- A link to a file that is not there is refused, and with one dot step it leads out of the site's
documentation unseen. -/
theorem gone_unchecked :
    standing.links.docsPrefix = "/docs/" ∧
    standing.links.classify ("./" ++ "../gone") standing.addresses ≠
      standing.links.classify "../gone" standing.addresses ∧
    standing.rewriteLink sparse "../gone" = .error (.deadLink ⟨"a.md"⟩ "/gone") ∧
    standing.rewriteLink sparse ("./" ++ "../gone") = .ok "/docs/../gone" := by
  refine ⟨rfl,by decide,?_,?_⟩
  · rfl
  · rfl

/-- A path that begins with a letter, a digit or a low line and is no address means the same with a dot
step before it and behind the address of the documentation. -/
theorem RenderContext.spellings_agree (c : RenderContext) (t : FileTree)
    (opened : c.links.docsPrefix.toList.head? = some '/') (path : String) (letter : Char)
    (first : path.toList.head? = some letter) (plain : letter.isAlphanum = true ∨ letter = '_')
    (relative : c.addresses.isAbsolute path.toList = false) :
    ∀ href ∈ [path,"./" ++ path,c.links.docsPrefix ++ path],
      c.links.classify href c.addresses = .docs path ∧
      (∀ docs, c.links.classify href c.addresses = .docs docs → c.links.docsFile docs = c.links.docsFile path) ∧
      c.rewriteLink t href = c.rewriteLink t path ∧
      c.rewriteImage t href = c.rewriteImage t path ∧
      c.links.imageSrc (c.links.classify href c.addresses) href = c.links.docsPrefix ++ path ∧
      ∀ target suffix, Divides path target suffix →
        (∀ page, target = page ++ ".md" →
          c.links.linkHref (c.links.classify href c.addresses) href = c.links.docsPrefix ++ page ++ suffix) ∧
        ((∀ page, target ≠ page ++ ".md") →
          c.links.linkHref (c.links.classify href c.addresses) href = c.links.docsPrefix ++ target ++ suffix) := by
  have bare : LinkPolicy.isBareRelative path.toList c.addresses = true := by
    rw [LinkPolicy.isBareRelative,first,relative]
    simpa using .inr plain
  have kept : LinkPolicy.dropDotSteps path.toList = path.toList := by
    refine LinkPolicy.dropDotSteps_kept _ fun dot => ?_
    obtain rfl := Option.some.inj (first.symm.trans dot)
    exact absurd plain (by decide)
  have docs : ∀ href ∈ [path,"./" ++ path,c.links.docsPrefix ++ path],
      c.links.classify href c.addresses = .docs path := by
    have step := LinkPolicy.classify_dotSteps c.links c.addresses opened 0 path
    rw [kept,String.ofList_toList] at step
    refine List.forall_mem_cons.mpr ⟨?_,List.forall_mem_cons.mpr ⟨step,List.forall_mem_singleton.mpr ?_⟩⟩
    · rw [LinkPolicy.classify_docs_iff c.links c.addresses _ _ opened,kept,String.ofList_toList]
      exact .inr ⟨bare,rfl⟩
    · exact (LinkPolicy.classify_docs_iff c.links c.addresses _ _ opened).mpr (.inl rfl)
  intro href member
  have kind := docs href member
  have same := docs path List.mem_cons_self
  refine ⟨kind,?_,?_,?_,?_,?_⟩
  · intro other found
    rw [LinkClass.docs.inj (found.symm.trans kind)]
  · unfold rewriteLink
    simp only [kind,same,LinkPolicy.linkHref]
  · unfold rewriteImage
    simp only [kind,same,LinkPolicy.imageSrc]
  · rw [kind,LinkPolicy.imageSrc]
  · intro target suffix divides
    rw [kind]
    exact LinkPolicy.linkHref_docs c.links path target suffix href divides

def manual : String := "a.md/b.md?x.md#y"

theorem manual_spelled :
    standing.links.docsPrefix.toList.head? = some '/' ∧ manual.toList.head? = some 'a' ∧
    ('a'.isAlphanum = true ∨ 'a' = '_') ∧ standing.addresses.isAbsolute manual.toList = false ∧
    ∀ href ∈ [manual,"./" ++ manual,"/docs/" ++ manual],
      standing.rewriteImage sparse href = standing.rewriteImage sparse manual ∧
      standing.links.linkHref (standing.links.classify href standing.addresses) href = "/docs/a.md/b?x.md#y" := by
  have opened : standing.links.docsPrefix.toList.head? = some '/' := by decide
  have relative : standing.addresses.isAbsolute manual.toList = false := by decide
  have divides : Divides manual "a.md/b.md" "?x.md#y" :=
    (LinkPolicy.splitTarget_eq_iff ..).mp (by decide)
  refine ⟨opened,by decide,.inl (by decide),relative,fun href member => ?_⟩
  obtain ⟨_,_,_,image,_,link⟩ := standing.spellings_agree sparse opened manual 'a' (by decide)
    (.inl (by decide)) relative href member
  exact ⟨image,(link _ _ divides).1 "a.md/b" (by decide)⟩

end ReferenceSite
