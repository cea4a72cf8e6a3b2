import ReferenceSite.Proofs.Markdown.NodeKinds
import ReferenceSite.Proofs.Markdown.PlainText

/-! What a plain text can turn into: text, emphasis, and links to addresses that begin with `www`. No
link in it leads into the project or its documentation, whatever its underscores pair up to. -/
namespace ReferenceSite.Markdown
open ReferenceSite.Text

/-- Text without at signs, emphasis, or a link to another site. -/
inductive Kind.IsTame : Kind → Prop
  | text {s : String} : '@' ∉ s.toList → IsTame (.text s)
  | emphasis : IsTame .emphasis
  | strong : IsTame .strong
  | strikethrough : IsTame .strikethrough
  | link {url title : String} : url.toList.head? = some 'h' → IsTame (.link url title)

def Node.IsTame (n : Node) : Prop := n.Holds fun kind _ => kind.IsTame

def Piece.IsTame : Piece → Prop
  | .node n => n.IsTame
  | .delimiter d => d.character ≠ '@'

theorem Node.isTame_node (kind : Kind) (children : List Node) :
    (Node.node kind children).IsTame ↔ kind.IsTame ∧ ∀ n ∈ children, n.IsTame := holds_node kind children

theorem Piece.IsTame.holds {p : Piece} (tame : p.IsTame) : p.Holds fun kind _ => kind.IsTame := by
  cases p with
  | node n => exact tame
  | delimiter d =>
    intro n
    refine .text ?_
    rw [String.toList_ofList,List.mem_replicate]
    exact fun same => tame same.2.symm

theorem Delimiter.meaning?_isTame (opener closer : Delimiter) (kind : Kind) (_ : List Node)
    (means : opener.meaning? closer = some kind) : kind.IsTame := by
  simp only [meaning?] at means
  split at means
  · split at means <;> cases means
    exact .strikethrough
  · split at means <;> cases means
    · exact .emphasis
    · exact .strong

theorem pairRuns_isTame (left right : List Piece) (tame : ∀ p ∈ left ++ right, p.IsTame) :
    ∀ n ∈ pairRuns left right, n.IsTame :=
  pairRuns_holds Delimiter.meaning?_isTame left right fun p member => (tame p member).holds

theorem flush_isTame (s : List Char) (none : '@' ∉ s) : ∀ n ∈ joinText.flush s, n.IsTame := by
  have text : (Node.text s).IsTame :=
    (Node.isTame_node _ _).mpr ⟨.text (by simpa using none),by simp⟩
  unfold joinText.flush
  split
  · simp
  · rename_i filled
    rw [linkMail_none _ s (by simpa using filled) none]
    simpa using text

theorem joinText_isTame (pending : List Char) (nodes : List Node) (none : '@' ∉ pending)
    (tame : ∀ n ∈ nodes, n.IsTame) : ∀ n ∈ joinText pending nodes, n.IsTame := by
  refine joinText_holds (fun s => '@' ∉ s) List.not_mem_nil ?_ flush_isTame (fun _ _ _ _ own => own)
    pending nodes none tame
  intro pending s _ free own
  cases own with
  | text fine => simpa [free] using fine

theorem trimAddressEnd_suffix (s : List Char) : trimAddressEnd s <:+ s := by
  fun_induction trimAddressEnd s with
  | case1 => exact List.suffix_refl _
  | case2 _ _ _ ih => exact ih.trans (List.suffix_cons ..)
  | case3 _ _ _ _ ih => exact ih.trans ((List.drop_suffix ..).trans (List.suffix_cons ..))
  | case4 _ _ _ _ ih => exact ih.trans (List.suffix_cons ..)
  | case5 _ _ _ _ _ ih => exact ih.trans (List.suffix_cons ..)
  | case6 => exact List.suffix_refl _

theorem addressRun_subset (s : List Char) : addressRun s ⊆ s := by
  intro c member
  have kept := (trimAddressEnd_suffix _).mem (List.mem_reverse.mp member)
  exact List.takeWhile_subset _ (List.takeWhile_subset _ (List.mem_reverse.mp kept))

/-- Each step of reading a plain text adds one piece, from which no link leads into the project. -/
theorem readFrom_isTame (references : References) (r : Reading) (before : List Char) (c : Char)
    (rest : List Char) (plain : ∀ d ∈ c :: rest, isPlain d = true) :
    ∃ p n, readFrom references r before c rest = (r.push (.piece p),n) ∧ p.IsTame := by
  have none := not_at_plain _ plain
  have text (s : List Char) (none : '@' ∉ s) : (Node.text s).IsTame :=
    (Node.isTame_node _ _).mpr ⟨.text (by simpa using none),by simp⟩
  by_cases underscore : c = '_'
  · subst underscore
    refine ⟨_,_,readFrom_underscore references r before rest,?_⟩
    split
    · exact show '_' ≠ '@' by decide
    · exact text _ (by simp [List.mem_replicate])
  by_cases w : c = 'w'
  · subst w
    unfold readFrom
    simp only
    split
    · rename_i link n found
      refine ⟨_,_,rfl,?_⟩
      split at found
      · cases found
      · simp only [wwwLink?,Option.ite_none_right_eq_some,Option.some.injEq,Prod.mk.injEq] at found
        obtain ⟨-,rfl,-⟩ := found
        refine (Node.isTame_node _ _).mpr ⟨.link (by simp),?_⟩
        exact List.forall_mem_singleton.mpr (text _ fun member => none (addressRun_subset _ member))
    · exact ⟨_,_,rfl,text _ (by simp)⟩
  have ordinary : isSpecial c = false := by
    rw [Bool.eq_false_iff]
    exact fun special => (special_plain c (plain c (by simp)) special).elim underscore w
  refine ⟨_,_,readFrom_ordinary references r before c rest ordinary,text _ fun member => none ?_⟩
  have inside : '@' ∈ c :: rest.takeWhile (! isSpecial ·) := by
    split at member
    · rw [trimSpaceEnd,List.mem_reverse] at member
      exact List.mem_reverse.mp ((List.dropWhile_suffix _).mem member)
    · exact member
  exact (List.mem_cons.mp inside).elim (by rintro rfl; simp) fun later =>
    List.mem_cons_of_mem c (List.takeWhile_subset _ later)

theorem readAll_isTame (references : References) (s : List Char) (r : Reading) (before : List Char)
    (plain : ∀ c ∈ s, isPlain c = true) :
    ∃ ps : List Piece, (readAll references r before s).tokens = ps.map Token.piece ++ r.tokens ∧
      ∀ p ∈ ps, p.IsTame := by
  induction size : s.length using Nat.strongRecOn generalizing s r before with
  | _ size ih =>
    cases s with
    | nil => exact ⟨[],by rw [readAll]; rfl,by simp⟩
    | cons c s =>
      obtain ⟨p,n,read,tame⟩ := readFrom_isTame references r before c s plain
      obtain ⟨ps,further,tames⟩ := ih (s.drop n).length (by simp at size ⊢; omega) (s.drop n)
        (r.push (.piece p)) ((s.take n).reverse ++ c :: before)
        (fun d member => plain d (List.mem_cons_of_mem c (List.drop_subset n s member))) rfl
      refine ⟨ps ++ [p],?_,List.forall_mem_append.mpr ⟨tames,List.forall_mem_singleton.mpr tame⟩⟩
      rw [readAll_cons,read]
      simpa [Reading.push] using further

theorem inlines_isTame (references : References) (s : List Char) (plain : ∀ c ∈ s, isPlain c = true) :
    ∀ n ∈ inlines references s, n.IsTame := by
  have kept : ∀ c ∈ trimSpaceEnd s, isPlain c = true := by
    intro c member
    rw [trimSpaceEnd,List.mem_reverse] at member
    exact plain c (List.mem_reverse.mp ((List.dropWhile_suffix _).mem member))
  obtain ⟨ps,tokens,tame⟩ := readAll_isTame references (trimSpaceEnd s) .start [] kept
  have pieces : (readAll references .start [] (trimSpaceEnd s)).tokens.reverse.map Token.settle =
      ps.reverse := by
    rw [tokens]
    simp [Reading.start,Function.comp_def,Token.settle]
  rw [inlines]
  simp only [pieces]
  refine joinText_isTame [] _ (by simp) (pairRuns_isTame [] ps.reverse fun p member => ?_)
  exact tame p (by simpa using member)

end ReferenceSite.Markdown
