import ReferenceSite.Comment
import ReferenceSite.Proofs.Text.Lines

/-! What signs the single line of a comment holds: those of the comment and those of the breaks that
are put between its lines, but no line feed. -/
namespace ReferenceSite.Comment
open ReferenceSite.Text

theorem mem_linesAfter (current s : List Char) (single : '\n' ∉ current) :
    ∀ line ∈ linesAfter current s, ∀ c ∈ line, (c ∈ current ∨ c ∈ s) ∧ c ≠ '\n' := by
  have own (c : Char) (member : c ∈ current) : c ≠ '\n' := fun same => single (same ▸ member)
  fun_induction linesAfter current s with
  | case1 => simp
  | case2 current filled =>
    intro line member c inside
    obtain rfl := List.mem_singleton.mp member
    have read : c ∈ current := List.mem_reverse.mp inside
    exact ⟨.inl read,own c read⟩
  | case3 current rest ih =>
    intro line member c inside
    rcases List.mem_cons.mp member with rfl | later
    · have read : c ∈ current := by
        split at inside
        · exact List.mem_cons_of_mem _ (List.mem_reverse.mp inside)
        · exact List.mem_reverse.mp inside
      exact ⟨.inl read,own c read⟩
    · have further := ih (by simp) (by simp) line later c inside
      exact ⟨.inr (by simpa using .inr (further.1.resolve_left (by simp))),further.2⟩
  | case4 current c rest feed ih =>
    intro line member d inside
    have further := ih (by simp [single,Ne.symm feed]) (List.forall_mem_cons.mpr ⟨feed,own⟩) line member d inside
    refine ⟨?_,further.2⟩
    simpa [or_assoc,or_left_comm] using further.1

theorem mem_joinLines (separator : Option (List Char)) (written : List (List Char)) (c : Char)
    (member : c ∈ joinLines separator written) :
    c ∈ separator.getD [] ∨ c ∈ lineBreak ∨ c = ' ' ∨ ∃ line ∈ written, c ∈ line := by
  fun_induction joinLines separator written with
  | case1 => simp at member
  | case2 separator line rest blank ih =>
    rcases ih member with due | broken | space | ⟨l,inside,read⟩
    · cases separator with
      | none => simp at due
      | some => exact .inr (.inl due)
    · exact .inr (.inl broken)
    · exact .inr (.inr (.inl space))
    · exact .inr (.inr (.inr ⟨l,List.mem_cons_of_mem _ inside,read⟩))
  | case3 separator line rest blank ih =>
    rcases List.mem_append.mp member with early | later
    · rcases List.mem_append.mp early with due | own
      · exact .inl due
      · exact .inr (.inr (.inr ⟨line,by simp,own⟩))
    · rcases ih later with due | broken | space | ⟨l,inside,read⟩
      · rw [Option.getD_some,separatorAfter] at due
        split at due
        · exact .inr (.inl due)
        · exact .inr (.inr (.inl (List.mem_singleton.mp due)))
      · exact .inr (.inl broken)
      · exact .inr (.inr (.inl space))
      · exact .inr (.inr (.inr ⟨l,List.mem_cons_of_mem _ inside,read⟩))

/-- No sign of a line is left out. -/
theorem subset_joinLines (separator : Option (List Char)) (written : List (List Char)) :
    ∀ line ∈ written, line ⊆ joinLines separator written := by
  fun_induction joinLines separator written with
  | case1 => simp
  | case2 separator line rest blank ih =>
    refine List.forall_mem_cons.mpr ⟨?_,ih⟩
    rw [List.isEmpty_iff.mp blank]
    exact List.nil_subset _
  | case3 separator line rest blank ih =>
    refine List.forall_mem_cons.mpr ⟨?_,fun l member => List.Subset.trans (ih l member) (List.subset_append_right _ _)⟩
    exact List.Subset.trans (List.subset_append_right _ _) (List.subset_append_left _ _)

/-- A sign of a single line comes from the comment or from a break. -/
theorem mem_singleLine (comment : String) (c : Char) (member : c ∈ (singleLine comment).toList) :
    c ∈ ['<','b','r','>',' '] ∨ (c ∈ comment.toList ∧ c ≠ '\n') := by
  rw [singleLine,String.toList_ofList] at member
  rcases mem_joinLines _ _ c member with due | broken | rfl | ⟨line,listed,inside⟩
  · simp at due
  · exact .inl (List.mem_append_left [' '] broken)
  · exact .inl (by decide)
  · obtain ⟨whole,read,rfl⟩ := List.mem_map.mp listed
    obtain ⟨origin,feed⟩ := mem_linesAfter [] _ (by simp) whole read c (mem_of_mem_trim c whole inside)
    exact .inr ⟨mem_of_mem_trim c _ (origin.resolve_left (by simp)),feed⟩

theorem mem_stripNextId (comment : String) (c : Char) (member : c ∈ (stripNextId comment).toList) :
    c ∈ comment.toList := by
  have kept (fresh : Bool) (s : List Char) : ∀ d ∈ dropNextId fresh s, d ∈ s := by
    fun_induction dropNextId fresh s with
    | case1 fresh s rest found ih =>
      intro d inside
      have suffix : rest <:+ s := by
        split at found
        · simp only [afterNextId?] at found
          split at found
          · cases found
            exact ((List.drop_suffix ..).trans (List.dropWhile_suffix _)).trans
              ((List.drop_suffix ..).trans (List.dropWhile_suffix _))
          · cases found
        · cases found
      exact suffix.mem (ih d inside)
    | case2 => simp
    | case3 fresh c rest _ ih =>
      exact List.forall_mem_cons.mpr ⟨by simp,fun d inside => List.mem_cons_of_mem c (ih d inside)⟩
  rw [stripNextId,String.toList_ofList] at member
  exact kept true comment.toList c member

end ReferenceSite.Comment
