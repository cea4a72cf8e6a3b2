import ReferenceSite.Proofs.Text.Lines
import ReferenceSite.Tables.Body

/-! Optional wrappers in a column's type. A wrapper reaches from the first place that opens one to
the last closing bracket, and a type without such a pair has none. -/
namespace ReferenceSite
open ReferenceSite.Text

/-- Somewhere in the type a wrapper is opened and closed again. -/
def Wrapped (type : List Char) : Prop :=
  ∃ before argument behind, type = before ++ "Optional<".toList ++ argument ++ '>' :: behind

namespace TableDraft

private theorem upToLast_shape (line : List Char) :
    (line.reverse.dropWhile (· ≠ '>')).reverse = [] ∧ '>' ∉ line ∨
      ∃ argument behind, (line.reverse.dropWhile (· ≠ '>')).reverse = argument ++ ['>'] ∧
        line = argument ++ '>' :: behind := by
  by_cases closed : '>' ∈ line.reverse
  · obtain ⟨behind,argument,split,outside⟩ := List.eq_append_cons_of_mem closed
    have last : line.reverse.dropWhile (· ≠ '>') = '>' :: argument := by
      rw [split,dropWhile_upTo '>' behind argument outside]
    have back := congrArg List.reverse split
    exact .inr ⟨argument.reverse,behind.reverse,by rw [last,List.reverse_cons],by simpa using back⟩
  · have nothing : line.reverse.dropWhile (· ≠ '>') = [] :=
      List.dropWhile_eq_nil_iff.mpr (by simpa using List.forall_mem_ne'.mpr closed)
    exact .inl ⟨by rw [nothing]; rfl,by simpa using closed⟩

theorem optionalArgument?_some (type argument : List Char)
    (found : optionalArgument? type = some argument) :
    ∃ before behind, type = before ++ "Optional<".toList ++ argument ++ '>' :: behind := by
  induction type with
  | nil => simp [optionalArgument?] at found
  | cons c rest ih =>
    have later (inside : optionalArgument? rest = some argument) :
        ∃ before behind, c :: rest = before ++ "Optional<".toList ++ argument ++ '>' :: behind := by
      obtain ⟨before,behind,shape⟩ := ih inside
      exact ⟨c :: before,behind,by rw [shape]; rfl⟩
    rw [optionalArgument?] at found
    cases opened : dropPrefix? "Optional<".toList (c :: rest) with
    | none => exact later (by simpa only [opened] using found)
    | some inner =>
      simp only [opened] at found
      rcases upToLast_shape (inner.takeWhile (· ≠ '\n')) with ⟨empty,_⟩ | ⟨inside,behind,last,shape⟩
      · rw [empty] at found
        exact later found
      · rw [last] at found
        simp at found
        subst found
        have whole := List.takeWhile_append_dropWhile (p := (· ≠ '\n')) (l := inner)
        rw [shape] at whole
        generalize inner.dropWhile (· ≠ '\n') = tail at whole
        refine ⟨[],behind ++ tail,?_⟩
        rw [dropPrefix?_eq_some opened,← whole]
        simp

theorem optionalArgument?_none (type : List Char) (single : '\n' ∉ type)
    (missing : optionalArgument? type = none) : ¬ Wrapped type := by
  induction type with
  | nil =>
    rintro ⟨before,argument,behind,shape⟩
    simp at shape
  | cons c rest ih =>
    rintro ⟨before,argument,behind,shape⟩
    have later (inside : optionalArgument? rest = none) (starts : before ≠ []) : False := by
      obtain ⟨d,more,rfl⟩ := List.exists_cons_of_ne_nil starts
      refine ih (fun member => single (by simp [member])) inside ⟨more,argument,behind,?_⟩
      exact (List.cons.inj shape).2
    rw [optionalArgument?] at missing
    cases opened : dropPrefix? "Optional<".toList (c :: rest) with
    | none =>
      refine later (by simpa only [opened] using missing) ?_
      rintro rfl
      rw [shape,List.nil_append,List.append_assoc,dropPrefix?_append] at opened
      cases opened
    | some inner =>
      have whole := dropPrefix?_eq_some opened
      have line : inner.takeWhile (· ≠ '\n') = inner := by
        refine List.takeWhile_eq_self_iff.mpr fun d member => ?_
        have other : d ≠ '\n' := fun same => single (by rw [whole,← same]; simp [member])
        simpa using other
      simp only [opened,line] at missing
      rcases upToLast_shape inner with ⟨empty,absent⟩ | ⟨inside,after,last,_⟩
      · rw [empty] at missing
        refine later missing ?_
        rintro rfl
        rw [whole,List.nil_append,List.append_assoc,List.append_cancel_left_eq] at shape
        simp [shape] at absent
      · rw [last] at missing
        simp at missing

/-- The first place that opens a wrapper is where the mark stands for the first time. -/
theorem dropPrefix?_unopened (c : Char) (before rest : List Char)
    (first : ¬ "Optional<".toList <:+: c :: before) :
    dropPrefix? "Optional<".toList (c :: (before ++ "Optional<".toList ++ rest)) = none := by
  cases opened : dropPrefix? "Optional<".toList (c :: (before ++ "Optional<".toList ++ rest)) with
  | none => rfl
  | some inner =>
    -- A mark that begins ahead of the other ends at a bracket ahead of the other's.
    have whole : c :: before ++ "Optional".toList ++ '<' :: rest = "Optional".toList ++ '<' :: inner := by
      have shape := dropPrefix?_eq_some opened
      rw [List.append_assoc] at shape ⊢
      exact shape
    have bracket := congrArg (List.takeWhile (· ≠ '<')) whole
    rw [takeWhile_upTo '<' "Optional".toList _ (by decide)] at bracket
    by_cases inside : '<' ∈ c :: before
    · obtain ⟨name,more,split,outside⟩ := List.eq_append_cons_of_mem inside
      have text : c :: before ++ "Optional".toList ++ '<' :: rest =
          name ++ '<' :: (more ++ "Optional".toList ++ '<' :: rest) := by simp [split]
      rw [text,takeWhile_upTo '<' name _ outside] at bracket
      rw [split,bracket] at first
      exact absurd ⟨[],more,rfl⟩ first
    · rw [takeWhile_upTo '<' _ _ (by simpa using inside)] at bracket
      have size := congrArg List.length bracket
      simp at size

/-- The argument reaches from the first place that opens a wrapper to the last closing bracket. -/
theorem optionalArgument?_opened (before argument behind : List Char)
    (first : ¬ "Optional<".toList <:+: before) (single : '\n' ∉ argument) (last : '>' ∉ behind) :
    optionalArgument? (before ++ "Optional<".toList ++ (argument ++ '>' :: behind)) = some argument := by
  induction before with
  | nil =>
    have opened : dropPrefix? "Optional<".toList
        ('O' :: ("ptional<".toList ++ (argument ++ '>' :: behind))) = some (argument ++ '>' :: behind) :=
      dropPrefix?_append "Optional<".toList _
    have passed : ∀ d ∈ argument, decide (d ≠ '\n') = true := fun d member => by
      have other : d ≠ '\n' := fun same => single (same ▸ member)
      simpa using other
    have line : (argument ++ '>' :: behind).takeWhile (· ≠ '\n') =
        argument ++ '>' :: behind.takeWhile (· ≠ '\n') := by
      rw [List.takeWhile_append_of_pos passed,List.takeWhile_cons_of_pos (by decide)]
    have outside : ∀ d ∈ (behind.takeWhile (· ≠ '\n')).reverse, decide (d ≠ '>') = true := by
      intro d member
      have other : d ≠ '>' := fun same =>
        last (same ▸ (List.takeWhile_prefix _).mem (List.mem_reverse.mp member))
      simpa using other
    have ending : ((argument ++ '>' :: behind.takeWhile (· ≠ '\n')).reverse.dropWhile (· ≠ '>')).reverse =
        argument ++ ['>'] := by
      rw [List.reverse_append,List.reverse_cons,List.append_assoc,List.dropWhile_append_of_pos outside]
      simp
    rw [List.nil_append,show "Optional<".toList ++ (argument ++ '>' :: behind) =
        'O' :: ("ptional<".toList ++ (argument ++ '>' :: behind)) from rfl,optionalArgument?]
    simp only [opened,line,ending]
    simp
  | cons c before ih =>
    have later := ih fun inside => first (inside.trans (List.suffix_cons c before).isInfix)
    rw [List.cons_append,List.cons_append,optionalArgument?]
    simp only [dropPrefix?_unopened c before _ first]
    exact later

/-- A qualifier without brackets does not hide where the wrapper is opened. -/
theorem optionalArgument?_wrapper (qualifier argument : List Char) (unopened : '<' ∉ qualifier)
    (single : '\n' ∉ argument) :
    optionalArgument? (qualifier ++ "Optional<".toList ++ argument ++ ['>']) = some argument := by
  rw [List.append_assoc]
  refine optionalArgument?_opened qualifier argument [] (fun inside => unopened ?_) single (by simp)
  exact inside.mem (by decide)

end TableDraft
end ReferenceSite
