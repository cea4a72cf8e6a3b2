import ReferenceSite.Proofs.Reference.CommentSigns
import ReferenceSite.Proofs.Text.WholeLines

/-! What the single line of a comment is: its lines that are not blank, one after the other. Between two
of them stands a break if the first one ends a sentence or a blank line stands between them, and a space
otherwise. -/
namespace ReferenceSite.Comment
open ReferenceSite.Text

/-! Lines as they are read. -/

private theorem linesAfter_ended (current body rest : List Char) (single : '\n' ∉ body) :
    ∃ line, linesAfter current (body ++ '\n' :: rest) = line :: lines rest ∧
      trim line = trim (current.reverse ++ body) := by
  induction body generalizing current with
  | nil =>
    unfold linesAfter
    refine ⟨_,rfl,?_⟩
    split
    · rw [List.append_nil,List.reverse_cons,trim_spaced _ _ (List.forall_mem_singleton.mpr (by decide))]
    · rw [List.append_nil]
  | cons c body ih =>
    obtain ⟨other,later⟩ := not_or.mp (List.mem_cons.not.mp single)
    obtain ⟨line,read,trimmed⟩ := ih (c :: current) later
    refine ⟨line,?_,by simpa using trimmed⟩
    rw [List.cons_append,linesAfter,read]
    exact Ne.symm other

private theorem linesAfter_last (current body : List Char) (single : '\n' ∉ body) (filled : current ≠ [] ∨ body ≠ []) :
    linesAfter current body = [current.reverse ++ body] := by
  induction body generalizing current with
  | nil =>
    have read : current ≠ [] := filled.resolve_right (by simp)
    simp [linesAfter,read]
  | cons c body ih =>
    obtain ⟨other,later⟩ := not_or.mp (List.mem_cons.not.mp single)
    rw [linesAfter,ih (c :: current) later (.inl (by simp))]
    · simp
    · exact Ne.symm other

theorem lines_trimmed (s : List Char) : (lines s).map trim = (wholeLines s).map trim := by
  induction s using wholeLines_induction with
  | empty => rfl
  | line line rest leads ih =>
    rw [wholeLines_cons leads,List.map_cons,← ih]
    cases leads with
    | ended body rest single =>
      obtain ⟨line,read,trimmed⟩ := linesAfter_ended [] body rest single
      rw [trim_spaced _ _ (List.forall_mem_singleton.mpr (by decide)),List.append_assoc,List.singleton_append,lines,
        read,List.map_cons,trimmed]
      rfl
    | last _ filled single =>
      rw [List.append_nil,lines,linesAfter_last [] line single (.inr filled)]
      rfl

/-! White space around the comment. -/

theorem joinLines_empty (separator : Option (List Char)) (rest : List (List Char)) :
    joinLines separator ([] :: rest) = joinLines (separator.map fun _ => lineBreak) rest := rfl

theorem joinLines_filled (separator : Option (List Char)) (line : List Char) (rest : List (List Char))
    (filled : line ≠ []) : joinLines separator (line :: rest) =
      separator.getD [] ++ line ++ joinLines (some (separatorAfter line)) rest := by
  rw [joinLines,if_neg (by simpa using filled)]

private theorem joinLines_blank (separator : Option (List Char)) (written : List (List Char))
    (blank : ∀ line ∈ written, line = []) : joinLines separator written = [] := by
  induction written generalizing separator with
  | nil => rfl
  | cons line written ih =>
    obtain ⟨rfl,later⟩ := List.forall_mem_cons.mp blank
    exact ih _ later

theorem trim_eq_nil_iff (s : List Char) : trim s = [] ↔ Blanks s := by
  rw [← List.isEmpty_iff,trim_isEmpty_iff]

private theorem joinLines_congr (separator : Option (List Char)) (line : List Char) (rest other : List (List Char))
    (same : ∀ separator, joinLines separator rest = joinLines separator other) :
    joinLines separator (line :: rest) = joinLines separator (line :: other) := by
  rw [joinLines,joinLines,same,same]

private theorem joinLines_wholeLines_blank (separator : Option (List Char)) (s : List Char) (blank : Blanks s) :
    joinLines separator ((wholeLines s).map trim) = [] := by
  refine joinLines_blank separator _ (List.forall_mem_map.mpr fun line member => ?_)
  have within : line ⊆ s := by
    conv_rhs => rw [← flatten_wholeLines s]
    exact fun c inside => List.mem_flatten.mpr ⟨line,member,inside⟩
  exact (trim_eq_nil_iff line).mpr fun c inside => blank c (within inside)

theorem joinLines_indented (indent s : List Char) (blank : Blanks indent) :
    joinLines none ((wholeLines (indent ++ s)).map trim) = joinLines none ((wholeLines s).map trim) := by
  induction indent with
  | nil => rfl
  | cons c indent ih =>
    obtain ⟨first,later⟩ := List.forall_mem_cons.mp blank
    rw [← ih later,List.cons_append]
    have indented (line : List Char) : trim (c :: line) = trim line :=
      trim_indented [c] line (List.forall_mem_singleton.mpr first)
    generalize indent ++ s = text
    by_cases feed : c = '\n'
    · subst feed
      have fed : wholeLines ('\n' :: text) = ['\n'] :: wholeLines text := wholeLines_cons (.ended [] text (by simp))
      rw [fed]
      rfl
    · cases text using wholeLines_induction with
      | empty =>
        rw [← List.append_nil [c],wholeLines_cons (.last [c] (by simp) (by simpa using Ne.symm feed)),
          List.map_cons,indented]
        rfl
      | line line rest leads _ =>
        rw [← List.cons_append,wholeLines_cons (leads.indented c feed),wholeLines_cons leads,List.map_cons,indented,List.map_cons]

theorem joinLines_spaced (separator : Option (List Char)) (s trailing : List Char) (blank : Blanks trailing) :
    joinLines separator ((wholeLines (s ++ trailing)).map trim) = joinLines separator ((wholeLines s).map trim) := by
  induction s using wholeLines_induction generalizing separator with
  | empty => exact joinLines_wholeLines_blank separator trailing blank
  | line line rest leads ih =>
    rw [wholeLines_cons leads,List.map_cons]
    cases leads with
    | ended body rest single =>
      rw [List.append_assoc,wholeLines_cons (.ended body _ single),List.map_cons]
      exact joinLines_congr _ _ _ _ ih
    | last _ filled single =>
      cases trailing using wholeLines_induction with
      | empty => rw [List.append_nil,wholeLines_cons (.last line filled single),List.map_cons]
      | line space behind further _ =>
        obtain ⟨early,late⟩ := List.forall_mem_append.mp blank
        rw [List.append_nil,← List.append_assoc,wholeLines_cons (further.behind line single),List.map_cons,trim_spaced _ _ early]
        refine joinLines_congr _ _ _ _ fun separator => ?_
        rw [joinLines_wholeLines_blank separator behind late]
        rfl

/-- The white space around a comment does not matter. -/
theorem singleLine_lines (comment : String) :
    (singleLine comment).toList = joinLines none ((wholeLines comment.toList).map trim) := by
  obtain ⟨indent,trailing,whole,ahead,after⟩ := trim_between comment.toList
  conv_rhs => rw [whole,joinLines_spaced none _ trailing after,joinLines_indented indent _ ahead]
  rw [singleLine,String.toList_ofList,lines_trimmed]

/-- The single line begins with the first sign of the comment that is not white space. -/
theorem singleLine_head (comment : String) (indent rest : List Char) (c : Char)
    (whole : comment.toList = indent ++ c :: rest) (blank : Blanks indent) (solid : isBlank c = false) :
    (singleLine comment).toList.head? = some c := by
  rw [singleLine_lines,whole,joinLines_indented indent _ blank]
  generalize same : c :: rest = s
  cases s using wholeLines_induction with
  | empty => cases same
  | line line later leads _ =>
    obtain ⟨d,own,rfl⟩ := List.exists_cons_of_ne_nil leads.filled
    obtain ⟨rfl,_⟩ := List.cons.inj same
    obtain ⟨kept,begins⟩ := dropWhileEnd_cons isBlank c own solid
    have trimmed : trim (c :: own) = c :: kept := by rw [trim,trimStart_cons c own solid,trimEnd,begins]
    rw [wholeLines_cons leads,List.map_cons,trimmed,joinLines_filled none _ _ (by simp)]
    rfl

/-! Lines and their places. -/

/-- The lines that are not blank, with their places among all lines. -/
def placed (written : List (List Char)) : List (List Char × Nat) :=
  written.zipIdx.filter fun line => ¬ Blanks line.1

/-- A blank line stands between two places. -/
def Parted (written : List (List Char)) (place next : Nat) : Prop :=
  ∃ line ∈ (written.take next).drop (place + 1), Blanks line

instance (written : List (List Char)) (place next : Nat) : Decidable (Parted written place next) :=
  inferInstanceAs (Decidable (∃ line ∈ _, _))

/-- What stands between a line and the next one of those that are joined. -/
def between (written : List (List Char)) (line next : List Char × Nat) : List Char :=
  if (trim line.1).getLast? = some '.' ∨ Parted written line.2 next.2 then lineBreak else [' ']

/-- The single line of some of the lines of a text. -/
def joined (written : List (List Char)) : List (List Char × Nat) → List Char
  | [] => []
  | [line] => trim line.1
  | line :: next :: rest => trim line.1 ++ between written line next ++ joined written (next :: rest)

section
variable (kept : List Char → Bool)

/-- The lines from a place on that are joined. -/
private def chosen (place : Nat) (written : List (List Char)) : List (List Char × Nat) :=
  ((written.zipIdx place).filter fun line => ¬ Blanks line.1).filter (kept ·.1)

private theorem chosen_left (place : Nat) (line : List Char) (rest : List (List Char))
    (left : Blanks line ∨ kept line = false) : chosen kept place (line :: rest) = chosen kept (place + 1) rest := by
  rcases left with blank | dropped
  · simp [chosen,blank]
  · by_cases blank : Blanks line
    · simp [chosen,blank]
    · simp [chosen,blank,dropped]

private theorem chosen_taken (place : Nat) (line : List Char) (rest : List (List Char)) (solid : ¬ Blanks line)
    (own : kept line = true) : chosen kept place (line :: rest) = (line,place) :: chosen kept (place + 1) rest := by
  simp [chosen,solid,own]

/-- What is due behind a line when the lines ahead of a place are read: a break at the latest behind a
blank line. -/
private def due (line : List Char) (passed : List (List Char)) : List Char :=
  if (trim line).getLast? = some '.' ∨ ∃ l ∈ passed, Blanks l then lineBreak else [' ']

private theorem due_fresh (before : List (List Char)) (line : List Char) :
    due line ((before ++ [line]).drop (before.length + 1)) = separatorAfter (trim line) := by
  simp [due,separatorAfter]

variable (always : ∀ line, Blanks line → kept line = true)
include always

private theorem joinLines_onward (before rest : List (List Char)) (line : List Char) (place : Nat)
    (behind : place < before.length) :
    trim line ++ joinLines (some (due line (before.drop (place + 1)))) ((rest.filter kept).map trim) =
      joined (before ++ rest) ((line,place) :: chosen kept before.length rest) := by
  induction rest generalizing before line place with
  | nil => simp [joinLines,chosen,joined]
  | cons l rest ih =>
    have grown : before ++ l :: rest = before ++ [l] ++ rest := by simp
    have size : (before ++ [l]).length = before.length + 1 := by simp
    have passed : (before ++ [l]).drop (place + 1) = before.drop (place + 1) ++ [l] :=
      List.drop_append_of_le_length behind
    have further := ih (before ++ [l]) line place (by omega)
    rw [passed,← grown,size] at further
    by_cases blank : Blanks l
    · -- From here on a break is due.
      have parted : due line (before.drop (place + 1) ++ [l]) = lineBreak := by simp [due,blank]
      have empty : trim l = [] := (trim_eq_nil_iff l).mpr blank
      rw [parted] at further
      rw [List.filter_cons_of_pos (always l blank),chosen_left kept _ l rest (.inl blank),← further,List.map_cons,
        empty,joinLines_empty,Option.map_some]
    · have same : due line (before.drop (place + 1) ++ [l]) = due line (before.drop (place + 1)) := by
        simp [due,blank]
      cases own : kept l with
      | false =>
        rw [same] at further
        rw [List.filter_cons_of_neg (by simp [own]),chosen_left kept _ l rest (.inr own),further]
      | true =>
        have next := ih (before ++ [l]) l before.length (by omega)
        have ahead : due line (before.drop (place + 1)) = between (before ++ l :: rest) (line,place) (l,before.length) := by
          simp [due,between,Parted]
        rw [due_fresh before l,← grown,size] at next
        rw [List.filter_cons_of_pos own,chosen_taken kept _ l rest blank own,joined,← next,ahead,List.map_cons,
          joinLines_filled _ _ _ ((trim_eq_nil_iff l).not.mpr blank),Option.getD_some]
        simp only [List.append_assoc]

private theorem joinLines_start (before rest : List (List Char)) :
    joinLines none ((rest.filter kept).map trim) = joined (before ++ rest) (chosen kept before.length rest) := by
  induction rest generalizing before with
  | nil => rfl
  | cons l rest ih =>
    have grown : before ++ l :: rest = before ++ [l] ++ rest := by simp
    have size : (before ++ [l]).length = before.length + 1 := by simp
    have further := ih (before ++ [l])
    rw [← grown,size] at further
    by_cases blank : Blanks l
    · have empty : trim l = [] := (trim_eq_nil_iff l).mpr blank
      rw [List.filter_cons_of_pos (always l blank),chosen_left kept _ l rest (.inl blank),← further,List.map_cons,
        empty,joinLines_empty,Option.map_none]
    · cases own : kept l with
      | false => rw [List.filter_cons_of_neg (by simp [own]),chosen_left kept _ l rest (.inr own),further]
      | true =>
        have next := joinLines_onward kept always (before ++ [l]) rest l before.length (by omega)
        rw [due_fresh before l,← grown,size] at next
        rw [List.filter_cons_of_pos own,chosen_taken kept _ l rest blank own,← next,List.map_cons,
          joinLines_filled _ _ _ ((trim_eq_nil_iff l).not.mpr blank)]
        rfl

/-- The single line of the lines that are kept, if no blank one is left out. -/
theorem joinLines_kept (written : List (List Char)) : joinLines none ((written.filter kept).map trim) =
    joined written ((placed written).filter (kept ·.1)) :=
  joinLines_start kept always [] written

end

theorem singleLine_joined (comment : String) : (singleLine comment).toList =
    joined (wholeLines comment.toList) (placed (wholeLines comment.toList)) := by
  have all := joinLines_kept (fun _ => true) (fun _ _ => rfl) (wholeLines comment.toList)
  rwa [List.filter_true,List.filter_true,← singleLine_lines] at all

/-! Single lines on their own. -/

theorem trim_trimmed (s : List Char) : Trimmed (trim s) := by
  constructor
  · intro c first
    obtain ⟨behind,whole⟩ : trim s <+: trimStart s := by
      rw [trim,trimEnd,dropWhileEnd,← List.reverse_suffix,List.reverse_reverse]
      exact List.dropWhile_suffix isBlank
    refine stops_dropWhile isBlank s c ?_
    rw [← trimStart,← whole,List.head?_append,first,Option.some_or]
  · intro c last
    refine stops_dropWhile isBlank (trimStart s).reverse c ?_
    rwa [trim,trimEnd,dropWhileEnd,List.getLast?_reverse] at last

private theorem joinLines_opens (written : List (List Char)) (trimmed : ∀ line ∈ written, Trimmed line) :
    Stops isBlank (joinLines none written) := by
  induction written with
  | nil => exact stops_nil _
  | cons line written ih =>
    obtain ⟨own,later⟩ := List.forall_mem_cons.mp trimmed
    cases line with
    | nil => exact ih later
    | cons c line =>
      rw [joinLines_filled _ _ _ (by simp)]
      exact (stops_cons _ _ _).mpr (own.opens c rfl)

private theorem joinLines_closes (separator : Option (List Char)) (written : List (List Char))
    (trimmed : ∀ line ∈ written, Trimmed line) (c : Char)
    (last : (joinLines separator written).getLast? = some c) : isBlank c = false := by
  induction written generalizing separator with
  | nil => simp [joinLines] at last
  | cons line written ih =>
    obtain ⟨own,later⟩ := List.forall_mem_cons.mp trimmed
    by_cases empty : line = []
    · rw [empty,joinLines_empty] at last
      exact ih _ later last
    · rw [joinLines_filled _ _ _ empty,List.getLast?_append] at last
      cases behind : (joinLines (some (separatorAfter line)) written).getLast? with
      | some d =>
        rw [behind,Option.some_or] at last
        exact ih _ later (behind.trans last)
      | none =>
        rw [behind,Option.none_or,List.getLast?_append,List.getLast?_eq_some_getLast empty,Option.some_or] at last
        exact own.closes c ((List.getLast?_eq_some_getLast empty).trans last)

theorem singleLine_trimmed (comment : String) : Trimmed (singleLine comment).toList := by
  have trimmed : ∀ line ∈ (wholeLines comment.toList).map trim, Trimmed line :=
    List.forall_mem_map.mpr fun line _ => trim_trimmed line
  rw [singleLine_lines]
  exact ⟨joinLines_opens _ trimmed,joinLines_closes none _ trimmed⟩

theorem singleLine_single (comment : String) : '\n' ∉ (singleLine comment).toList := by
  intro feed
  rcases mem_singleLine comment '\n' feed with broken | ⟨_,other⟩
  · exact absurd broken (by decide)
  · exact other rfl

/-- A text on one line, without white space around it, is its own single line. -/
theorem singleLine_kept (text : String) (single : '\n' ∉ text.toList) (trimmed : Trimmed text.toList) :
    singleLine text = text := by
  rw [← String.toList_inj,singleLine_lines]
  by_cases empty : text.toList = []
  · rw [empty]
    rfl
  · have whole := wholeLines_cons (.last text.toList empty single)
    rw [List.append_nil] at whole
    rw [whole,List.map_cons,trimmed.trim,joinLines_filled _ _ _ empty]
    exact List.append_nil _

/-- The single line of a comment joins its lines that are not blank. It is one line without white space
around it, and its own single line. -/
theorem singleLine_normal (comment : String) :
    (singleLine comment).toList = joined (wholeLines comment.toList) (placed (wholeLines comment.toList)) ∧
    '\n' ∉ (singleLine comment).toList ∧ Trimmed (singleLine comment).toList ∧
    singleLine (singleLine comment) = singleLine comment :=
  ⟨singleLine_joined comment,singleLine_single comment,singleLine_trimmed comment,
    singleLine_kept _ (singleLine_single comment) (singleLine_trimmed comment)⟩

example : singleLine "First.\r\nSecond one\n\n  goes on\n" = "First.<br>Second one<br>goes on" := by decide +kernel

end ReferenceSite.Comment
