import ReferenceSite.Proofs.Comment.SingleLine
import ReferenceSite.Proofs.Markdown.RowLines
import ReferenceSite.Proofs.Reference.ColumnRows
import ReferenceSite.Proofs.Reference.Document

/-! Comments as the last cells of rows. A cell has no line feed and no bar that ends it. A carriage
return within a line of the comment stays in the cell, and a line of the document ends there, so that the
rest of the comment leaves its row. -/
namespace ReferenceSite.Reference
open ReferenceSite.Text ReferenceSite.Markdown

/-! The signs of a cell. -/

theorem cell_signs (comment : String) : (cell comment).toList = escapePipes (Comment.singleLine comment).toList :=
  String.toList_ofList

theorem mem_escapePipes (c : Char) (s : List Char) (slash : c ≠ '\\') (bar : c ≠ '|') : c ∈ escapePipes s ↔ c ∈ s := by
  constructor
  · intro member
    obtain ⟨d,inside,shown⟩ := List.mem_flatMap.mp member
    split at shown
    · simp [slash,bar] at shown
    · exact List.mem_singleton.mp shown ▸ inside
  · exact fun member => List.mem_flatMap.mpr ⟨c,member,by simp [bar]⟩

theorem escapePipes_last (s : List Char) : (escapePipes s).getLast? = s.getLast? := by
  rcases List.eq_nil_or_concat' s with rfl | ⟨front,c,rfl⟩
  · rfl
  · by_cases bar : c = '|'
    · simp [escapePipes,bar]
    · simp [escapePipes,bar]

theorem cell_single (comment : String) : '\n' ∉ (cell comment).toList := by
  rw [cell_signs,mem_escapePipes _ _ (by decide) (by decide)]
  exact Comment.singleLine_single comment

theorem cell_bars (comment : String) : openBars (cell comment).toList = 0 := by
  rw [cell_signs]
  exact barsAfter_escapePipes ' ' _

theorem cell_returned (comment : String) :
    '\r' ∈ (cell comment).toList ↔ ∃ line ∈ wholeLines comment.toList, '\r' ∈ trim line := by
  rw [cell_signs,mem_escapePipes _ _ (by decide) (by decide),Comment.singleLine_lines]
  constructor
  · intro member
    rcases Comment.mem_joinLines _ _ _ member with due | broken | space | ⟨line,listed,inside⟩
    · simp at due
    · exact absurd broken (by decide)
    · exact absurd space (by decide)
    · obtain ⟨whole,read,rfl⟩ := List.mem_map.mp listed
      exact ⟨whole,read,inside⟩
  · rintro ⟨line,read,inside⟩
    exact Comment.subset_joinLines _ _ _ (List.mem_map_of_mem read) inside

/-! The description that a cell shows. -/

/-- A comment as its cell shows it: on one line, with its signs as they are read. -/
def described (comment : String) : String := .ofList ((Comment.singleLine comment).toList.map readSign)

theorem described_signs (comment : String) :
    (described comment).toList = (Comment.singleLine comment).toList.map readSign := String.toList_ofList

theorem isBlank_readSign (c : Char) : isBlank (readSign c) = isBlank c := by
  unfold readSign
  split
  · rename_i zero
    rw [zero]
    decide
  · rfl

theorem described_trimmed (comment : String) : Trimmed (described comment).toList := by
  have trimmed := Comment.singleLine_trimmed comment
  rw [described_signs]
  constructor
  · intro c first
    rw [List.head?_map] at first
    obtain ⟨d,begins,rfl⟩ := Option.map_eq_some_iff.mp first
    exact (isBlank_readSign d).trans (trimmed.opens d begins)
  · intro c last
    rw [List.getLast?_map] at last
    obtain ⟨d,ends,rfl⟩ := Option.map_eq_some_iff.mp last
    exact (isBlank_readSign d).trans (trimmed.closes d ends)

theorem described_solid (comment : String) : (∀ c, (described comment).toList.head? = some c → isSpace c = false) ∧
    ∀ c, (described comment).toList.getLast? = some c → isSpace c = false := by
  have trimmed := described_trimmed comment
  exact ⟨fun c first => not_isSpace_of_not_blank c (trimmed.opens c first),
    fun c last => not_isSpace_of_not_blank c (trimmed.closes c last)⟩

theorem described_empty : described "" = "" := by decide +kernel

theorem described_single (comment : String) : '\n' ∉ (described comment).toList := by
  rw [described_signs,mem_map_readSign _ _ (by decide) (by decide)]
  exact Comment.singleLine_single comment

theorem singleLine_described (comment : String) : Comment.singleLine (described comment) = described comment :=
  Comment.singleLine_kept _ (described_single comment) (described_trimmed comment)

/-- Without a return in its cell a description is part of one line. -/
theorem isLine_described (comment : String) (single : '\r' ∉ (cell comment).toList) :
    IsLine (described comment).toList := by
  rw [cell_signs,mem_escapePipes _ _ (by decide) (by decide)] at single
  have returned : '\r' ∉ (described comment).toList := by
    rwa [described_signs,mem_map_readSign _ _ (by decide) (by decide)]
  have zero : '\x00' ∉ (described comment).toList := by
    rw [described_signs]
    exact not_mem_map_readSign _
  intro c member
  refine ⟨?_,?_,?_⟩
  · exact fun same => described_single comment (same ▸ member)
  · exact fun same => returned (same ▸ member)
  · exact fun same => zero (same ▸ member)

theorem cell_read (comment : String) : (cell comment).toList.map readSign = escapePipes (described comment).toList := by
  rw [cell_signs,escapePipes_read,described_signs]

/-! Rows. -/

/-- The lines of a row, the last cell of which is a comment. -/
def rowLines (cells : List String) (comment : String) : List (List Char) :=
  documentLines [] (row (cells ++ [cell comment])).toList

/-- The row has as many lines as with no comment at all, and in the last of them the description is one
cell more, unless it is empty. -/
def StaysInRow (cells : List String) (comment : String) : Prop :=
  ∃ earlier bare line ahead, rowLines cells "" = earlier ++ [bare] ∧ rowCells? bare = some ahead ∧
    rowLines cells comment = earlier ++ [line] ∧
    rowCells? line = some (ahead ++ if described comment = "" then [] else [(described comment).toList])

theorem row_last (cells : List String) (filled : cells ≠ []) (text : String) : (row (cells ++ [text])).toList =
    " | ".toList.intercalate (cells.map String.toList) ++ ' ' :: '|' :: ' ' :: (text.toList ++ ['\n']) := by
  have bar (parts : List (List Char)) (filled : parts ≠ []) (last : List Char) :
      " | ".toList.intercalate (parts ++ [last]) = " | ".toList.intercalate parts ++ " | ".toList ++ last := by
    induction parts with
    | nil => exact absurd rfl filled
    | cons p parts ih =>
      cases parts with
      | nil => simp [List.intercalate]
      | cons q parts =>
        have step (l : List (List Char)) : " | ".toList.intercalate (p :: q :: l) =
            p ++ " | ".toList ++ " | ".toList.intercalate (q :: l) := by simp [List.intercalate]
        rw [List.cons_append,List.cons_append,step,← List.cons_append,ih (by simp),step]
        simp only [List.append_assoc]
  rw [row,String.toList_append,String.toList_intercalate,List.map_append,List.map_singleton,
    bar _ (by simpa using filled)]
  simp

/-- What stands ahead of the comment decides which line it begins in. -/
theorem rowLines_open (cells : List String) (filled : cells ≠ []) : ∃ earlier start, ∀ comment,
    rowLines cells comment = earlier ++ documentLines (' ' :: '|' :: ' ' :: start) ((cell comment).toList ++ ['\n']) := by
  obtain ⟨earlier,start,onward⟩ := documentLines_space [] (" | ".toList.intercalate (cells.map String.toList))
  refine ⟨earlier,start,fun comment => ?_⟩
  rw [rowLines,row_last cells filled,onward,documentLines_inner _ '|' _ (by decide),documentLines_inner _ ' ' _ (by decide)]
  rfl

theorem documentLines_cell (start : List Char) (comment : String) (single : '\r' ∉ (cell comment).toList) :
    documentLines (' ' :: '|' :: ' ' :: start) ((cell comment).toList ++ ['\n']) =
      [start.reverse ++ ' ' :: '|' :: ' ' :: escapePipes (described comment).toList] := by
  rw [documentLines_unbroken _ _ _ (cell_single comment) single,documentLines_feed,cell_read]
  simp [documentLines]

/-- No return ends a cell, so something is left behind the first one for another line. -/
theorem documentLines_cell_split (start : List Char) (comment : String) (returned : '\r' ∈ (cell comment).toList) :
    ∃ line next rest, documentLines start ((cell comment).toList ++ ['\n']) = line :: next :: rest := by
  obtain ⟨ahead,behind,split,first⟩ := List.eq_append_cons_of_mem returned
  obtain ⟨fedAhead,fedBehind⟩ := not_or.mp (List.mem_append.not.mp (split ▸ cell_single comment))
  have left : behind ≠ [] := by
    rintro rfl
    have last : (cell comment).toList.getLast? = some '\r' := by rw [split,List.getLast?_concat]
    rw [cell_signs,escapePipes_last] at last
    exact absurd ((Comment.singleLine_trimmed comment).closes '\r' last) (by decide)
  have other : (behind ++ ['\n']).head? ≠ some '\n' := by
    obtain ⟨c,behind,rfl⟩ := List.exists_cons_of_ne_nil left
    simp only [List.mem_cons,not_or] at fedBehind
    simpa using Ne.symm fedBehind.2.1
  obtain ⟨next,rest,more⟩ := List.exists_cons_of_ne_nil (documentLines_filled [] (behind ++ ['\n']) (.inr (by simp)))
  refine ⟨((ahead.map readSign).reverse ++ start).reverse,next,rest,?_⟩
  rw [split,List.append_assoc,documentLines_unbroken _ _ _ fedAhead first,List.cons_append,
    documentLines_end _ _ _ (.inr rfl) fun _ => other,more]

/-- A description stays in its row if and only if there is no carriage return in its cell. -/
theorem staysInRow_iff (cells : List String) (filled : cells ≠ []) (comment : String) :
    StaysInRow cells comment ↔ '\r' ∉ (cell comment).toList := by
  obtain ⟨earlier,start,opened⟩ := rowLines_open cells filled
  have silent : rowLines cells "" = earlier ++ [start.reverse ++ [' ','|',' ']] := by
    rw [opened,documentLines_cell start "" (by decide +kernel),described_empty]
    rfl
  constructor
  · rintro ⟨before,bare,line,_,unsaid,_,read,_⟩ returned
    obtain ⟨first,next,rest,split⟩ := documentLines_cell_split (' ' :: '|' :: ' ' :: start) comment returned
    have same : before = earlier := (List.append_inj' (unsaid.symm.trans silent) rfl).1
    rw [opened,split,same] at read
    exact absurd (List.append_cancel_left read) (by simp)
  · intro single
    obtain ⟨ahead,bare,last⟩ := rowCells?_last start.reverse
    obtain ⟨opens,closes⟩ := described_solid comment
    refine ⟨earlier,_,_,ahead,silent,bare,(opened comment).trans (by rw [documentLines_cell start comment single]),?_⟩
    rw [last _ opens closes]
    simp

end ReferenceSite.Reference
