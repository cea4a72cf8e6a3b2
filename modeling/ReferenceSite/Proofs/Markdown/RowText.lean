import ReferenceSite.Proofs.Markdown.BlockLines

/-! Table rows of three cells. The third may hold any text with its pipes escaped, or nothing. -/
namespace ReferenceSite.Markdown
open ReferenceSite.Text

/-! Lines that begin with an ordinary sign or with code. -/

theorem Quiet.of_first (c : Char) (s : List Char) (solid : isSpace c = false)
    (ordinary : c ∉ ['#','>','`','~','<','*','-','+','_']) (letter : c.isDigit = false) : Quiet (c :: s) := by
  simp only [List.mem_cons,List.not_mem_nil,or_false,not_or] at ordinary
  refine ⟨⟨c,rfl,solid⟩,?_,?_,?_,?_,?_,?_⟩
  · simp [ordinary]
  · simp [headingMarker?,ordinary]
  · simp [fenceMarker?,ordinary]
  · rw [RawBlock.start?]
    intro _ same
    exact ordinary.2.2.2.2.1 (List.cons.inj same).1
  · simp [isRule,ordinary]
  · simp [itemMarker?,markerAt?,ordinary,letter]

theorem Quiet.of_code (s : List Char) (single : s.head? ≠ some '`') : Quiet ('`' :: s) := by
  have run : s.takeWhile (· = '`') = [] := by
    cases s with
    | nil => rfl
    | cons c s => simp [show c ≠ '`' by simpa using single]
  refine ⟨⟨'`',rfl,by decide⟩,by simp,by simp [headingMarker?],by simp [fenceMarker?,run],?_,by simp [isRule],?_⟩
  · rw [RawBlock.start?]
    simp
  · simp [itemMarker?,markerAt?]

/-! Cells. -/

def escapePipes (s : List Char) : List Char := s.flatMap fun c => if c = '|' then ['\\','|'] else [c]

theorem escapePipes_bar (s : List Char) : escapePipes ('|' :: s) = '\\' :: '|' :: escapePipes s := rfl

theorem escapePipes_other (c : Char) (s : List Char) (other : c ≠ '|') : escapePipes (c :: s) = c :: escapePipes s := by
  simp [escapePipes,other]

theorem escapePipes_head (s : List Char) : (escapePipes s).head? ≠ some '|' := by
  cases s with
  | nil => simp [escapePipes]
  | cons c s =>
    by_cases pipe : c = '|'
    · simp [escapePipes,pipe]
    · simp [escapePipes,pipe]

theorem unescapePipes_escapePipes (s : List Char) : unescapePipes (escapePipes s) = s := by
  induction s with
  | nil => rfl
  | cons c s ih =>
    by_cases pipe : c = '|'
    · subst pipe
      rw [escapePipes_bar s,unescapePipes,ih]
    · rw [escapePipes_other c s pipe,unescapePipes,ih]
      intro rest _ same
      exact escapePipes_head s (by simp [same])

theorem unescapePipes_none (s : List Char) (none : '|' ∉ s) : unescapePipes s = s := by
  induction s with
  | nil => rfl
  | cons c s ih =>
    obtain ⟨_,later⟩ := not_or.mp (List.mem_cons.not.mp none)
    rw [unescapePipes,ih later]
    rintro rest _ rfl
    exact later (by simp)

theorem cellsFrom_last (current s : List Char) : cellsFrom false current (escapePipes s) =
    if (current.isEmpty && s.isEmpty) = true then [] else [current.reverse ++ escapePipes s] := by
  induction s generalizing current with
  | nil => simp [escapePipes,cellsFrom]
  | cons c s ih =>
    by_cases pipe : c = '|'
    · subst pipe
      simp [escapePipes_bar s,cellsFrom,ih]
    · simp [escapePipes_other c s pipe,cellsFrom,pipe,ih]

theorem cellsFrom_skip (s : List Char) : cellsFrom true [] (escapePipes s) =
    if s.dropWhile isSpace = [] then [] else [escapePipes (s.dropWhile isSpace)] := by
  induction s with
  | nil => rfl
  | cons c s ih =>
    by_cases space : isSpace c = true
    · have other : c ≠ '|' := by
        rintro rfl
        exact absurd space (by decide)
      simp [escapePipes_other c s other,cellsFrom,space,ih]
    · rw [List.dropWhile_cons_of_neg space,if_neg (by simp)]
      have begun : cellsFrom true [] (escapePipes (c :: s)) = cellsFrom false [] (escapePipes (c :: s)) := by
        by_cases pipe : c = '|'
        · subst pipe
          rfl
        · simp [escapePipes,pipe,cellsFrom,space]
      rw [begun,cellsFrom_last]
      simp

/-- A cell that is kept as it is: no pipes, and no white space at its ends. -/
structure IsCell (p : List Char) : Prop where
  pipes : '|' ∉ p
  opens : IsSolid p
  closes : ∃ c, p.getLast? = some c ∧ isSpace c = false

theorem cellsFrom_cell (current p rest : List Char) (none : '|' ∉ p) :
    cellsFrom false current (p ++ ' ' :: '|' :: ' ' :: rest) =
      (current.reverse ++ p ++ [' ']) :: cellsFrom true [] rest := by
  induction p generalizing current with
  | nil => simp [cellsFrom,isSpace]
  | cons c p ih =>
    obtain ⟨other,later⟩ := not_or.mp (List.mem_cons.not.mp none)
    simp [cellsFrom,Ne.symm other,ih _ later]

theorem IsCell.cellsFrom {p : List Char} (cell : IsCell p) (skip : Bool) (rest : List Char) :
    cellsFrom skip [] (p ++ ' ' :: '|' :: ' ' :: rest) = (p ++ [' ']) :: cellsFrom true [] rest := by
  have same : Markdown.cellsFrom skip [] (p ++ ' ' :: '|' :: ' ' :: rest) =
      Markdown.cellsFrom false [] (p ++ ' ' :: '|' :: ' ' :: rest) := by
    obtain ⟨c,first,solid⟩ := cell.opens
    cases p with
    | nil => simp at first
    | cons d p =>
      obtain rfl : d = c := by simpa using first
      simp [Markdown.cellsFrom,solid]
  rw [same,cellsFrom_cell [] p rest cell.pipes]
  rfl

theorem IsCell.kept {p : List Char} (cell : IsCell p) : trimSpace (unescapePipes (p ++ [' '])) = p := by
  have none : '|' ∉ p ++ [' '] := by simpa using cell.pipes
  obtain ⟨c,first,opens⟩ := cell.opens
  obtain ⟨d,last,closes⟩ := cell.closes
  have front : (p ++ [' ']).dropWhile isSpace = p ++ [' '] :=
    dropWhile_kept isSpace _ fun e found => by
      have same : some c = some e := by rw [← found]; simp [first]
      cases same
      exact opens
  have back := dropWhile_past isSpace [' '] p.reverse (List.forall_mem_singleton.mpr (by decide)) fun e found => by
    have same : some d = some e := by rw [← found]; simp [last]
    cases same
    exact closes
  rw [unescapePipes_none _ none,trimSpace,front,List.reverse_append,List.reverse_singleton,back,
    List.reverse_reverse]

theorem trimSpace_skipped (s : List Char) : trimSpace (s.dropWhile isSpace) = trimSpace s := by
  have again : (s.dropWhile isSpace).dropWhile isSpace = s.dropWhile isSpace :=
    dropWhile_kept isSpace _ (dropWhile_stops isSpace s)
  rw [trimSpace,again,trimSpace]

theorem IsCell.solid {p : List Char} (cell : IsCell p) (rest : List Char) : (p ++ rest).head? ≠ some '|' := by
  obtain ⟨c,begins,_⟩ := cell.opens
  rintro pipe
  have same : some c = some '|' := by rw [← pipe]; simp [begins]
  cases same
  exact cell.pipes (List.mem_of_head? begins)

theorem rowCells?_three (a b s : List Char) (first : IsCell a) (second : IsCell b) :
    ∃ cells, rowCells? (a ++ ' ' :: '|' :: ' ' :: (b ++ ' ' :: '|' :: ' ' :: escapePipes s)) = some cells ∧
      cellNodes 3 cells = [a,b,trimSpace s].map fun cell => .node .tableCell (inlines [] cell) := by
  simp only [rowCells?,if_neg (first.solid _),first.cellsFrom,second.cellsFrom,cellsFrom_skip]
  refine ⟨_,rfl,?_⟩
  split
  · rename_i blank
    have empty : trimSpace s = [] := by simp [trimSpace,blank]
    simp [cellNodes,first.kept,second.kept,empty]
  · simp [cellNodes,first.kept,second.kept,unescapePipes_escapePipes,trimSpace_skipped]

end ReferenceSite.Markdown
