import ReferenceSite.Markdown.Escape

/-! A position in a line of markdown. Indentation is measured in columns, and a tab reaches to the
next multiple of four; a tab of which only some columns are used leaves the others as spaces. -/
namespace ReferenceSite.Markdown

structure Cursor where
  spare : Nat
  column : Nat
  rest : List Char

namespace Cursor

def start (line : List Char) : Cursor := ⟨0,0,line⟩

def tabWidth (column : Nat) : Nat := 4 - column % 4

def blankColumns (column : Nat) : List Char → Nat
  | ' ' :: rest => blankColumns (column + 1) rest + 1
  | '\t' :: rest => blankColumns (column + tabWidth column) rest + tabWidth column
  | _ => 0

def indent (c : Cursor) : Nat := c.spare + blankColumns (c.column + c.spare) c.rest

/-- The number of characters of the white space; an unfinished tab is one of them. -/
def blankLength (c : Cursor) : Nat :=
  (if c.spare = 0 then 0 else 1) + (c.rest.takeWhile isSpaceOrTab).length

def body (c : Cursor) : List Char := c.rest.dropWhile isSpaceOrTab

def isBlank (c : Cursor) : Bool := c.body.isEmpty

def skipColumns : Nat → Cursor → Cursor
  | 0,c => c
  | n + 1,⟨spare + 1,column,rest⟩ => skipColumns n ⟨spare,column + 1,rest⟩
  | n + 1,⟨0,column,' ' :: rest⟩ => skipColumns n ⟨0,column + 1,rest⟩
  | n + 1,⟨0,column,'\t' :: rest⟩ => skipColumns n ⟨tabWidth column - 1,column + 1,rest⟩
  | _ + 1,c => c

def skipBody (n : Nat) (c : Cursor) : Cursor := ⟨0,c.column + c.indent + n,c.body.drop n⟩

def skipOne (c : Cursor) : Cursor := c.skipColumns 1

def finish (c : Cursor) : Cursor := ⟨0,c.column,[]⟩

def text (c : Cursor) : List Char := List.replicate c.spare ' ' ++ c.rest

theorem skipColumns_length (n : Nat) (c : Cursor) : (skipColumns n c).rest.length ≤ c.rest.length := by
  fun_induction skipColumns n c <;> grind

theorem skipOne_length (c : Cursor) : c.skipOne.rest.length ≤ c.rest.length := skipColumns_length 1 c

theorem body_length (c : Cursor) : c.body.length ≤ c.rest.length :=
  (List.dropWhile_suffix _).length_le

theorem skipBody_length {n : Nat} {c : Cursor} (pos : 0 < n) (some : c.body ≠ []) :
    (c.skipBody n).rest.length < c.rest.length := by
  have := c.body_length
  have := List.length_pos_iff.2 some
  simp only [skipBody,List.length_drop]
  omega

end Cursor
end ReferenceSite.Markdown
