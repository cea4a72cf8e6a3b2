import ReferenceSite.Markdown.Cursor
import ReferenceSite.Markdown.Reference
import ReferenceSite.Markdown.TableRow
import ReferenceSite.Markdown.Tag

/-! The block structure of a document. Lines are read one after the other; each line first continues
the blocks that are open, from the outermost on, then opens new ones, and its rest becomes text of
the innermost. Text is kept as it is; its inline structure is a later matter. -/
namespace ReferenceSite.Markdown

inductive Shape where
  | document
  | quote
  | list (start : Option Nat) (mark : Char)
  /-- An item is continued by lines that are indented this far; it began in the given line. -/
  | item (indent line : Nat)
  | paragraph (refused : Bool)
  | heading (level : Nat)
  | fenced (mark : Char) (length indent : Nat)
  | indented
  | raw (kind : RawBlock)
  | rule
  | table (alignments : List Alignment)
  | row (header : Bool)
  | cell
deriving DecidableEq

/-- A block that is complete. `blankEnd` tells that it is followed by a blank line, as far as that
matters for the lists around it. -/
inductive Block where
  | block (shape : Shape) (text : List Char) (blankEnd : Bool) (children : List Block)

structure OpenBlock where
  shape : Shape
  text : List Char
  blankEnd : Bool
  children : List Block

namespace Shape

def isParagraph : Shape → Bool
  | paragraph _ => true
  | _ => false

def holds : Shape → Shape → Bool
  | list ..,item .. => true
  | list ..,_ => false
  | table _,row _ => true
  | row _,cell => true
  | document,item .. | quote,item .. | item ..,item .. => false
  | document,_ | quote,_ | item ..,_ => true
  | _,_ => false

end Shape

namespace Block

def shape : Block → Shape
  | block shape _ _ _ => shape

def markBlank : Block → Block
  | block shape text _ children => block shape text true children

mutual
def endsBlank : Block → Bool
  | block shape _ blankEnd children =>
    blankEnd || match shape with
    | .list .. | .item .. => lastEndsBlank children
    | _ => false

def lastEndsBlank : List Block → Bool
  | [] => false
  | [b] => endsBlank b
  | _ :: rest => lastEndsBlank rest
end

def separated (last : Bool) : List Block → Bool
  | [] => false
  | b :: rest => ((! last || ! rest.isEmpty) && b.endsBlank) || separated last rest

/-- A list is tight if no blank line separates its items or the blocks of one of them. -/
def isTight : List Block → Bool
  | [] => true
  | block _ _ blankEnd children :: rest =>
    ! (blankEnd && ! rest.isEmpty) && ! separated rest.isEmpty children && isTight rest

end Block

/-! ### Text of leaves -/

def trimBlankLines (s : List Char) : List Char :=
  let blank := (s.reverse.takeWhile fun c => isSpaceOrTab c || c = '\n').reverse
  let kept := s.take (s.length - blank.length)
  if kept.isEmpty then ['\n'] else kept ++ blank.takeWhile (· ≠ '\n') ++ ['\n']

def chopClosing (s : List Char) : List Char :=
  let s := trimSpaceEnd s
  let before := (s.reverse.dropWhile (· = '#')).reverse
  if before.length < s.length ∧ before.getLast?.all isSpaceOrTab then trimSpaceEnd before else s

/-! ### Markers -/

def headingMarker? (s : List Char) : Option (Nat × Nat) :=
  let level := (s.takeWhile (· = '#')).length
  let after := s.drop level
  if 1 ≤ level ∧ level ≤ 6 ∧ after.head?.all isSpaceOrTab then
    some (level,level + (after.takeWhile isSpaceOrTab).length)
  else none

/-- A fence: its character and its length. Backticks do not occur behind a fence of backticks. -/
def fenceMarker? (s : List Char) : Option (Char × Nat) :=
  match s with
  | c :: _ =>
    let length := (s.takeWhile (· = c)).length
    if (c = '~' ∨ (c = '`' ∧ ! (s.drop length).contains '`')) ∧ 3 ≤ length then some (c,length)
    else none
  | [] => none

def closesFence (mark : Char) (length : Nat) (s : List Char) : Bool :=
  let n := (s.takeWhile (· = mark)).length
  3 ≤ n && length ≤ n && (s.drop n).all isSpaceOrTab

def underline? (s : List Char) : Option Nat :=
  match s with
  | c :: _ =>
    if (c = '=' ∨ c = '-') ∧ (s.dropWhile (· = c)).all isSpaceOrTab then
      some (if c = '=' then 1 else 2)
    else none
  | [] => none

def isRule (s : List Char) : Bool :=
  match s with
  | c :: _ =>
    (c = '*' || c = '_' || c = '-') && s.all (fun d => d = c || isSpaceOrTab d) && 3 ≤ s.count c
  | [] => false

def itemDigits : Nat := 9

/-- What looks like the marker of a list item: the start of a numbered list, the mark, and the
characters of the marker. -/
def markerAt? (s : List Char) : Option (Option Nat × Char × Nat) :=
  match s with
  | c :: _ =>
    if c = '*' ∨ c = '-' ∨ c = '+' then some (none,c,1)
    else
      let digits := s.takeWhile Char.isDigit
      match s.drop digits.length with
      | d :: _ =>
        if 1 ≤ digits.length ∧ digits.length ≤ itemDigits ∧ (d = '.' ∨ d = ')') then
          some (some (digits.foldl (fun n c => 10 * n + (c.toNat - 48)) 0),d,digits.length + 1)
        else none
      | [] => none
  | [] => none

/-- The marker of a list item, set off by a space. A paragraph is only interrupted by an item with
text, and by a numbered one only at one. -/
def itemMarker? (interrupts : Bool) (s : List Char) : Option (Option Nat × Char × Nat) :=
  (markerAt? s).filter fun (start,_,n) =>
    (s.drop n).head?.all isSpace &&
      ! (interrupts && ((s.drop n).all isSpaceOrTab || start.any (· ≠ 1)))

/-! ### Open blocks -/

structure Outline where
  top : OpenBlock
  outer : List OpenBlock
  references : References

namespace Outline

def start : Outline := ⟨⟨.document,[],false,[]⟩,[],[]⟩

def depth (o : Outline) : Nat := o.outer.length + 1

def addText (o : Outline) (s : List Char) : Outline :=
  { o with top.text := o.top.text ++ s }

/-- The complete block that an open one becomes, if anything is left of it once definitions are
taken from its front. -/
def complete (b : OpenBlock) (references : References) : References × Option Block :=
  let done (text : List Char) : Option Block :=
    some (.block b.shape text b.blankEnd b.children.reverse)
  match b.shape with
  | .paragraph _ =>
    let (references,text) := takeDefinitions b.text.length references b.text
    (references,if text.all isSpace then none else done text)
  | .indented => (references,done (trimBlankLines b.text))
  | _ => (references,done b.text)

def close (o : Outline) : Outline :=
  match o.outer with
  | [] => o
  | parent :: outer =>
    let (references,block) := complete o.top o.references
    ⟨{ parent with children := block.toList ++ parent.children },outer,references⟩

def closeTo (n : Nat) (o : Outline) : Outline := (o.depth - n).repeat close o

def closeFor (shape : Shape) : Nat → Outline → Outline
  | 0,o => o
  | n + 1,o => if o.top.shape.holds shape then o else closeFor shape n o.close

def push (o : Outline) (shape : Shape) : Outline :=
  let o := o.closeFor shape o.outer.length
  ⟨⟨shape,[],false,[]⟩,o.top :: o.outer,o.references⟩

def attach (o : Outline) (blocks : List Block) : Outline :=
  { o with top.children := blocks.reverse ++ o.top.children }

end Outline

/-! ### Continuing blocks -/

inductive Meeting where
  | continued (c : Cursor)
  | ended
  | fence

def Meeting.of (continued : Bool) (next : Cursor) : Meeting :=
  if continued then .continued next else .ended

/-- Meets a block; `inner` tells that another open block is inside it. -/
def OpenBlock.meet (b : OpenBlock) (inner : Bool) (c : Cursor) : Meeting :=
  match b.shape with
  | .document | .list .. | .rule => .continued c
  | .quote =>
    Meeting.of (decide (c.indent ≤ 3) && c.body.head? == some '>') ((c.skipBody 1).skipOne)
  | .item indent _ =>
    if indent ≤ c.indent then .continued (c.skipColumns indent)
    else Meeting.of (c.isBlank && (inner || ! b.children.isEmpty)) c.finish
  | .paragraph _ => Meeting.of (! c.isBlank) c
  | .raw kind => Meeting.of (! (kind.endsBlank && c.isBlank)) c
  | .indented =>
    if 4 ≤ c.indent then .continued (c.skipColumns 4) else Meeting.of c.isBlank c.finish
  | .fenced mark length indent =>
    if c.indent ≤ 3 ∧ closesFence mark length c.body then .fence
    else .continued (c.skipColumns indent)
  | .table _ => Meeting.of (rowCells? c.body).isSome c
  | .heading _ | .row _ | .cell => .ended

/-- Follows a line through open blocks, the outermost first: how many it continues, and where in
the line that leaves off. Nothing is left if the line closes a fence. -/
def meetAll (n : Nat) (c : Cursor) : List OpenBlock → Nat × Option Cursor
  | [] => (n,some c)
  | b :: rest =>
    match b.meet (! rest.isEmpty) c with
    | .continued c => meetAll (n + 1) c rest
    | .ended => (n,some c)
    | .fence => (n,none)

/-! ### Opening blocks -/

/-- Lists that open within one line nest no deeper. -/
def listLimit : Nat := 100

/-- The item that a marker opens at the cursor, the cursor behind the marker, and its indentation:
the text begins one to four columns behind the marker, and otherwise right behind the first. -/
def itemIndent (c : Cursor) (marker : Nat) : Nat × Cursor :=
  let after := c.skipBody marker
  let gap := after.indent
  if 1 ≤ gap ∧ gap ≤ 4 ∧ ! after.isBlank then (c.indent + marker + gap,after.skipColumns gap)
  else (c.indent + marker + 1,after.skipColumns 1)

theorem itemMarker?_some {interrupts : Bool} {s : List Char} {start : Option Nat} {mark : Char}
    {n : Nat} (h : itemMarker? interrupts s = some (start,mark,n)) : 0 < n ∧ s ≠ [] := by
  have found := (Option.filter_eq_some_iff.1 h).1
  simp only [markerAt?] at found
  split at found
  · split at found
    · cases found
      simp
    · split at found
      · split at found
        · cases found
          simp
        · cases found
      · cases found
  · cases found

theorem itemIndent_length {c : Cursor} {n : Nat} (pos : 0 < n) (some : c.body ≠ []) :
    (itemIndent c n).2.rest.length < c.rest.length := by
  have shorter := Cursor.skipBody_length pos some
  simp only [itemIndent]
  split
  · exact Nat.lt_of_le_of_lt (Cursor.skipColumns_length _ _) shorter
  · exact Nat.lt_of_le_of_lt (Cursor.skipColumns_length _ _) shorter

/-- Turns the innermost paragraph into a table if its last line and the current one are a head and a
delimiter row of equal length. Earlier lines stay a paragraph. Otherwise the paragraph is refused,
unless the line does not look like a delimiter row. -/
def openTable (o : Outline) (line : List Char) : Option Outline :=
  if isDelimiterRow line then
    let lines := (o.top.text.splitOn '\n').dropLast
    match rowCells? line,rowCells? (lines.getLastD []) with
    | some delimiters,some heads =>
      if delimiters.length = heads.length then
        let before := unescapePipes ((lines.dropLast.intersperse ['\n']).flatten)
        let paragraph := Block.block (.paragraph true) (trimSpace before) false []
        let head := Block.block (.row true) [] false
          (heads.map fun cell => .block .cell cell false [])
        match o.outer with
        | parent :: outer =>
          let earlier := if lines.length ≤ 1 then [] else [paragraph]
          some ⟨⟨.table (delimiters.map alignment),[],false,[head]⟩,
            { parent with children := earlier ++ parent.children } :: outer,o.references⟩
        | [] => none
      else none
    | _,_ => none
  else none

def openRow (o : Outline) (alignments : List Alignment) (cells : List (List Char)) : Outline :=
  let padded := cells.take alignments.length ++
    List.replicate (alignments.length - cells.length) []
  (o.push (.row false)).attach (padded.map fun cell => .block .cell cell false [])

/-- Opens the blocks that begin at the cursor. `lazy` tells that the line could also continue a
paragraph; answers whether anything was opened. -/
def openBlocks (line depth : Nat) (lazy opened : Bool) (o : Outline) (c : Cursor) :
    Outline × Cursor × Bool :=
  let indented : Bool := 4 ≤ c.indent
  let interrupts := o.top.shape.isParagraph
  match o.top.shape with
  | .fenced .. | .indented | .raw _ => (o,c,opened)
  | shape =>
    if quote : ! indented ∧ c.body.head? = some '>' then
      openBlocks line (depth + 1) false true (o.push .quote) ((c.skipBody 1).skipOne)
    else match if indented then none else headingMarker? c.body with
    | some (level,n) => (o.push (.heading level),c.skipBody n,true)
    | none =>
    match if indented then none else fenceMarker? c.body with
    | some (mark,length) => (o.push (.fenced mark length c.blankLength),c.skipBody length,true)
    | none =>
    match if indented then none else RawBlock.start? interrupts c.body with
    | some kind => (o.push (.raw kind),c,true)
    | none =>
    match if indented || ! interrupts then none else underline? c.body with
    | some level =>
      let (references,text) := takeDefinitions o.top.text.length o.references o.top.text
      if text.all isSpace then ({ o with top.text := text, references := references },c,true)
      else ({ o with top := { o.top with shape := .heading level, text := text },
                     references := references },c.finish,true)
    | none =>
    if ! indented ∧ isRule c.body then (o.push .rule,c.finish,true)
    else match _marker : if indented || listLimit ≤ depth then none
        else itemMarker? interrupts c.body with
    | some (start,mark,n) =>
      let inList := match shape with
        | .list start' mark' => start'.isSome == start.isSome && mark' == mark
        | _ => false
      let o := if inList then o else o.push (.list start mark)
      openBlocks line (depth + 1) false true (o.push (.item (itemIndent c n).1 line)) (itemIndent c n).2
    | none =>
    if indented ∧ ! lazy ∧ ! c.isBlank then (o.push .indented,c.skipColumns 4,true)
    else match shape with
    | .paragraph false =>
      if indented then (o,c,opened)
      else match openTable o c.body with
      | some o => (o,c.finish,true)
      | none =>
        ({ o with top.shape := .paragraph (isDelimiterRow c.body) },c,opened)
    | .table alignments =>
      match if indented then none else rowCells? c.body with
      | some cells => (openRow o alignments cells,c.finish,true)
      | none => (o,c,opened)
    | _ => (o,c,opened)
termination_by c.rest.length
decreasing_by
  · have some : c.body ≠ [] := by
      intro none
      simp [none] at quote
    exact Nat.lt_of_le_of_lt (Cursor.skipOne_length _) (Cursor.skipBody_length Nat.one_pos some)
  · split at _marker
    · cases _marker
    · obtain ⟨pos,some⟩ := itemMarker?_some _marker
      exact itemIndent_length pos some

/-! ### Reading lines -/

def endsAtBlank (line : Nat) (b : OpenBlock) : Bool :=
  match b.shape with
  | .quote | .heading _ | .rule | .fenced .. => false
  | .item _ first => ! b.children.isEmpty || first != line
  | _ => true

def unmark (blocks : List OpenBlock) : List OpenBlock := blocks.map ({ · with blankEnd := false })

def addRest (line : Nat) (o : Outline) (c : Cursor) : Outline :=
  let o := { o with
    top.blankEnd := c.isBlank && endsAtBlank line o.top
    outer := unmark o.outer }
  match o.top.shape with
  | .fenced .. | .indented => o.addText (c.text ++ ['\n'])
  | .raw kind =>
    let o := o.addText (c.text ++ ['\n'])
    if kind.endsIn c.body then o.close else o
  | shape =>
    if c.isBlank then o
    else match shape with
    | .heading _ => o.addText (chopClosing c.body)
    | .paragraph _ => o.addText (c.body ++ ['\n'])
    | _ => (o.push (.paragraph false)).addText (c.body ++ ['\n'])

/-- Reads one line. A line that opens nothing continues a paragraph even where it leaves the blocks
around that paragraph. -/
def readLine (o : Outline) (line : Nat) (text : List Char) : Outline :=
  match meetAll 0 (.start text) (o.top :: o.outer).reverse with
  | (n,none) => o.closeTo n
  | (n,some c) =>
    let inParagraph := o.top.shape.isParagraph
    let (next,c,opened) := openBlocks line 0 inParagraph false (o.closeTo n) c
    if opened then addRest line next c
    else if n < o.depth then
      if inParagraph ∧ ! c.isBlank then
        { o with outer := unmark o.outer }.addText (c.text ++ ['\n'])
      else if c.isBlank then
        let left := o.closeTo (n + 1)
        addRest line ({ left with top.blankEnd := true }.close) c
      else addRest line next c
    else if c.isBlank then
      let children := match next.top.children with
        | last :: before => last.markBlank :: before
        | [] => []
      addRest line { next with top.children := children } c
    else addRest line next c

def readLines (o : Outline) (line : Nat) : List (List Char) → Outline
  | [] => o
  | text :: rest => readLines (readLine o line text) (line + 1) rest

/-- The lines of a document. A carriage return, a line feed, or both together end a line. -/
def documentLines (current : List Char) : List Char → List (List Char)
  | [] => if current.isEmpty then [] else [current.reverse]
  | '\r' :: '\n' :: rest => current.reverse :: documentLines [] rest
  | c :: rest =>
    if c = '\n' ∨ c = '\r' then current.reverse :: documentLines [] rest
    else documentLines ((if c = '\x00' then '\uFFFD' else c) :: current) rest

def blocks (text : List Char) : References × List Block :=
  let text := if text.head? = some '\uFEFF' then text.drop 1 else text
  let o := (readLines .start 1 (documentLines [] text)).closeTo 1
  (o.references,o.top.children.reverse)

end ReferenceSite.Markdown
