import ReferenceSite.Markdown.Autolink
import ReferenceSite.Markdown.Emphasis
import ReferenceSite.Markdown.Reference
import ReferenceSite.Markdown.Tag

/-! The inline structure of a paragraph, a heading or a table cell: text, code, links, images, raw
tags and emphasis. The text is read once from left to right. An opening bracket stays open until
its closing bracket either makes a link of all that lies between or turns it into text. -/
namespace ReferenceSite.Markdown
open ReferenceSite.Text

inductive Token where
  | piece (p : Piece)
  /-- An opening bracket, the text behind it, and whether another bracket opened behind it. -/
  | bracket (image : Bool) (inside : List Char) (nested : Bool)

def Token.text (s : List Char) : Token := .piece (.node (.text s))

def Token.bracketText (image : Bool) : Token := .text (if image then ['!','['] else ['['])

/-- A bracket that was never closed is text. -/
def Token.settle : Token → Piece
  | .piece p => p
  | .bracket image _ _ => .node (.text (if image then ['!','['] else ['[']))

structure Reading where
  tokens : List Token
  /-- Set by a link until the next bracket opens: brackets before the link cannot become links. -/
  linkClosed : Bool
  /-- Whether the last bracket read is an opening one. Addresses do not link themselves there. -/
  inBrackets : Bool

namespace Reading

def start : Reading := ⟨[],false,false⟩

def push (r : Reading) (t : Token) : Reading := { r with tokens := t :: r.tokens }

def pushText (r : Reading) (s : List Char) : Reading := r.push (.text s)

def pushNode (r : Reading) (n : Node) : Reading := r.push (.piece (.node n))

def markNested : List Token → List Token
  | [] => []
  | .bracket image inside _ :: rest => .bracket image inside true :: rest
  | t :: rest => t :: markNested rest

def openBracket (r : Reading) (image : Bool) (inside : List Char) : Reading where
  tokens := .bracket image inside false :: markNested r.tokens
  linkClosed := if image then r.linkClosed else false
  inBrackets := true

def splitBracket? : List Token →
    Option (List Piece × (Bool × List Char × Bool) × List Token)
  | [] => none
  | .bracket image inside nested :: rest => some ([],(image,inside,nested),rest)
  | .piece p :: rest => (splitBracket? rest).map fun (between,b,before) => (p :: between,b,before)

def unread (r : Reading) (n : Nat) : Reading :=
  match r.tokens with
  | .piece (.node (.node (.text s) _)) :: rest =>
    let kept := s.toList.take (s.toList.length - n)
    { r with tokens := if kept.isEmpty then rest else .text kept :: rest }
  | _ => r

end Reading

/-! ### Delimiter runs -/

def isPunctuationOrSymbol (c : Char) : Bool := isPunctuation c || isSymbol c

/-- A run between two characters: whether it can open and whether it can close. Next to a letter or
digit an underscore does neither within a word. -/
def flanking (delimiter before after : Char) : Bool × Bool :=
  let left := ! isBlank after &&
    (! isPunctuationOrSymbol after || isBlank before || isPunctuationOrSymbol before)
  let right := ! isBlank before &&
    (! isPunctuationOrSymbol before || isBlank after || isPunctuationOrSymbol after)
  if delimiter = '_' then
    (left && (! right || isPunctuationOrSymbol before),right && (! left || isPunctuationOrSymbol after))
  else (left,right)

/-- The neighbour of a run; tildes are passed over, and the end of the text counts as a line end. -/
def neighbour (s : List Char) : Char := (s.dropWhile (· = '~')).head?.getD '\n'

def delimiterRun (c : Char) (before rest : List Char) : Delimiter :=
  let n := (rest.takeWhile (· = c)).length + 1
  let (opens,closes) := flanking c (neighbour before) (neighbour (rest.drop (n - 1)))
  ⟨c,n,n,opens,closes⟩

/-! ### Code -/

/-- Longer runs of backticks never open code. -/
def backtickLimit : Nat := 80

/-- The characters up to the end of the first run of exactly `n` backticks; `run` of the current
run are already read. -/
def closingBackticks? (n run : Nat) : List Char → Option Nat
  | [] => if run = n then some 0 else none
  | c :: rest =>
    if c = '`' then (closingBackticks? n (run + 1) rest).map (· + 1)
    else if run = n then some 0
    else (closingBackticks? n 0 rest).map (· + 1)

/-- Line ends are spaces; one space on either side is dropped unless there is nothing else. -/
def codeText (s : List Char) : List Char :=
  let s := s.map fun c => if c = '\n' then ' ' else c
  if s.head? = some ' ' ∧ s.getLast? = some ' ' ∧ s.any (· ≠ ' ') then (s.drop 1).dropLast else s

/-! ### Links -/

def scanInlineTarget? : List Char → Option (Reference × Nat)
  | '(' :: rest => do
    let lead := (rest.takeWhile isSpace).length
    let (destination,n) ← scanDestination? (rest.drop lead)
    let behind := rest.drop (lead + n)
    let gap := (behind.takeWhile isSpace).length
    let titled := behind.drop gap
    let m := if gap = 0 then 0 else (scanTitle? titled).getD 0
    let tail := (titled.drop m).takeWhile isSpace
    if titled[m + tail.length]? = some ')' then
      some (⟨cleanDestination destination,cleanTitle (titled.take m)⟩,
        lead + n + gap + m + tail.length + 2)
    else none
  | _ => none

/-- What a closing bracket leads to: a target in parentheses, or the definition of the label behind
it, or of the bracketed text itself. -/
def scanTarget? (references : References) (inside rest : List Char) (nested : Bool) :
    Option (Reference × Nat) :=
  match scanInlineTarget? rest with
  | some found => some found
  | none =>
    let own := inside.take (inside.length - (rest.length + 1))
    match scanLabel? rest with
    | some (label,n) =>
      if label.isEmpty then
        if nested then none else (references.lookup? own).map (·,n)
      else (references.lookup? label).map (·,n)
    | none => if nested then none else (references.lookup? own).map (·,0)

/-- Reads a closing bracket: the next reading, and how many characters behind it are taken. -/
def closeBracket (references : References) (r : Reading) (rest : List Char) : Reading × Nat :=
  let r := { r with inBrackets := false }
  match Reading.splitBracket? r.tokens with
  | none => (r.pushText [']'],0)
  | some (between,(image,inside,nested),before) =>
    let refused : Reading := { r with
      tokens := .text [']'] :: (between.map Token.piece ++ .bracketText image :: before) }
    if ! image ∧ r.linkClosed then (refused,0)
    else
      match scanTarget? references inside rest nested with
      | none => (refused,0)
      | some (target,n) =>
        let kind : Kind := if image then .image target.url target.title
          else .link target.url target.title
        ({ r with
          tokens := .piece (.node (.node kind (pairRuns [] between.reverse))) :: before
          linkClosed := r.linkClosed || ! image },n)

/-! ### Reading -/

def isSpecial (c : Char) : Bool := "\n_*\"`'\\&<[]!~:w".toList.contains c

def openAngle (r : Reading) (rest : List Char) : Reading × Nat :=
  let linked (n : Nat) (scheme : String) : Reading :=
    let text := unescapeEntities (rest.take (n - 1))
    let url := scheme ++ .ofList (unescapeEntities (trimSpace (rest.take (n - 1))))
    r.pushNode (.node (.link url "") [.text text])
  match scanAddress? rest with
  | some n => (linked n "",n)
  | none =>
    match scanMailAddress? rest with
    | some n => (linked n "mailto:",n)
    | none =>
      match scanMarkup? rest with
      | some n => (r.pushNode (.leaf (.htmlInline (.ofList ('<' :: rest.take n)))),n)
      | none => (r.pushText ['<'],0)

def openBackticks (r : Reading) (rest : List Char) : Reading × Nat :=
  let n := (rest.takeWhile (· = '`')).length + 1
  let body := rest.drop (n - 1)
  match if n ≤ backtickLimit then closingBackticks? n 0 body else none with
  | some m =>
    (r.pushNode (.leaf (.code (.ofList (codeText (body.take (m - n)))))),n - 1 + m)
  | none => (r.pushText (List.replicate n '`'),n - 1)

/-- Reads from the character `c` on, between what comes before it, nearest first, and what follows.
Answers how many of the following characters are taken as well. -/
def readFrom (references : References) (r : Reading) (before : List Char) (c : Char)
    (rest : List Char) : Reading × Nat :=
  match c with
  | '\n' =>
    let broken := before.take 2 = [' ',' ']
    (r.pushNode (.leaf (if broken then .lineBreak else .softBreak)),
      (rest.takeWhile isSpaceOrTab).length)
  | '`' => openBackticks r rest
  | '\\' =>
    match rest with
    | '\n' :: _ => (r.pushNode (.leaf .lineBreak),1)
    | p :: _ => if isAsciiPunctuation p then (r.pushText [p],1) else (r.pushText ['\\'],0)
    | [] => (r.pushText ['\\'],0)
  | '&' =>
    match scanEntity? rest with
    | some (characters,n) => (r.pushText characters,n)
    | none => (r.pushText ['&'],0)
  | '<' => openAngle r rest
  | '*' | '_' | '~' =>
    let d := delimiterRun c before rest
    (r.push (.piece (if d.opens || d.closes then .delimiter d
      else .node (.text (List.replicate d.length c)))),d.length - 1)
  | '[' => (r.openBracket false rest,0)
  | ']' => closeBracket references r rest
  | '!' =>
    match rest with
    | '[' :: inside => if inside.head? = some '^' then (r.pushText ['!'],0)
      else (r.openBracket true inside,1)
    | _ => (r.pushText ['!'],0)
  | ':' =>
    match if r.inBrackets then none else webLink? before (c :: rest) with
    | some (link,back,n) => ((r.unread back).pushNode link,n - 1)
    | none => (r.pushText [':'],0)
  | 'w' =>
    match if r.inBrackets then none else wwwLink? before.head? (c :: rest) with
    | some (link,n) => (r.pushNode link,n - 1)
    | none => (r.pushText ['w'],0)
  | '"' | '\'' => (r.pushText [c],0)
  | _ =>
    let more := rest.takeWhile (! isSpecial ·)
    let chunk := c :: more
    (r.pushText (if rest[more.length]? = some '\n' then trimSpaceEnd chunk else chunk),more.length)

def readAll (references : References) (r : Reading) (before : List Char) (s : List Char) : Reading :=
  match s with
  | [] => r
  | c :: rest =>
    let (next,n) := readFrom references r before c rest
    readAll references next ((rest.take n).reverse ++ c :: before) (rest.drop n)
termination_by s.length
decreasing_by
  simp only [List.length_drop,List.length_cons]
  omega

/-- Joins adjacent texts, also inside other nodes, and makes links of mail addresses in them. What is
inside links and images stays as it was read. -/
def joinText (pending : List Char) : List Node → List Node
  | [] => flush pending
  | .node kind children :: rest =>
    match kind with
    | .text s => joinText (pending ++ s.toList) rest
    | .link _ _ | .image _ _ => flush pending ++ .node kind children :: joinText [] rest
    | _ => flush pending ++ .node kind (joinText [] children) :: joinText [] rest
termination_by nodes => sizeOf nodes
where
  flush (s : List Char) : List Node := if s.isEmpty then [] else linkMail s.length s

def inlines (references : References) (s : List Char) : List Node :=
  let r := readAll references .start [] (trimSpaceEnd s)
  joinText [] (pairRuns [] (r.tokens.reverse.map Token.settle))

end ReferenceSite.Markdown
