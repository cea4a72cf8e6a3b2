import ReferenceSite.Markdown.Escape
import ReferenceSite.Text.Search

/-! Raw tags in markdown text: how far a tag, a comment, a declaration or an instruction reaches,
and which of them open a block of their own. Every scanner answers the number of characters read
behind the opening angle bracket. -/
namespace ReferenceSite.Markdown

def isLetter (c : Char) : Bool := c.isAlpha

inductive TagState where
  | name
  | gap
  | attribute
  | attributeGap
  | equals
  | unquoted
  | quoted (quote : Char)
  | afterValue
  | slash
  | finish
deriving DecidableEq

namespace TagState

def isAttributeStart (c : Char) : Bool := c.isAlpha ∨ c = '_' ∨ c = ':'

def isAttributeRest (c : Char) : Bool := c.isAlphanum ∨ "_:.-".toList.contains c

def isUnquoted (c : Char) : Bool := ! isSpace c && ! "\"'=<>`".toList.contains c

def leave (c : Char) : Option TagState :=
  if isSpace c then some .gap
  else if c = '/' then some .slash
  else if c = '>' then some .finish
  else none

def step (c : Char) : TagState → Option TagState
  | .name => if c.isAlphanum ∨ c = '-' then some .name else leave c
  | .gap => if isAttributeStart c then some .attribute else leave c
  | .attribute =>
    if isAttributeRest c then some .attribute
    else if c = '=' then some .equals
    else if isSpace c then some .attributeGap
    else leave c
  | .attributeGap =>
    if isAttributeStart c then some .attribute
    else if c = '=' then some .equals
    else if isSpace c then some .attributeGap
    else leave c
  | .equals =>
    if isSpace c then some .equals
    else if c = '"' ∨ c = '\'' then some (.quoted c)
    else if isUnquoted c then some .unquoted
    else none
  | .unquoted =>
    if isUnquoted c then some .unquoted
    else if isSpace c then some .gap
    else if c = '>' then some .finish
    else none
  | .quoted quote => if c = quote then some .afterValue else some (.quoted quote)
  | .afterValue => leave c
  | .slash => if c = '>' then some .finish else none
  | .finish => none

def run (state : TagState) : List Char → Option Nat
  | [] => none
  | c :: rest =>
    match step c state with
    | none => none
    | some .finish => some 1
    | some next => (run next rest).map (· + 1)

end TagState

def scanOpenTag? : List Char → Option Nat
  | c :: rest => if isLetter c then (TagState.run .name rest).map (· + 1) else none
  | [] => none

def scanCloseTag? : List Char → Option Nat
  | '/' :: c :: rest =>
    if isLetter c then
      let name := rest.takeWhile fun c => c.isAlphanum || c = '-'
      let tail := rest.drop name.length
      let gap := tail.takeWhile isSpace
      if tail[gap.length]? = some '>' then some (name.length + gap.length + 3) else none
    else none
  | _ => none

def scanTag? (s : List Char) : Option Nat := (scanOpenTag? s).or (scanCloseTag? s)

def lengthThrough? (mark s : List Char) : Option Nat :=
  (Text.splitFirst? mark s).map fun (before,_) => before.length + mark.length

def scanMarkup? (s : List Char) : Option Nat :=
  match s with
  | '!' :: '-' :: '-' :: '>' :: _ => some 4
  | '!' :: '-' :: '-' :: '-' :: '>' :: _ => some 5
  | '!' :: '-' :: '-' :: rest => (lengthThrough? "-->".toList rest).map (· + 3)
  | '!' :: '[' :: rest =>
    match Text.dropPrefix? "CDATA[".toList rest with
    | some data => (lengthThrough? "]]>".toList data).map (· + 8)
    | none => none
  | '!' :: c :: rest => if isLetter c then (lengthThrough? ['>'] rest).map (· + 2) else none
  | '?' :: rest => (lengthThrough? "?>".toList rest).map (· + 1)
  | _ => scanTag? s

def scanAddress? (s : List Char) : Option Nat :=
  match s with
  | c :: rest =>
    let scheme := rest.takeWhile fun c => c.isAlphanum || ".+-".toList.contains c
    let after := rest.drop scheme.length
    if isLetter c ∧ 1 ≤ scheme.length ∧ scheme.length ≤ 31 ∧ after.head? = some ':' then
      let body := (after.drop 1).takeWhile fun c => ' ' < c ∧ c ≠ '<' ∧ c ≠ '>'
      if (after.drop 1)[body.length]? = some '>' then some (scheme.length + body.length + 3) else none
    else none
  | [] => none

def isHostLabel (label : List Char) : Bool :=
  1 ≤ label.length && label.length ≤ 63 && label.all (fun c => c.isAlphanum || c = '-') &&
    label.head? != some '-' && label.getLast? != some '-'

def scanMailAddress? (s : List Char) : Option Nat :=
  let mailbox := s.takeWhile fun c => c.isAlphanum || ".!#$%&'*+/=?^_`\x7b|\x7d~-".toList.contains c
  match s.drop mailbox.length with
  | '@' :: rest =>
    let host := rest.takeWhile (· ≠ '>')
    if 1 ≤ mailbox.length ∧ host.length < rest.length ∧ (host.splitOn '.').all isHostLabel then
      some (mailbox.length + host.length + 2)
    else none
  | _ => none

/-! ### Blocks of raw markup -/

inductive RawBlock where
  | verbatim
  | comment
  | instruction
  | declaration
  | characterData
  | blockTag
  | singleTag
deriving DecidableEq

def verbatimTags : List (List Char) := ["script","pre","textarea","style"].map (·.toList)

def blockTags : List (List Char) :=
  ["address","article","aside","base","basefont","blockquote","body","caption","center",
    "col","colgroup","dd","details","dialog","dir","div","dl","dt","fieldset",
    "figcaption","figure","footer","form","frame","frameset","h1","h2","h3","h4","h5",
    "h6","head","header","hr","html","iframe","legend","li","link","main","menu",
    "menuitem","nav","noframes","ol","optgroup","option","p","param","search","section",
    "source","summary","table","tbody","td","tfoot","th","thead","title","tr","track",
    "ul"].map (·.toList)

def tagName (s : List Char) : List Char := (s.takeWhile (·.isAlphanum)).map Char.toLower

def delimits (others : List Char) (s : List Char) : Bool :=
  match s with
  | [] => true
  | c :: _ => isSpace c || others.contains c

/-- The kind of raw block that a line opens which begins with this text. A tag on a line of its own
opens one only where no paragraph is interrupted. -/
def RawBlock.start? (interrupts : Bool) : List Char → Option RawBlock
  | '<' :: s =>
    let name := tagName s
    let after := s.drop name.length
    if verbatimTags.contains name ∧ delimits ['>'] after then some .verbatim
    else if (Text.dropPrefix? "!--".toList s).isSome then some .comment
    else if s.head? = some '?' then some .instruction
    else if (Text.dropPrefix? "![CDATA[".toList s).isSome then some .characterData
    else if s.head? = some '!' ∧ s[1]?.any isLetter then some .declaration
    else
      let s' := if s.head? = some '/' then s.drop 1 else s
      let name := tagName s'
      let after := s'.drop name.length
      if blockTags.contains name ∧
          (delimits ['>'] after ∨ (Text.dropPrefix? "/>".toList after).isSome) then some .blockTag
      else if interrupts then none
      else match scanTag? s with
      | some n => if (s.drop n).all isSpace then some .singleTag else none
      | none => none
  | _ => none

def RawBlock.endsIn (line : List Char) : RawBlock → Bool
  | .verbatim => verbatimTags.any fun name =>
      (Text.splitFirst? ("</".toList ++ name ++ ['>']) (line.map Char.toLower)).isSome
  | .comment => (Text.splitFirst? "-->".toList line).isSome
  | .instruction => (Text.splitFirst? "?>".toList line).isSome
  | .declaration => line.contains '>'
  | .characterData => (Text.splitFirst? "]]>".toList line).isSome
  | .blockTag | .singleTag => false

def RawBlock.endsBlank : RawBlock → Bool
  | .blockTag | .singleTag => true
  | _ => false

end ReferenceSite.Markdown
