import ReferenceSite.Markdown.EntityName
import ReferenceSite.Text.Punctuation

/-! Escapes in markdown: entities, backslashes, and the two ways in which text enters a page, as
text and as an address. -/
namespace ReferenceSite.Markdown
open ReferenceSite.Text

/-- The white space of markup; other scripts' spaces are ordinary characters here. -/
def isSpace (c : Char) : Bool := c = ' ' ∨ ('\t' ≤ c ∧ c ≤ '\r')

def isSpaceOrTab (c : Char) : Bool := c = ' ' ∨ c = '\t'

def trimSpace (s : List Char) : List Char :=
  ((s.dropWhile isSpace).reverse.dropWhile isSpace).reverse

def trimSpaceEnd (s : List Char) : List Char := (s.reverse.dropWhile isSpace).reverse

def characterAt (n : Nat) : Char :=
  if n = 0 ∨ (0xD800 ≤ n ∧ n ≤ 0xE000) ∨ 0x110000 ≤ n then '\uFFFD' else Char.ofNat n

/-- Digits that end in a semicolon, at most seven. -/
def numericBody? (isDigit : Char → Bool) (s : List Char) : Option (List Char) :=
  let digits := s.takeWhile isDigit
  if 1 ≤ digits.length ∧ digits.length ≤ 7 ∧ (s.dropWhile isDigit).head? = some ';' then some digits
  else none

/-- The longest name of an entity, with what delimits it. -/
def entityReach : Nat := 32

def scanEntity? (s : List Char) : Option (List Char × Nat) :=
  let numeric : Option (List Char × Nat) :=
    match s with
    | '#' :: x :: rest =>
      if x = 'x' ∨ x = 'X' then
        (numericBody? (hexDigit? · |>.isSome) rest).map fun digits =>
          ([characterAt (hexNumber digits)],digits.length + 3)
      else
        (numericBody? Char.isDigit (x :: rest)).map fun digits =>
          ([characterAt (digits.foldl (fun n c => 10 * n + (c.toNat - 48)) 0)],digits.length + 2)
    | _ => none
  match numeric with
  | some found => some found
  | none =>
    let name := s.takeWhile fun c => c ≠ ';' ∧ c ≠ ' '
    if 2 ≤ name.length ∧ name.length < entityReach ∧ s[name.length]? = some ';' then
      (entity? name).map (·,name.length + 1)
    else none

/-- Replaces entities, of which the next `skip` characters are already taken care of. -/
def unescapeEntitiesFrom (skip : Nat) : List Char → List Char
  | [] => []
  | c :: rest =>
    match skip with
    | n + 1 => unescapeEntitiesFrom n rest
    | 0 =>
      if c = '&' then
        match scanEntity? rest with
        | some (characters,taken) => characters ++ unescapeEntitiesFrom taken rest
        | none => c :: unescapeEntitiesFrom 0 rest
      else c :: unescapeEntitiesFrom 0 rest

def unescapeEntities (s : List Char) : List Char := unescapeEntitiesFrom 0 s

def unescapeBackslashes : List Char → List Char
  | '\\' :: c :: rest =>
    if isAsciiPunctuation c then c :: unescapeBackslashes rest
    else '\\' :: unescapeBackslashes (c :: rest)
  | c :: rest => c :: unescapeBackslashes rest
  | [] => []

def unescape (s : List Char) : List Char := unescapeBackslashes (unescapeEntities s)

def escapeHtml (s : List Char) : List Char :=
  s.flatMap fun c =>
    if c = '&' then "&amp;".toList
    else if c = '<' then "&lt;".toList
    else if c = '>' then "&gt;".toList
    else if c = '"' then "&quot;".toList
    else [c]

def isHrefSafe (c : Char) : Bool := c.isAlphanum || "-_.+!*(),%#@?=;:/+$~".toList.contains c

def upperHex (n : Nat) : Char := (Nat.digitChar n).toUpper

def percentEncode (b : UInt8) : List Char := ['%',upperHex (b.toNat / 16),upperHex (b.toNat % 16)]

def escapeHref (s : List Char) : List Char :=
  s.flatMap fun c =>
    if isHrefSafe c then [c]
    else if c = '&' then "&amp;".toList
    else if c = '\'' then "&#x27;".toList
    else (String.singleton c).toUTF8.toList.flatMap percentEncode

end ReferenceSite.Markdown
