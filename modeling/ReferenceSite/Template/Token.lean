import ReferenceSite.Text.Blank
import ReferenceSite.Text.Search

/-! Templates as pieces. Text alternates with printed expressions and with tags; comments and raw
sections are gone. A hyphen at a mark takes the white space beside it away. -/
namespace ReferenceSite.Template
open ReferenceSite.Text

inductive Token where
  | name (s : String)
  | int (n : Nat)
  | str (s : String)
  | op (s : String)
deriving DecidableEq

inductive Piece where
  | text (s : String)
  | output (tokens : List Token)
  | tag (tokens : List Token)

/-- What was read, and the rest of the text, which is shorter than the text that was read from. -/
abbrev Scanned (α : Type) (s : List Char) := { r : α × List Char // r.2.length < s.length }

def isNameStart (c : Char) : Bool := c.isAlpha || c = '_'

def isNamePart (c : Char) : Bool := c.isAlphanum || c = '_'

def escapes : List (Char × Char) :=
  [('\\','\\'),('"','"'),('\'','\''),('/','/'),('b','\x08'),('f','\x0c'),('n','\n'),
    ('r','\r'),('t','\t')]

def hexValue? (c : Char) : Option Nat :=
  if c.isDigit then some (c.toNat - '0'.toNat)
  else if 'a' ≤ c ∧ c ≤ 'f' then some (c.toNat - 'a'.toNat + 10)
  else if 'A' ≤ c ∧ c ≤ 'F' then some (c.toNat - 'A'.toNat + 10)
  else none

def hexNumber? (cs : List Char) : Option Nat :=
  cs.foldlM (fun n c => (hexValue? c).map (16 * n + ·)) 0

def scanQuoted? (quote : Char) : List Char → Option (List Char × List Char)
  | [] => none
  | '\\' :: 'u' :: a :: b :: c :: d :: rest => do
    let n ← hexNumber? [a,b,c,d]
    if n.isValidChar then
      let (s,rest) ← scanQuoted? quote rest
      some (Char.ofNat n :: s,rest)
    else none
  | '\\' :: c :: rest => do
    let (_,meant) ← escapes.find? (·.1 = c)
    let (s,rest) ← scanQuoted? quote rest
    some (meant :: s,rest)
  | c :: rest =>
    if c = quote then some ([],rest)
    else (scanQuoted? quote rest).map fun (s,rest) => (c :: s,rest)

theorem scanQuoted?_shorter {quote : Char} {s : List Char} {r : List Char × List Char}
    (h : scanQuoted? quote s = some r) : r.2.length < s.length := by
  fun_induction scanQuoted? quote s generalizing r with
  | case1 => simp at h
  | case2 a b c d rest ih =>
    simp only [Option.bind_eq_bind,Option.bind_eq_some_iff] at h
    obtain ⟨n,_,h⟩ := h
    split at h
    · simp only [Option.bind_eq_some_iff] at h
      obtain ⟨_,h,⟨⟩⟩ := h
      have := ih h
      simp_all
      omega
    · simp at h
  | case3 c rest _ ih =>
    simp only [Option.bind_eq_bind,Option.bind_eq_some_iff] at h
    obtain ⟨_,_,_,h,⟨⟩⟩ := h
    have := ih h
    simp_all
    omega
  | case4 rest =>
    cases h
    simp
  | case5 c rest _ _ _ ih =>
    simp only [Option.map_eq_some_iff] at h
    obtain ⟨_,h,⟨⟩⟩ := h
    have := ih h
    simp_all
    omega

def operators : List String :=
  ["//","**","==","!=",">=","<=","<",">","+","-","*","/","%",".",",",":","~","|","=",
    "(",")","[","]","\x7b","\x7d"]

def scanToken? : (s : List Char) → Option (Scanned Token s)
  | [] => none
  | c :: rest =>
    if isNameStart c then
      some ⟨(.name (.ofList (c :: rest.takeWhile isNamePart)),rest.dropWhile isNamePart),
        Nat.lt_succ_of_le (List.dropWhile_sublist isNamePart).length_le⟩
    else if c.isDigit then
      let digits := c :: rest.takeWhile fun c => c.isDigit || c = '_'
      some ⟨(.int (digits.foldl (fun n c => if c = '_' then n else 10 * n + (c.toNat - '0'.toNat)) 0),
        rest.dropWhile fun c => c.isDigit || c = '_'),
        Nat.lt_succ_of_le (List.dropWhile_sublist _).length_le⟩
    else if c = '"' ∨ c = '\'' then
      match h : scanQuoted? c rest with
      | some (s,after) =>
        some ⟨(.str (.ofList s),after),Nat.lt_succ_of_lt (scanQuoted?_shorter h)⟩
      | none => none
    else
      match operators.find? fun o => (dropPrefix? o.toList (c :: rest)).isSome with
      | some o => some ⟨(.op o,rest.drop (o.length - 1)),Nat.lt_succ_of_le (List.drop_sublist _ _).length_le⟩
      | none => none

def balance (depth : Int) : Token → Int
  | .op o =>
    if o ∈ ["(","[","\x7b"] then depth + 1 else if o ∈ [")","]","\x7d"] then depth - 1 else depth
  | _ => depth

/-- The text behind a closing mark, with its hyphen or plus sign if it has one; the truth value tells
whether white space behind it goes. -/
def closing? (mark s : List Char) : Option (Bool × List Char) :=
  match s with
  | '-' :: rest => (dropPrefix? mark rest).map (true,·)
  | '+' :: rest => (dropPrefix? mark rest).map (false,·)
  | s => (dropPrefix? mark s).map (false,·)

def afterMark (trims : Bool) (s : List Char) : List Char := if trims then trimStart s else s

/-- The tokens up to a closing mark, and the text behind it. Inside brackets the mark closes
nothing. -/
def scanTokens? (mark : List Char) (depth : Int) (s : List Char) : Option (List Token × List Char) :=
  match if depth = 0 then closing? mark (trimStart s) else none with
  | some (trims,rest) => some ([],afterMark trims rest)
  | none =>
    match scanToken? (trimStart s) with
    | none => none
    | some ⟨(token,rest),_h⟩ =>
      (scanTokens? mark (balance depth token) rest).map fun (tokens,rest) => (token :: tokens,rest)
termination_by s.length
decreasing_by
  have : (trimStart s).length ≤ s.length := (List.dropWhile_sublist _).length_le
  simp only at _h
  omega

/-- Whether white space before an opening mark goes, and the text behind the mark's sign. -/
def openingSign (s : List Char) : Bool × List Char :=
  match s with
  | '-' :: rest => (true,rest)
  | '+' :: rest => (false,rest)
  | s => (false,s)

def wordTag? (word s : List Char) : Option (Bool × List Char) := do
  closing? ['%','}'] (trimStart (← dropPrefix? word (trimStart s)))

def beforeMark (trims : Bool) (s : List Char) : List Char := if trims then trimEnd s else s

/-- A raw section, of which `read`, last character first, is already read, and what is behind the tag
that ends it. -/
def splitRaw? (read : List Char) : List Char → Option (List Char × List Char)
  | [] => none
  | '{' :: '%' :: rest =>
    let (trims,inner) := openingSign rest
    match wordTag? "endraw".toList inner with
    | some (trimsAfter,after) => some (beforeMark trims read.reverse,afterMark trimsAfter after)
    | none => splitRaw? ('{' :: read) ('%' :: rest)
  | c :: rest => splitRaw? (c :: read) rest

def splitMark? : List Char → Option (List Char × Char × List Char)
  | [] => none
  | '{' :: c :: rest =>
    if c = '{' ∨ c = '%' ∨ c = '#' then some ([],c,rest)
    else (splitMark? (c :: rest)).map fun (before,mark) => ('{' :: before,mark)
  | c :: rest => (splitMark? rest).map fun (before,mark) => (c :: before,mark)

def piece? (mark : Char) (s : List Char) : Option (Piece × List Char) :=
  match mark with
  | '{' => (scanTokens? ['}','}'] 0 s).map fun (tokens,rest) => (.output tokens,rest)
  | '#' => (splitFirst? ['#','}'] s).map fun (comment,rest) =>
      (.text "",afterMark (comment.getLast? == some '-') rest)
  | _ =>
    match wordTag? "raw".toList s with
    | some (trims,body) => (splitRaw? [] (afterMark trims body)).map fun (text,rest) =>
        (.text (.ofList text),rest)
    | none => (scanTokens? ['%','}'] 0 s).map fun (tokens,rest) => (.tag tokens,rest)

def piecesOf? (s : List Char) : Option (List Piece) :=
  match splitMark? s with
  | none => some [.text (.ofList s)]
  | some (before,mark,rest) =>
    let (trims,inner) := openingSign rest
    match piece? mark inner with
    | none => none
    | some (piece,after) =>
      if _h : after.length < s.length then
        (piecesOf? after).map fun pieces =>
          .text (.ofList (beforeMark trims before)) :: piece :: pieces
      else none
termination_by s.length

/-- A template does not end with its last line feed, nor with a carriage return before that. -/
def withoutLastLineEnd (s : List Char) : List Char :=
  let s := (dropSuffix? ['\n'] s).getD s
  (dropSuffix? ['\r'] s).getD s

end ReferenceSite.Template
