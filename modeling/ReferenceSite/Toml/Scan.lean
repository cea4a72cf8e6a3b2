import ReferenceSite.Toml.Moment
import ReferenceSite.Toml.Value

/-! The small parts of TOML documents: blank space, comments, quoted texts, keys, numbers. -/
namespace ReferenceSite.Toml
open ReferenceSite.Text ReferenceSite.Number

def isSpace (c : Char) : Bool := c = ' ' || c = '\t'

def skipSpace (s : List Char) : List Char := s.dropWhile isSpace

def isPlain (c : Char) : Bool := c = '\t' || (' ' ≤ c && c ≠ '\x7f')

def lineEnd? : List Char → Option (List Char)
  | '\n' :: rest => some rest
  | '\r' :: '\n' :: rest => some rest
  | _ => none

theorem lineEnd?_length {s rest : List Char} (h : lineEnd? s = some rest) :
    rest.length < s.length := by
  unfold lineEnd? at h
  split at h <;> grind

def skipComment (s : List Char) : List Char :=
  match s with
  | '#' :: rest => rest.dropWhile isPlain
  | s => s

theorem skipSpace_length (s : List Char) : (skipSpace s).length ≤ s.length :=
  (List.dropWhile_sublist isSpace).length_le

theorem skipComment_length (s : List Char) : (skipComment s).length ≤ s.length := by
  unfold skipComment
  split
  · have := (List.dropWhile_sublist isPlain (l := ‹List Char›)).length_le
    simp
    omega
  · exact Nat.le_refl _

def skipLines (s : List Char) : List Char :=
  match _h : lineEnd? (skipComment (skipSpace s)) with
  | some rest => skipLines rest
  | none => skipComment (skipSpace s)
termination_by s.length
decreasing_by
  have := lineEnd?_length _h
  have := skipComment_length (skipSpace s)
  have := skipSpace_length s
  omega

def hexValue? (c : Char) : Option Nat :=
  if c.isDigit then some (c.toNat - '0'.toNat)
  else if 'a' ≤ c ∧ c ≤ 'f' then some (c.toNat - 'a'.toNat + 10)
  else if 'A' ≤ c ∧ c ≤ 'F' then some (c.toNat - 'A'.toNat + 10)
  else none

def escapes : List (Char × Char) :=
  [('b','\x08'),('t','\t'),('n','\n'),('f','\x0c'),('r','\r'),('"','"'),('\\','\\')]

def codePoint? (count : Nat) (s : List Char) : Option (Char × List Char) := do
  let digits := s.take count
  if digits.length ≠ count then none
  else
    let n ← digits.foldlM (fun n c => (hexValue? c).map (16 * n + ·)) 0
    if n.isValidChar then some (.ofNat n,s.drop count) else none

def escape? : List Char → Option (Char × List Char)
  | 'u' :: rest => codePoint? 4 rest
  | 'U' :: rest => codePoint? 8 rest
  | c :: rest => (escapes.find? (·.1 = c)).map fun (_,meant) => (meant,rest)
  | [] => none

def basicText? (s : List Char) : Option (List Char × List Char) :=
  match s with
  | '"' :: rest => some ([],rest)
  | '\\' :: rest =>
    match escape? rest with
    | none => none
    | some (c,after) =>
      if _h : after.length ≤ rest.length then
        (basicText? after).map fun (text,after) => (c :: text,after)
      else none
  | c :: rest => if isPlain c then (basicText? rest).map fun (text,rest) => (c :: text,rest) else none
  | [] => none
termination_by s.length

def literalText? : List Char → Option (List Char × List Char)
  | [] => none
  | c :: rest =>
    if c = '\'' then some ([],rest)
    else if isPlain c then (literalText? rest).map fun (text,rest) => (c :: text,rest)
    else none

/-- How many quotes end a text of several lines, beyond the three that close it: at most two. -/
def extraQuotes (quote : Char) (s : List Char) : Nat :=
  min 2 (s.takeWhile (· = quote)).length

def skipBlankLines (s : List Char) : List Char :=
  s.dropWhile fun c => isSpace c || c = '\n' || c = '\r'

/-- The rest of a text of several lines. A backslash at a line's end takes the blank space behind it
away; with single quotes it means nothing. -/
def longText? (quote : Char) (s : List Char) : Option (List Char × List Char) :=
  match dropPrefix? [quote,quote,quote] s with
  | some rest =>
    let extra := extraQuotes quote rest
    some (List.replicate extra quote,rest.drop extra)
  | none =>
    match s with
    | [] => none
    | c :: rest =>
      if c = '\\' ∧ quote = '"' then
        match lineEnd? (skipSpace rest) with
        | some after =>
          if _h : (skipBlankLines after).length ≤ rest.length then longText? quote (skipBlankLines after)
          else none
        | none =>
          match escape? rest with
          | none => none
          | some (c,after) =>
            if _h : after.length ≤ rest.length then
              (longText? quote after).map fun (text,after) => (c :: text,after)
            else none
      else if c = '\n' then (longText? quote rest).map fun (text,rest) => ('\n' :: text,rest)
      else if c = '\r' then
        match rest with
        | '\n' :: after => (longText? quote after).map fun (text,after) => ('\n' :: text,after)
        | _ => none
      else if isPlain c then (longText? quote rest).map fun (text,rest) => (c :: text,rest)
      else none
termination_by s.length

/-- A text of any sort. A line end right behind the opening quotes of a long one is left out. -/
def text? (s : List Char) : Option (String × List Char) :=
  let long (quote : Char) (rest : List Char) :=
    (longText? quote ((lineEnd? rest).getD rest)).map fun (text,rest) => (String.ofList text,rest)
  match s with
  | '"' :: '"' :: '"' :: rest => long '"' rest
  | '\'' :: '\'' :: '\'' :: rest => long '\'' rest
  | '"' :: rest => (basicText? rest).map fun (text,rest) => (.ofList text,rest)
  | '\'' :: rest => (literalText? rest).map fun (text,rest) => (.ofList text,rest)
  | _ => none

def isBareKey (c : Char) : Bool := c.isAlphanum || c = '_' || c = '-'

def keyPart? (s : List Char) : Option (String × List Char) :=
  match s with
  | '"' :: rest => (basicText? rest).map fun (text,rest) => (.ofList text,rest)
  | '\'' :: rest => (literalText? rest).map fun (text,rest) => (.ofList text,rest)
  | s =>
    let bare := s.takeWhile isBareKey
    if bare.isEmpty then none else some (.ofList bare,s.dropWhile isBareKey)

/-- A key of one or more parts with dots between them, and what follows it and the space behind. -/
def key? (s : List Char) : Option (List String × List Char) := do
  let (part,rest) ← keyPart? s
  match skipSpace rest with
  | '.' :: after =>
    if _h : (skipSpace after).length < s.length then
      let (parts,rest) ← key? (skipSpace after)
      some (part :: parts,rest)
    else none
  | rest => some ([part],rest)
termination_by s.length

/-- Digits in which single underscores may separate others; the digits alone. -/
def separated? (isDigit : Char → Bool) : List Char → Option (List Char)
  | [] => none
  | [c] => if isDigit c then some [c] else none
  | c :: '_' :: rest => if isDigit c then (separated? isDigit rest).map (c :: ·) else none
  | c :: rest => if isDigit c then (separated? isDigit rest).map (c :: ·) else none

def valueIn (base : Nat) (ds : List Char) : Nat :=
  ds.foldl (fun n c => base * n + (hexValue? c).getD 0) 0

def sign (s : List Char) : Bool × List Char :=
  match s with
  | '-' :: rest => (true,rest)
  | '+' :: rest => (false,rest)
  | s => (false,s)

def bounded? (n : Int) : Option Value :=
  if -0x8000000000000000 ≤ n ∧ n < 0x8000000000000000 then some (.integer n) else none

def plainDigits? (s : List Char) : Option (List Char) := do
  let ds ← separated? Char.isDigit s
  if ds.head? = some '0' ∧ ds.length > 1 then none else some ds

def integer? (s : List Char) : Option Value :=
  match s with
  | '0' :: 'x' :: ds => do bounded? (valueIn 16 (← separated? (fun c => (hexValue? c).isSome) ds))
  | '0' :: 'o' :: ds => do bounded? (valueIn 8 (← separated? (fun c => '0' ≤ c && c ≤ '7') ds))
  | '0' :: 'b' :: ds => do bounded? (valueIn 2 (← separated? (fun c => c = '0' || c = '1') ds))
  | s => do
    let (negative,ds) := sign s
    let n : Int := valueIn 10 (← plainDigits? ds)
    bounded? (if negative then -n else n)

/-- A number with a fraction or an exponent, or a name of what is no such number. A number too large
to be finite is refused, unless it is negative. -/
def float? (s : List Char) : Option Value := do
  let (negative,s) := sign s
  if s = "inf".toList then some (.float (.infinite negative))
  else if s = "nan".toList then some (.float .undefined)
  else
    let whole ← plainDigits? (s.takeWhile fun c => c.isDigit || c = '_')
    let rest := s.dropWhile fun c => c.isDigit || c = '_'
    let (fraction,rest) ← match rest with
      | '.' :: rest => do
        let ds ← separated? Char.isDigit (rest.takeWhile fun c => c.isDigit || c = '_')
        some (ds,rest.dropWhile fun c => c.isDigit || c = '_')
      | rest => some ([],rest)
    let power : Int ← match rest with
      | [] => if fraction.isEmpty then none else some 0
      | e :: rest => do
        if e ≠ 'e' ∧ e ≠ 'E' then none
        else
          let (negative,ds) := sign rest
          let n : Int := valueIn 10 (← separated? Char.isDigit ds)
          some (if negative then -n else n)
    let x := Binary64.ofDecimal negative (valueIn 10 (whole ++ fraction)) (power - fraction.length)
    if x = .infinite false then none else some (.float x)

def scalar? (s : List Char) : Option Value :=
  if s = "true".toList then some (.boolean true)
  else if s = "false".toList then some (.boolean false)
  else ((integer? s).or (float? s)).or ((moment? s).map .moment)

def isScalarPart (c : Char) : Bool := c.isAlphanum || ['_','+','-','.',':'].contains c

def readScalar? (s : List Char) : Option (Value × List Char) :=
  let run := s.takeWhile isScalarPart
  let rest := s.dropWhile isScalarPart
  let (run,rest) :=
    if continuesWithTime run rest then
      let time := (rest.drop 1).takeWhile isScalarPart
      (run ++ ' ' :: time,rest.drop (time.length + 1))
    else (run,rest)
  (scalar? run).map (·,rest)

end ReferenceSite.Toml
