import ReferenceSite.Text.Blank
import ReferenceSite.Text.Search

/-! Hosts of absolute addresses: registered names, numeric addresses of version four, and bracketed
addresses of version six. Only their validity matters here. -/
namespace ReferenceSite.Address
open ReferenceSite.Text

/-! ### Numeric addresses -/

def digitValue? (radix : Nat) (c : Char) : Option Nat :=
  let n :=
    if c.isDigit then some (c.toNat - 48)
    else if 'a' ≤ c ∧ c ≤ 'f' then some (c.toNat - 87)
    else if 'A' ≤ c ∧ c ≤ 'F' then some (c.toNat - 55)
    else none
  n.filter (· < radix)

def number? (radix : Nat) (s : List Char) : Option Nat :=
  s.foldlM (fun n c => (digitValue? radix c).map (radix * n + ·)) 0

/-- A part of a numeric address: decimal, octal behind a zero, or hexadecimal behind `0x`. -/
def numericPart? (s : List Char) : Option Nat :=
  match s with
  | [] => none
  | '0' :: 'x' :: rest | '0' :: 'X' :: rest => number? 16 rest
  | '0' :: d :: rest => number? 8 (d :: rest)
  | _ => number? 10 s

def hostParts (host : List Char) : List (List Char) :=
  let parts := host.splitOn '.'
  if 2 ≤ parts.length ∧ parts.getLast? = some [] then parts.dropLast else parts

def endsInNumber (host : List Char) : Bool :=
  match (hostParts host).getLast? with
  | some part => (! part.isEmpty && part.all Char.isDigit) || (numericPart? part).isSome
  | none => false

/-- At most four numbers; the last one fills the bytes that the others leave. -/
def isNumericAddress (host : List Char) : Bool :=
  let parts := hostParts host
  match parts.mapM numericPart? with
  | some numbers =>
    numbers.length ≤ 4 && numbers.dropLast.all (· ≤ 255) &&
      numbers.getLast?.any (· < Nat.pow 256 (5 - numbers.length))
  | none => false

/-! ### Bracketed addresses -/

def dottedPieces? (s : List Char) : Option Nat :=
  let parts := s.splitOn '.'
  let isByte (part : List Char) : Bool :=
    (number? 10 part).any (· ≤ 255) && ! part.isEmpty && (part.length = 1 || part.head? != some '0')
  if parts.length = 4 ∧ parts.all isByte then some 2 else none

def isPiece (s : List Char) : Bool :=
  1 ≤ s.length && s.length ≤ 4 && s.all fun c => (digitValue? 16 c).isSome

def piecesOf? (dotted : Bool) : List (List Char) → Option Nat
  | [] => some 0
  | [group] =>
    if isPiece group then some 1 else if dotted then dottedPieces? group else none
  | group :: rest => if isPiece group then (piecesOf? dotted rest).map (· + 1) else none

def sidePieces? (dotted : Bool) (s : List Char) : Option Nat :=
  if s.isEmpty then some 0 else piecesOf? dotted (s.splitOn ':')

/-- Eight pieces, or fewer with one gap that stands for the rest. -/
def isBracketedAddress (s : List Char) : Bool :=
  match splitFirst? "::".toList s with
  | some (before,after) =>
    match sidePieces? false before,sidePieces? true after with
    | some a,some b => a + b < 8
    | _,_ => false
  | none => sidePieces? true s = some 8

/-! ### Names -/

def percentDecode : List Char → List UInt8
  | '%' :: a :: b :: rest =>
    match digitValue? 16 a,digitValue? 16 b with
    | some high,some low => (16 * high + low).toUInt8 :: percentDecode rest
    | _,_ => '%'.toNat.toUInt8 :: percentDecode (a :: b :: rest)
  | c :: rest => (String.singleton c).toUTF8.toList ++ percentDecode rest
  | [] => []

def isIgnored (c : Char) : Bool :=
  inRanges [(0xAD,0xAD),(0x34F,0x34F),(0x180B,0x180D),(0x180F,0x180F),(0x200B,0x200B),
    (0x2060,0x2060),(0x2064,0x2064),(0xFE00,0xFE0F),(0xFEFF,0xFEFF),(0xE0100,0xE01EF)] c.toNat

def isDisallowed (c : Char) : Bool :=
  inRanges [(0x80,0x9F),(0x200E,0x200F),(0x2028,0x202E),(0x2061,0x2063),(0x2065,0x206F),
    (0xE000,0xF8FF),(0xFDD0,0xFDEF),(0xFFF0,0xFFFF),(0xE0000,0xE00FF),
    (0xF0000,0x10FFFF)] c.toNat

/-- Wide forms become plain ones, and every full stop a dot. -/
def plainForm (c : Char) : Char :=
  if 0xFF01 ≤ c.toNat ∧ c.toNat ≤ 0xFF5E then Char.ofNat (c.toNat - 0xFEE0)
  else if c = '\u3002' ∨ c = '\uFF61' then '.'
  else if isBlank c then ' '
  else c

def isForbidden (c : Char) : Bool :=
  c ≤ ' ' || c = '\x7f' || "%#/:<>?@[\\]^|".toList.contains c

/-- Reads a variable-length number: the number, and what follows its last digit. Each digit adds
`weight` times its value; `k` counts the digits in steps of 36. -/
def deltaFrom? (bias k weight i : Nat) : List Char → Option (Nat × List Char)
  | [] => none
  | c :: rest =>
    let digit? : Option Nat :=
      if c.isAlpha then some (c.toLower.toNat - 97)
      else if c.isDigit then some (c.toNat - 22)
      else none
    match digit? with
    | none => none
    | some digit =>
      let threshold := if k ≤ bias then 1 else if bias + 26 ≤ k then 26 else k - bias
      let i := i + digit * weight
      if 0xFFFFFFFF < i then none
      else if digit < threshold then some (i,rest)
      else deltaFrom? bias (k + 36) (weight * (36 - threshold)) i rest

def biasOf (steps delta k : Nat) : Nat :=
  match steps with
  | 0 => k + 36 * delta / (delta + 38)
  | steps + 1 =>
    if 455 < delta then biasOf steps (delta / 35) (k + 36) else k + 36 * delta / (delta + 38)

/-- Decodes the extended part of an encoded label behind so many plain characters, and answers
whether every number in it stands for a character of names. At most `limit` numbers are read. -/
def decodes (limit : Nat) (first : Bool) (count n i bias : Nat) (s : List Char) : Bool :=
  match limit,s with
  | _,[] => true
  | 0,_ => false
  | limit + 1,s =>
    match deltaFrom? bias 36 1 i s with
    | none => false
    | some (i',rest) =>
      let count := count + 1
      let delta := (i' - i) / (if first then 700 else 2)
      let bias := biasOf 8 (delta + delta / count) 0
      let n := n + i' / count
      if ¬ n.isValidChar ∨ isDisallowed (.ofNat n) then false
      else decodes limit false count n (i' % count + 1) bias rest

def isEncodedLabel (label : List Char) : Bool :=
  match dropPrefix? "xn--".toList (label.map Char.toLower) with
  | none => true
  | some body =>
    let tail := (body.reverse.takeWhile (· ≠ '-')).reverse
    let plain := body.length - tail.length - 1
    ! tail.isEmpty && decodes body.length true plain 128 0 72 tail

def registeredName? (host : List Char) : Option (List Char) := do
  let decoded ← String.fromUTF8? ⟨(percentDecode host).toArray⟩
  let name := (decoded.toList.filter (! isIgnored ·)).map plainForm
  if name.isEmpty ∨ name.any (fun c => isForbidden c || isDisallowed c) ∨
      ! (name.splitOn '.').all isEncodedLabel then none
  else some name

def isHost (host : List Char) : Bool :=
  match host with
  | '[' :: inside => inside.getLast? = some ']' && isBracketedAddress inside.dropLast
  | _ =>
    match registeredName? host with
    | some name => ! endsInNumber name || isNumericAddress name
    | none => false

/-- Whether a host can stand in an address with any other scheme. It may be empty. -/
def isOpaqueHost (host : List Char) : Bool :=
  match host with
  | '[' :: inside => inside.getLast? = some ']' && isBracketedAddress inside.dropLast
  | _ => ! host.any fun c => c = '\x00' || " #/:<>?@[\\]^|".toList.contains c

end ReferenceSite.Address
