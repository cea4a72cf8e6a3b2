import ReferenceSite.Text.Search

/-! Lexemes of message definitions: words, numbers, texts and signs, and between them the comments and
line ends, which tell later whom a comment belongs to. -/
namespace ReferenceSite.Proto.Source
open ReferenceSite.Text

inductive Word where
  | name (s : String)
  | integer (n : Nat)
  | decimal
  | text (s : String)
  | sign (c : Char)
deriving DecidableEq

inductive Lexeme where
  | lineEnd
  /-- Reaches over the end of its line. -/
  | lineComment (s : String)
  | blockComment (s : String)
  | word (w : Word)
deriving DecidableEq

def isGap (c : Char) : Bool := [' ','\t','\x0b','\x0c','\r'].contains c

def isNameStart (c : Char) : Bool := c.isAlpha || c = '_'

def isNamePart (c : Char) : Bool := c.isAlphanum || c = '_'

def lineComment : List Char → List Char × List Char
  | [] => ([],[])
  | '\n' :: rest => (['\n'],rest)
  | '\r' :: '\n' :: rest => (['\n'],rest)
  | c :: rest =>
    let (comment,rest) := lineComment rest
    (c :: comment,rest)

theorem lineComment_length (s : List Char) : (lineComment s).2.length ≤ s.length := by
  fun_induction lineComment s <;> grind

/-- What a further line of a block comment begins with and the comment does not hold: white space
and one star. -/
def dropMargin (s : List Char) : List Char :=
  match s.dropWhile isGap with
  | '*' :: '/' :: rest => '*' :: '/' :: rest
  | '*' :: rest => rest
  | rest => rest

theorem dropMargin_length (s : List Char) : (dropMargin s).length ≤ s.length := by
  have shorter := (List.dropWhile_sublist isGap (l := s)).length_le
  unfold dropMargin
  split <;> simp_all
  omega

/-- The text of a block comment and what follows it. Comments do not nest. -/
def blockComment? (s : List Char) : Option (List Char × List Char) :=
  match s with
  | [] => none
  | '*' :: '/' :: rest => some ([],rest)
  | '/' :: '*' :: _ => none
  | '\r' :: '\n' :: rest =>
    (blockComment? (dropMargin rest)).map fun (comment,rest) => ('\n' :: comment,rest)
  | '\n' :: rest =>
    (blockComment? (dropMargin rest)).map fun (comment,rest) => ('\n' :: comment,rest)
  | c :: rest => (blockComment? rest).map fun (comment,rest) => (c :: comment,rest)
termination_by s.length
decreasing_by
  all_goals have := dropMargin_length rest
  all_goals simp
  all_goals omega

theorem blockComment?_length {s : List Char} {r : List Char × List Char}
    (h : blockComment? s = some r) : r.2.length ≤ s.length := by
  fun_induction blockComment? s generalizing r with
  | case1 => simp at h
  | case2 rest =>
    cases h
    simp
    omega
  | case3 => simp at h
  | case4 rest ih =>
    obtain ⟨_,found,rfl⟩ := Option.map_eq_some_iff.1 h
    have := ih found
    have := dropMargin_length rest
    simp
    omega
  | case5 rest ih =>
    obtain ⟨_,found,rfl⟩ := Option.map_eq_some_iff.1 h
    have := ih found
    have := dropMargin_length rest
    simp
    omega
  | case6 c rest _ _ _ _ ih =>
    obtain ⟨_,found,rfl⟩ := Option.map_eq_some_iff.1 h
    have := ih found
    simp
    omega

def escapes : List (Char × Char) :=
  [('a','\x07'),('b','\x08'),('f','\x0c'),('n','\n'),('r','\r'),('t','\t'),('v','\x0b'),
    ('\\','\\'),('\'','\''),('"','"'),('?','?')]

def hexValue? (c : Char) : Option Nat :=
  if c.isDigit then some (c.toNat - '0'.toNat)
  else if 'a' ≤ c ∧ c ≤ 'f' then some (c.toNat - 'a'.toNat + 10)
  else if 'A' ≤ c ∧ c ≤ 'F' then some (c.toNat - 'A'.toNat + 10)
  else none

def isOctal (c : Char) : Bool := '0' ≤ c && c ≤ '7'

def digitsValue (base : Nat) (cs : List Char) : Nat :=
  cs.foldl (fun n c => base * n + (hexValue? c).getD 0) 0

def escape? (s : List Char) : Option (Char × List Char) :=
  match s with
  | [] => none
  | c :: rest =>
    if c = 'x' ∨ c = 'X' then
      let digits := (rest.take 2).takeWhile fun c => (hexValue? c).isSome
      if digits.isEmpty then none
      else some (.ofNat (digitsValue 16 digits),rest.drop digits.length)
    else if isOctal c then
      let digits := ((c :: rest).take 3).takeWhile isOctal
      some (.ofNat (digitsValue 8 digits % 256),(c :: rest).drop digits.length)
    else if c = 'u' ∨ c = 'U' then
      let count := if c = 'u' then 4 else 8
      let digits := (rest.take count).takeWhile fun c => (hexValue? c).isSome
      if digits.length = count ∧ (digitsValue 16 digits).isValidChar then
        some (.ofNat (digitsValue 16 digits),rest.drop count)
      else none
    else (escapes.find? (·.1 = c)).map fun (_,meant) => (meant,rest)

/-- A text up to its closing quote, and what follows. A text does not reach over a line end. -/
def quoted? (quote : Char) (s : List Char) : Option (List Char × List Char) :=
  match s with
  | [] => none
  | '\n' :: _ => none
  | '\\' :: rest =>
    match escape? rest with
    | none => none
    | some (c,after) =>
      if _h : after.length ≤ rest.length then
        (quoted? quote after).map fun (text,after) => (c :: text,after)
      else none
  | c :: rest =>
    if c = quote then some ([],rest)
    else (quoted? quote rest).map fun (text,rest) => (c :: text,rest)
termination_by s.length

theorem quoted?_length {quote : Char} {s : List Char} {r : List Char × List Char}
    (h : quoted? quote s = some r) : r.2.length ≤ s.length := by
  fun_induction quoted? quote s generalizing r with
  | case1 => simp at h
  | case2 => simp at h
  | case3 => simp at h
  | case4 s c after found shorter ih =>
    obtain ⟨_,found,rfl⟩ := Option.map_eq_some_iff.1 h
    have := ih found
    simp_all
    omega
  | case5 => simp at h
  | case6 rest =>
    cases h
    simp
  | case7 c rest _ _ _ ih =>
    obtain ⟨_,found,rfl⟩ := Option.map_eq_some_iff.1 h
    have := ih found
    simp
    omega

/-- The characters that a number may be made of. A sign continues it behind an exponent's letter. -/
def numberRun (hex : Bool) (before : Char) : List Char → List Char
  | [] => []
  | c :: rest =>
    if isNamePart c ∨ c = '.' ∨
        (¬ hex ∧ (before = 'e' ∨ before = 'E') ∧ (c = '+' ∨ c = '-')) then
      c :: numberRun hex c rest
    else []

/-- Whole digits with a fraction or an exponent or a last `f`. -/
def isDecimal (s : List Char) : Bool :=
  let s := if s.getLast? = some 'f' ∨ s.getLast? = some 'F' then s.dropLast else s
  let whole := s.takeWhile Char.isDigit
  let rest := s.drop whole.length
  let (fraction,rest) := match rest with
    | '.' :: rest => (rest.takeWhile Char.isDigit,rest.dropWhile Char.isDigit)
    | rest => ([],rest)
  let exponentOk := match rest with
    | [] => true
    | e :: rest =>
      let digits := match rest with
        | '+' :: digits => digits
        | '-' :: digits => digits
        | digits => digits
      (e = 'e' || e = 'E') && ! digits.isEmpty && digits.all Char.isDigit
  (! whole.isEmpty || ! fraction.isEmpty) && exponentOk

/-- What a run of number characters means. Whole numbers have at most 64 bits. -/
def number? (s : List Char) : Option Word :=
  let whole (base : Nat) (digits : List Char) : Option Word :=
    let n := digitsValue base digits
    if n < 0x10000000000000000 then some (.integer n) else none
  match s with
  | '0' :: 'x' :: digits | '0' :: 'X' :: digits =>
    if ! digits.isEmpty ∧ digits.all fun c => (hexValue? c).isSome then whole 16 digits else none
  | '0' :: digits =>
    if digits.all isOctal then whole 8 digits else if isDecimal s then some .decimal else none
  | digits =>
    if digits.all Char.isDigit then whole 10 digits
    else if isDecimal s then some .decimal else none

def signs : List Char :=
  ['.','-','+','(',')','[',']','{','}','<','>',',','=',':',';','/']

def word? (s : List Char) : Option (Word × List Char) :=
  match s with
  | [] => none
  | c :: rest =>
    if isNameStart c then
      some (.name (.ofList (c :: rest.takeWhile isNamePart)),rest.dropWhile isNamePart)
    else if c.isDigit ∨ (c = '.' ∧ rest.head?.any Char.isDigit) then
      let run := numberRun (c = '0' && (rest.head? == some 'x' || rest.head? == some 'X')) c rest
      (number? (c :: run)).map fun w => (w,rest.drop run.length)
    else if c = '"' ∨ c = '\'' then
      (quoted? c rest).map fun (text,rest) => (.text (.ofList text),rest)
    else if signs.contains c then some (.sign c,rest)
    else none

theorem word?_length {s : List Char} {r : Word × List Char} (h : word? s = some r) :
    r.2.length < s.length := by
  cases s with
  | nil => simp [word?] at h
  | cons c rest =>
    simp only [word?] at h
    split at h
    · cases h
      exact Nat.lt_succ_of_le (List.dropWhile_sublist isNamePart).length_le
    · split at h
      · obtain ⟨_,_,rfl⟩ := Option.map_eq_some_iff.1 h
        grind
      · split at h
        · obtain ⟨_,found,rfl⟩ := Option.map_eq_some_iff.1 h
          have := quoted?_length found
          simp
          omega
        · split at h
          · cases h
            simp
          · simp at h

def lexemes? (s : List Char) : Option (List Lexeme) :=
  match s with
  | [] => some []
  | '\n' :: rest => (lexemes? rest).map (.lineEnd :: ·)
  | '/' :: '/' :: rest =>
    (lexemes? (lineComment rest).2).map (.lineComment (.ofList (lineComment rest).1) :: ·)
  | '/' :: '*' :: rest =>
    match _h : blockComment? rest with
    | none => none
    | some (comment,rest) => (lexemes? rest).map (.blockComment (.ofList comment) :: ·)
  | c :: rest =>
    if isGap c then lexemes? rest
    else
      match _h : word? (c :: rest) with
      | none => none
      | some (w,rest) => (lexemes? rest).map (.word w :: ·)
termination_by s.length
decreasing_by
  · simp
  · have := lineComment_length rest
    simp
    omega
  · have := blockComment?_length _h
    simp_all
    omega
  · simp
  · exact word?_length _h

end ReferenceSite.Proto.Source
