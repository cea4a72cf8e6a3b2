import ReferenceSite.Text.CharRange

/-! White space, trimming and lines. A line ends at a line feed, and a carriage return right before
that line feed belongs to the end; anywhere else a carriage return is an ordinary character. -/
namespace ReferenceSite.Text

/-- White space of any script. Zero-width spaces and the byte order mark are not white space. -/
def isBlank (c : Char) : Bool :=
  inRanges [(0x9,0xD),(0x20,0x20),(0x85,0x85),(0xA0,0xA0),(0x1680,0x1680),
    (0x2000,0x200A),(0x2028,0x2029),(0x202F,0x202F),(0x205F,0x205F),(0x3000,0x3000)] c.toNat

def trimStart (s : List Char) : List Char := s.dropWhile isBlank

def dropWhileEnd (p : Char → Bool) (s : List Char) : List Char := (s.reverse.dropWhile p).reverse

def trimEnd (s : List Char) : List Char := dropWhileEnd isBlank s

def trim (s : List Char) : List Char := trimEnd (trimStart s)

/-- The lines of `s`, of which `current`, last character first, is already read. -/
def linesAfter (current : List Char) : List Char → List (List Char)
  | [] => if current.isEmpty then [] else [current.reverse]
  | '\n' :: rest =>
    (match current with
      | '\r' :: before => before.reverse
      | _ => current.reverse) :: linesAfter [] rest
  | c :: rest => linesAfter (c :: current) rest

/-- The lines of a text without their ends. A line feed at the very end opens no further line. -/
def lines (s : List Char) : List (List Char) := linesAfter [] s

/-- What can remain after leading white space was skipped, the longest skip first. -/
def afterBlanks : List Char → List (List Char)
  | [] => [[]]
  | c :: rest => if isBlank c then afterBlanks rest ++ [c :: rest] else [c :: rest]

end ReferenceSite.Text
