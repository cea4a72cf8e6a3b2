import ReferenceSite.Text.Blank
import ReferenceSite.Text.Search
import ReferenceSite.Text.Word

/-! What the first line of a text tells about its language: the program that is to run it, the mode
that an editor is to use, and the openings that some formats begin with. -/
namespace ReferenceSite.Code.FirstLine
open ReferenceSite.Text

def anywhere (p : Option Char → List Char → Bool) (before : Option Char) : List Char → Bool
  | [] => p before []
  | c :: rest => p before (c :: rest) || anywhere p (some c) rest

def contains (mark : String) (s : List Char) : Bool :=
  anywhere (fun _ here => (dropPrefix? mark.toList here).isSome) none s

def isEdge (neighbour : Option Char) : Bool := ! neighbour.any isWord

/-- The rest behind `mark` if it stands here and does not continue a word. -/
def wordStart? (mark : String) (before : Option Char) (s : List Char) : Option (List Char) :=
  if isEdge before then dropPrefix? mark.toList s else none

def isWholeWord (mark : String) (before : Option Char) (s : List Char) : Bool :=
  (wordStart? mark before s).any fun rest => isEdge rest.head?

def program? (s : List Char) : Option (List Char) := dropPrefix? "#!".toList s

def programPath? (s : List Char) : Option (List Char) := do
  let rest ← program? s
  dropPrefix? ['/'] (trimStart rest)

def runs (name : String) (s : List Char) : Bool :=
  (program? s).any (anywhere (isWholeWord name) (some '!'))

def hasMode (mode : String) (s : List Char) : Bool :=
  contains ("-*- " ++ mode ++ " -*-") s || contains ("-*- Mode: " ++ mode ++ " -*-") s

def isAppleScript (s : List Char) : Bool := (program? s).any (contains "osascript")

def hasShellMode (s : List Char) : Bool :=
  ((dropPrefix? ['#'] s).bind fun rest => dropPrefix? "-*-".toList (trimStart rest)).any fun rest =>
    let body := rest.takeWhile (· ≠ '*')
    (dropPrefix? "*-".toList (rest.drop body.length)).isSome && body.getLast? == some '-' &&
      anywhere (fun _ here => (dropPrefix? "mode:".toList here).any fun after =>
        (dropPrefix? "shell-script".toList (trimStart after)).isSome) none body

def isShell (s : List Char) : Bool :=
  hasShellMode s || (program? s).any (anywhere (fun before here =>
    ["bash","zsh","sh","tcsh"].any fun name => (wordStart? name before here).isSome) (some '!'))

/-- A version may follow the name. -/
def isPython (s : List Char) : Bool :=
  (programPath? s).any <| anywhere (fun before here =>
    (wordStart? "python" before here).any fun rest =>
      isEdge rest.head? || (rest.head?.any isDigit &&
        (isEdge (rest.drop 1).head? || ((rest.drop 1).head? == some '.' &&
          (rest.drop 2).head?.any isDigit && isEdge (rest.drop 3).head?)))) (some '/')

def isJavaScript (s : List Char) : Bool :=
  (programPath? s).any fun rest =>
    anywhere (isWholeWord "node") (some '/') rest || anywhere (isWholeWord "js") (some '/') rest

def isRuby (s : List Char) : Bool :=
  (programPath? s).any <| anywhere (fun before here => (wordStart? "ruby" before here).isSome) (some '/')

def isPhp (s : List Char) : Bool :=
  (program? s).any <| anywhere (fun before here =>
    before ≠ some '-' && (dropPrefix? "php".toList here).any fun rest =>
      isEdge rest.head? || (rest.head?.any isDigit && isEdge (rest.drop 1).head?)) (some '!')

def isD (s : List Char) : Bool :=
  (program? s).any <| anywhere (fun before here =>
    ["dmd","gdmd"].any fun name =>
      (wordStart? name before here).any fun rest => ! rest.isEmpty && isEdge rest.head?) (some '!')

def numbers? (s : List Char) : Option (List Char) :=
  let rest := s.dropWhile isDigit
  if rest.length = s.length then none
  else match rest with
  | ',' :: after =>
    if after.head?.any isDigit then (if _h : after.length < s.length then numbers? after else none)
    else some rest
  | _ => some rest
termination_by s.length

def isHexDigit (c : Char) : Bool := ('0' ≤ c && c ≤ '9') || ('a' ≤ c && c ≤ 'f')

def isDepotHeader (s : List Char) : Bool :=
  ((dropPrefix? "====".toList s).bind fun rest => dropPrefix? "//".toList (trimStart rest)).any
    fun names => anywhere (fun _ here =>
      match here with
      | a :: '-' :: b :: _ :: after => isBlank a && isBlank b && anywhere (fun _ here =>
          here.head?.any isBlank && (dropPrefix? "====".toList (here.drop 1)).isSome) none after
      | _ => false) none (names.drop 1)

def isDiff (s : List Char) : Bool :=
  let opensWith (mark : String) := (dropPrefix? mark.toList s).isSome
  opensWith "=== modified file" || opensWith "Index: " || opensWith "diff --git " ||
    isDepotHeader s ||
    ((dropPrefix? "--- ".toList s).any fun rest => rest.head?.any (· ≠ '%')) ||
    ((dropPrefix? "***".toList s).any fun rest =>
      let last := (trimEnd rest).reverse.take 4
      last.length == 4 && last.all isDigit) ||
    ((numbers? s).any fun rest =>
      rest.head?.any (['a','d','c'].contains ·) && (numbers? (rest.drop 1)) == some []) ||
    ((dropPrefix? "commit ".toList s).any fun rest => rest.length == 40 && rest.all isHexDigit)

def isHtml (s : List Char) : Bool :=
  anywhere (fun _ here =>
    (dropPrefix? ['<'] here).any fun rest =>
      let opensWithHtml (s : List Char) := (dropPrefix? "html".toList s).isSome
      opensWithHtml rest ||
        (dropPrefix? "!doctype".toList rest).any fun rest => opensWithHtml (trimStart rest))
    none (s.map Char.toLower)

def isXml (s : List Char) : Bool :=
  (dropPrefix? "<?xml".toList s).any fun rest => rest.head?.any isBlank

def isLatex (s : List Char) : Bool :=
  (dropPrefix? "\\documentclass".toList s).any fun rest => ! contains "\x7bbeamer\x7d" rest

def isLatexLog (s : List Char) : Bool :=
  ["","e","pdf","pdfe"].any fun engine => contains ("This is " ++ engine ++ "TeX, Version ") s ||
    contains ("This is " ++ engine ++ "TeXk, Version ") s

def isMultiMarkdown (s : List Char) : Bool :=
  (dropPrefix? "format:".toList (s.map Char.toLower)).any fun rest => trim rest = "complete".toList

end ReferenceSite.Code.FirstLine
