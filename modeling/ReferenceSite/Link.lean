import ReferenceSite.Address
import ReferenceSite.Files.Tree
import ReferenceSite.Text.Word

/-! Links of a page. A link leads into the documentation, to a file of the repository, or elsewhere.
Links into the documentation lose their file extension, links to repository files lead to a browser
of the repository, and all others stay as they are. What an absolute address is, is a parameter. -/
namespace ReferenceSite
open ReferenceSite.Text

structure LinkPolicy where
  docsPrefix : String
  sourceBaseUrl : String
deriving DecidableEq

def LinkPolicy.standard : LinkPolicy :=
  ⟨"/docs/","https://github.com/google/perfetto/blob/master"⟩

inductive LinkClass where
  /-- A page or an asset, relative to the documentation, with its query and fragment. -/
  | docs (path : String)
  | repository (path : String)
  | external
deriving DecidableEq

namespace LinkPolicy

def splitTarget (path : List Char) : List Char × List Char :=
  path.span fun c => c ≠ '#' ∧ c ≠ '?'

/-- A relative path as authors write it, not an address with a scheme. -/
def isBareRelative (href : List Char) (a : Address.Parser := .standard) : Bool :=
  ((dropPrefix? "./".toList href).isSome ||
    href.head?.any fun c => c.isAlphanum || c = '_') && ! a.isAbsolute href

def dropDotSteps : List Char → List Char
  | '.' :: '/' :: rest => dropDotSteps rest
  | path => path

/-- Writes a plain number behind the last sign of a fragment as a line number. -/
def markLine (path : List Char) : List Char :=
  let number := (path.reverse.takeWhile isDigit).reverse
  let before := path.take (path.length - number.length)
  if ! number.isEmpty ∧ before.getLast? = some '#' then before ++ 'L' :: number else path

def repositoryPath? (href : List Char) : Option (List Char) :=
  match href with
  | '.' :: '.' :: '/' :: rest => some ('/' :: rest)
  | '/' :: '/' :: _ => none
  | '/' :: rest => some ('/' :: rest)
  | _ => none

def classify (p : LinkPolicy) (href : String) (a : Address.Parser := .standard) : LinkClass :=
  match dropPrefix? p.docsPrefix.toList href.toList with
  | some rest => .docs (.ofList rest)
  | none =>
    if isBareRelative href.toList a then .docs (.ofList (dropDotSteps href.toList))
    else match repositoryPath? href.toList with
    | some path => .repository (.ofList (markLine path))
    | none => .external

def linkHref (p : LinkPolicy) (c : LinkClass) (href : String) : String :=
  match c with
  | .docs path =>
    let (target,suffix) := splitTarget path.toList
    p.docsPrefix ++ .ofList ((dropSuffix? ".md".toList target).getD target ++ suffix)
  | .repository path => p.sourceBaseUrl ++ path
  | .external => href

/-- Where an image of some class is found. Only images of the documentation move. -/
def imageSrc (p : LinkPolicy) (c : LinkClass) (href : String) : String :=
  match c with
  | .docs path => p.docsPrefix ++ path
  | _ => href

def docsFile (p : LinkPolicy) (path : String) : Path :=
  let slash (c : Char) : Bool := c = '/'
  (Path.mk (.ofList (dropWhileEnd slash (p.docsPrefix.toList.dropWhile slash)))).join
    (.ofList (splitTarget path.toList).1)

/-- Checks that a repository path leads to something in the project, without steps upwards. Answers
the target to report if it does not. -/
def checkRepositoryTarget (t : FileTree) (root : Path) (path : String) : Except String Unit :=
  let target := (splitTarget path.toList).1
  let relative : Path := ⟨.ofList (target.dropWhile (· = '/'))⟩
  if .parent ∉ relative.components ∧ t.contains (root.join relative.text) then .ok ()
  else .error (.ofList target)

end LinkPolicy
end ReferenceSite
