import ReferenceSite.Markdown.Escape
import ReferenceSite.Markdown.Node
import ReferenceSite.Text.Blank
import ReferenceSite.Text.Search

/-! Addresses that become links without any markup: web addresses with a scheme or with `www`, and
mail addresses. -/
namespace ReferenceSite.Markdown
open ReferenceSite.Text

def isHostCharacter (c : Char) : Bool := ! (isBlank c || isPunctuation c || isSymbol c)

/-- The length of the domain that the text begins with. Its last two parts hold no underscore, and
unless `short` is set it holds a dot. `here` and `before` count the underscores of the current part
and of the one before. -/
def domainLength? (short : Bool) (dots before here : Nat) : List Char → Option Nat
  | [] =>
    if (before > 0 ∨ here > 0) ∧ dots ≤ 10 then none
    else if short ∨ dots > 0 then some 0
    else none
  | c :: rest =>
    if c = '_' then (domainLength? short dots before (here + 1) rest).map (· + 1)
    else if c = '.' then (domainLength? short (dots + 1) here 0 rest).map (· + 1)
    else if ! isHostCharacter c ∧ c ≠ '-' then
      if before = 0 ∧ here = 0 ∧ (short ∨ dots > 0) then some 0 else none
    else (domainLength? short dots before here rest).map (· + 1)

def isTrailingMark (c : Char) : Bool := "?!.,:*_~'\"".toList.contains c

/-- Drops from the reversed address what does not belong to its end: marks, a closing parenthesis
that nothing opens, and an entity. -/
def trimAddressEnd : List Char → List Char
  | [] => []
  | c :: before =>
    if isTrailingMark c then trimAddressEnd before
    else if c = ';' then
      let name := before.takeWhile Char.isAlpha
      if 1 ≤ name.length ∧ before[name.length]? = some '&' then
        trimAddressEnd (before.drop (name.length + 1))
      else trimAddressEnd before
    else if c = ')' ∧ (before.count '(') < before.count ')' + 1 then trimAddressEnd before
    else c :: before
termination_by s => s.length
decreasing_by all_goals simp; try omega

def addressRun (s : List Char) : List Char :=
  (trimAddressEnd ((s.takeWhile (! isSpace ·)).takeWhile (· ≠ '<')).reverse).reverse

def addressLink (url text : List Char) : Node :=
  .node (.link (.ofList url) "") [.text text]

/-- A link from an address without a scheme. What comes before it must set it off. -/
def wwwLink? (before : Option Char) (s : List Char) : Option (Node × Nat) :=
  if before.all (fun c => isSpace c || "*_~([".toList.contains c) ∧
      (dropPrefix? "www.".toList s).isSome ∧ (domainLength? false 0 0 0 s).isSome then
    let address := addressRun s
    some (addressLink ("http://".toList ++ address) address,address.length)
  else none

def webSchemes : List (List Char) := ["http","https","ftp"].map (·.toList)

/-- A link from an address whose scheme ends right before the colon that the text begins with:
the link, the length of the scheme and the characters it takes from the colon on. -/
def webLink? (before s : List Char) : Option (Node × Nat × Nat) :=
  let scheme := (before.takeWhile Char.isAlpha).reverse
  if 4 ≤ s.length ∧ (dropPrefix? "://".toList s).isSome ∧ webSchemes.contains scheme ∧
      (domainLength? true 0 0 0 (s.drop 3)).isSome then
    let address := addressRun s
    some (addressLink (scheme ++ address) (scheme ++ address),scheme.length,address.length)
  else none

/-! ### Mail addresses -/

def isMailboxCharacter (c : Char) : Bool := c.isAlphanum || ".+-_".toList.contains c

def mailboxBefore (before : List Char) : List Char × Bool × Bool :=
  let name := before.takeWhile isMailboxCharacter
  match before.drop name.length with
  | ':' :: rest =>
    let scheme := (rest.takeWhile Char.isAlpha).reverse
    if scheme = "mailto".toList ∨ scheme = "xmpp".toList then
      let more := rest.takeWhile isMailboxCharacter
      (name ++ ':' :: more,true,decide (scheme = "xmpp".toList))
    else (name,false,false)
  | _ => (name,false,false)

def mailHostLength? (chat : Bool) : List Char → Option (Nat × Bool)
  | [] => some (0,false)
  | '@' :: _ => none
  | '.' :: c :: rest =>
    if c.isAlphanum then (mailHostLength? chat (c :: rest)).map fun (n,_) => (n + 1,true)
    else some (0,false)
  | c :: rest =>
    if c.isAlphanum ∨ c = '-' ∨ c = '_' ∨ (c = '/' ∧ chat) then
      (mailHostLength? chat rest).map fun (n,dotted) => (n + 1,dotted)
    else some (0,false)

/-- The mail address around an at sign, between the reversed text before it and the text behind:
the link, and the characters it takes on either side. -/
def mailLink? (before after : List Char) : Option (Node × Nat × Nat) := do
  let (mailbox,schemed,chat) := mailboxBefore before
  let (n,dotted) ← mailHostLength? chat after
  let host := after.take n
  if mailbox.isEmpty ∨ n = 0 ∨ ! dotted ∨ ! host.getLast?.any (fun c => c.isAlpha ∨ c = '.') then none
  else
    let tail := (trimAddressEnd ('@' :: host).reverse).reverse
    if tail.isEmpty then none
    else
      let address := mailbox.reverse ++ tail
      let url := if schemed then address else "mailto:".toList ++ address
      some (addressLink url address,mailbox.length,tail.length - 1)

/-- Splits a text at its first mail address outside square brackets; `depth` counts those open. -/
def splitMail? (depth : Int) (before : List Char) : List Char → Option (List Char × Node × List Char)
  | [] => none
  | c :: rest =>
    let depth := if c = '[' then depth + 1 else if c = ']' then depth - 1 else depth
    let found := if c = '@' ∧ depth ≤ 0 then mailLink? before rest else none
    match found with
    | some (link,back,ahead) => some ((before.drop back).reverse,link,rest.drop ahead)
    | none => splitMail? depth (c :: before) rest

def linkMail (limit : Nat) (s : List Char) : List Node :=
  let plain (t : List Char) : List Node := if t.isEmpty then [] else [.text t]
  match limit,splitMail? 0 [] s with
  | limit + 1,some (before,link,after) => plain before ++ link :: linkMail limit after
  | _,_ => plain s

end ReferenceSite.Markdown
