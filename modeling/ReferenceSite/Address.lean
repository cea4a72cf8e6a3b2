import ReferenceSite.Address.Host

/-! Absolute addresses. An address begins with a scheme; what must follow depends on the scheme. Tabs
and line ends inside an address do not count. -/
namespace ReferenceSite.Address
open ReferenceSite.Text

def scheme? (s : List Char) : Option (List Char × List Char) :=
  match s with
  | c :: _ =>
    let scheme := s.takeWhile fun c => c.isAlphanum || "+-.".toList.contains c
    match s.drop scheme.length with
    | ':' :: rest => if c.isAlpha then some (scheme.map Char.toLower,rest) else none
    | _ => none
  | [] => none

/-- Schemes whose addresses always name a host. -/
def webSchemes : List (List Char) := ["http","https","ws","wss","ftp"].map (·.toList)

def endsAuthority (special : Bool) (c : Char) : Bool :=
  c = '/' || c = '?' || c = '#' || (special && c = '\\')

def hostLength (bracketed : Bool) : List Char → Nat
  | [] => 0
  | c :: rest =>
    if c = ':' ∧ ! bracketed then 0
    else hostLength (if c = '[' then true else if c = ']' then false else bracketed) rest + 1

/-- A port may be empty, and is no greater than 65535. -/
def isPort (s : List Char) : Bool := s.all Char.isDigit && (number? 10 s).any (· ≤ 65535)

def hasAuthority (special : Bool) (s : List Char) : Bool :=
  let authority := s.takeWhile (! endsAuthority special ·)
  let host := (authority.reverse.takeWhile (· ≠ '@')).reverse
  let named := host.length < authority.length
  let n := hostLength false host
  let port := host.drop n
  if named ∧ host.isEmpty ∧ authority.length = 1 ∧ authority.length < s.length then false
  else if (special ∨ ! port.isEmpty) ∧ n = 0 then false
  else (if special then isHost (host.take n) else isOpaqueHost (host.take n)) &&
    (port.isEmpty || isPort ((port.drop 1).takeWhile (· ≠ '\\')))

def isDriveLetter (s : List Char) : Bool :=
  match s with
  | [c,d] => c.isAlpha && (d = ':' || d = '|')
  | _ => false

def isFileRest (s : List Char) : Bool :=
  let slash (c : Char) : Bool := c = '/' || c = '\\'
  match s with
  | a :: b :: rest =>
    if slash a && slash b then
      let host := rest.takeWhile (! endsAuthority true ·)
      host.isEmpty || isDriveLetter host || isHost host
    else true
  | _ => true

def isAbsolute (s : List Char) : Bool :=
  let edge (c : Char) : Bool := c ≤ ' '
  let s := dropWhileEnd edge (s.dropWhile edge)
  let s := s.filter fun c => c ≠ '\t' ∧ c ≠ '\n' ∧ c ≠ '\r'
  match scheme? s with
  | none => false
  | some (scheme,rest) =>
    if webSchemes.contains scheme then
      hasAuthority true (rest.dropWhile fun c => c = '/' || c = '\\')
    else if scheme = "file".toList then isFileRest rest
    else
      match dropPrefix? "//".toList rest with
      | some rest => hasAuthority false rest
      | none => true

theorem isAbsolute_dot (s : List Char) : isAbsolute ('.' :: s) = false := by
  have back : ∃ rest, dropWhileEnd (fun c => decide (c ≤ ' ')) ('.' :: s) = '.' :: rest := by
    rw [dropWhileEnd,List.reverse_cons,List.dropWhile_append]
    split
    · exact ⟨[],by decide⟩
    · exact ⟨_,List.reverse_concat ..⟩
  obtain ⟨rest,back⟩ := back
  have front : ('.' :: s).dropWhile (fun c => decide (c ≤ ' ')) = '.' :: s :=
    List.dropWhile_cons_of_neg (by decide)
  have unschemed (rest : List Char) : scheme? ('.' :: rest) = none := by
    unfold scheme?
    dsimp only
    split <;> rfl
  unfold isAbsolute
  simp only [front,back]
  rw [List.filter_cons_of_pos (by decide),unschemed]

/-- Tells absolute addresses from others. Only a letter begins a scheme, so none begins with a dot. -/
structure Parser where
  isAbsolute : List Char → Bool
  dotted : ∀ s, isAbsolute ('.' :: s) = false

def Parser.standard : Parser := ⟨Address.isAbsolute,isAbsolute_dot⟩

end ReferenceSite.Address
