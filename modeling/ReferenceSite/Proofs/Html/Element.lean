import ReferenceSite.Proofs.Html.Value

/-! An element as a browser reads it: its name and its attributes, of which the first of a name counts. Only the
quote that opens a value ends it, and whatever stands behind a value begins further attributes. -/
namespace ReferenceSite.Html
open ReferenceSite.Text

/-- Line ends are line feeds. -/
def unifyLineEnds : List Char → List Char
  | '\r' :: '\n' :: rest => '\n' :: unifyLineEnds rest
  | '\r' :: rest => '\n' :: unifyLineEnds rest
  | c :: rest => c :: unifyLineEnds rest
  | [] => []

def isSpace (c : Char) : Bool := c = '\t' || c = '\n' || c = '\x0C' || c = ' '

def endsTagName (c : Char) : Bool := isSpace c || c = '/' || c = '>'

def endsName (c : Char) : Bool := endsTagName c || c = '='

def lowerName (name : List Char) : String := .ofList (name.map (shown ·.toLower))

/-- A value up to its closing quote, and what follows that. -/
def quoted? (quote : Char) (s : List Char) : Option (String × List Char) :=
  match s.dropWhile (· ≠ quote) with
  | [] => none
  | _ :: rest => some (.ofList (decode (s.takeWhile (· ≠ quote))),rest)

/-- A value behind its equals sign, and what follows it. -/
def value? (s : List Char) : Option (String × List Char) :=
  match s.dropWhile isSpace with
  | '"' :: s => quoted? '"' s
  | '\'' :: s => quoted? '\'' s
  | s => some (.ofList (decode (s.takeWhile fun c => ! isSpace c && c ≠ '>')),s.dropWhile fun c => ! isSpace c && c ≠ '>')

/-- An attribute that begins with this character, and what follows it. -/
def pair? (c : Char) (s : List Char) : Option ((String × String) × List Char) :=
  let name := lowerName (c :: s.takeWhile (! endsName ·))
  match (s.dropWhile (! endsName ·)).dropWhile isSpace with
  | '=' :: s => (value? s).map fun (value,rest) => ((name,value),rest)
  | rest => some ((name,""),rest)

theorem length_dropWhile_le (p : Char → Bool) (s : List Char) : (s.dropWhile p).length ≤ s.length :=
  (List.dropWhile_sublist p).length_le

theorem length_quoted? (quote : Char) (s : List Char) (value : String) (rest : List Char)
    (found : quoted? quote s = some (value,rest)) : rest.length ≤ s.length := by
  have short := length_dropWhile_le (· ≠ quote) s
  unfold quoted? at found
  split at found
  · cases found
  · rename_i parts
    cases found
    rw [parts,List.length_cons] at short
    omega

theorem length_value? (s : List Char) (value : String) (rest : List Char)
    (found : value? s = some (value,rest)) : rest.length ≤ s.length := by
  have short := length_dropWhile_le isSpace s
  unfold value? at found
  split at found
  · rename_i inner parts
    have inside := length_quoted? _ _ _ _ found
    rw [parts,List.length_cons] at short
    omega
  · rename_i inner parts
    have inside := length_quoted? _ _ _ _ found
    rw [parts,List.length_cons] at short
    omega
  · cases found
    exact Nat.le_trans (length_dropWhile_le _ _) short

theorem length_pair? (c : Char) (s : List Char) (entry : String × String) (rest : List Char)
    (found : pair? c s = some (entry,rest)) : rest.length ≤ s.length := by
  have short := Nat.le_trans (length_dropWhile_le isSpace _) (length_dropWhile_le (! endsName ·) s)
  unfold pair? at found
  dsimp only at found
  split at found
  · rename_i inner parts
    obtain ⟨⟨value,behind⟩,own,same⟩ := Option.map_eq_some_iff.mp found
    cases same
    have inside := length_value? _ _ _ own
    rw [parts,List.length_cons] at short
    exact Nat.le_trans inside (Nat.le_of_succ_le short)
  · cases found
    exact short

/-- The attributes up to the end of a tag, and what follows it. -/
def attributes? (s : List Char) : Option (List (String × String) × List Char) :=
  match s with
  | [] => none
  | c :: s =>
    if c = '>' then some ([],s)
    else if endsTagName c then attributes? s
    else
      match _h : pair? c s with
      | none => none
      | some (entry,rest) => (attributes? rest).map fun (more,behind) => (entry :: more,behind)
termination_by s.length
decreasing_by
  · simp
  · exact Nat.lt_succ_of_le (length_pair? _ _ _ _ _h)

structure Element where
  name : String
  attributes : List (String × String)
deriving DecidableEq

def Element.get? (e : Element) (name : String) : Option String := e.attributes.lookup name

/-- A tag behind its opening bracket, and what follows its closing one. -/
def tag? : List Char → Option (Element × List Char)
  | c :: s =>
    if c.isAlpha then
      (attributes? (s.dropWhile (! endsTagName ·))).map fun (attributes,rest) =>
        (⟨lowerName (c :: s.takeWhile (! endsTagName ·)),attributes⟩,rest)
    else none
  | [] => none

/-- The element that a text is, if it is one element without content and nothing else. -/
def emptyElement? (text : String) : Option Element :=
  match unifyLineEnds text.toList with
  | '<' :: s =>
    match tag? s with
    | some (element,'<' :: '/' :: s) =>
      match tag? s with
      | some (closing,[]) => if closing.name = element.name then some element else none
      | _ => none
    | _ => none
  | _ => none

theorem emptyElement?_begins (text : String) (s : List Char) (written : unifyLineEnds text.toList = '<' :: s)
    (e : Element) (read : emptyElement? text = some e) : ∃ rest, tag? s = some (e,rest) := by
  unfold emptyElement? at read
  split at read
  · rename_i s' begins
    obtain rfl := (List.cons.inj (written.symm.trans begins)).2
    split at read
    · rename_i element rest opened
      split at read
      · split at read
        · cases read
          exact ⟨_,opened⟩
        · cases read
      · cases read
    · cases read
  · cases read

theorem emptyElement?_closed (text : String) (s rest : List Char) (e closing : Element)
    (written : unifyLineEnds text.toList = '<' :: s) (opened : tag? s = some (e,'<' :: '/' :: rest))
    (closed : tag? rest = some (closing,[])) (same : closing.name = e.name) : emptyElement? text = some e := by
  simp only [emptyElement?,written,opened,closed,same,if_true]

theorem unifyLineEnds_eq (s : List Char) (fed : '\r' ∉ s) : unifyLineEnds s = s := by
  induction s with
  | nil => rfl
  | cons c s ih =>
    obtain ⟨other,later⟩ := not_or.mp (List.mem_cons.not.mp fed)
    rw [unifyLineEnds.eq_3 c s (fun _ same _ => other same.symm) fun same => other same.symm,ih later]

theorem attributes?_end (s : List Char) : attributes? ('>' :: s) = some ([],s) := by
  rw [attributes?]
  rfl

theorem attributes?_space (s : List Char) : attributes? (' ' :: s) = attributes? s := by
  rw [attributes?]
  rfl

theorem quoted?_closed (quote : Char) (raw rest : List Char) (inside : quote ∉ raw) :
    quoted? quote (raw ++ quote :: rest) = some (.ofList (decode raw),rest) := by
  unfold quoted?
  rw [dropWhile_upTo quote raw rest inside,takeWhile_upTo quote raw rest inside]

theorem pair?_quoted (c : Char) (letters raw rest : List Char) (plain : letters.all (! endsName ·) = true)
    (inside : '"' ∉ raw) : pair? c (letters ++ '=' :: '"' :: (raw ++ '"' :: rest)) =
      some ((lowerName (c :: letters),.ofList (decode raw)),rest) := by
  have passed := List.all_eq_true.mp plain
  have stops (s : List Char) : Stops (! endsName ·) ('=' :: s) := (stops_cons _ _ _).mpr rfl
  unfold pair?
  rw [dropWhile_past _ letters _ passed (stops _),takeWhile_past _ letters _ passed (stops _)]
  change (quoted? '"' (raw ++ '"' :: rest)).map _ = _
  rw [quoted?_closed '"' raw rest inside]
  rfl

/-- Whatever stands behind a value in quotes, the attribute ends with its quote. -/
theorem attributes?_quoted (c : Char) (letters raw rest : List Char) (begins : endsTagName c = false)
    (plain : letters.all (! endsName ·) = true) (inside : '"' ∉ raw) :
    attributes? (c :: (letters ++ '=' :: '"' :: (raw ++ '"' :: rest))) =
      (attributes? rest).map fun (more,behind) =>
        ((lowerName (c :: letters),.ofList (decode raw)) :: more,behind) := by
  have other : c ≠ '>' := by
    rintro rfl
    cases begins
  rw [attributes?,if_neg other,begins,if_neg Bool.false_ne_true]
  split
  · rename_i none
    rw [pair?_quoted c letters raw rest plain inside] at none
    cases none
  · rename_i entry behind found
    rw [pair?_quoted c letters raw rest plain inside] at found
    cases found
    rfl

end ReferenceSite.Html
