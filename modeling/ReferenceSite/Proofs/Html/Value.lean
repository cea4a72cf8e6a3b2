import ReferenceSite.Markdown.EntityName
import ReferenceSite.Proofs.Text.Parts

/-! The value of an attribute as a browser reads it. References, which begin with an ampersand, stand for other
characters; everything else stands for itself. A value is read as it is written exactly if no ampersand of it
begins a reference, and what is read is never longer than what is written. -/
namespace ReferenceSite.Html
open ReferenceSite.Markdown

/-- The names of references that may lack their semicolon. -/
def bareNames : List String :=
  ["AElig","AMP","Aacute","Acirc","Agrave","Aring","Atilde","Auml","COPY","Ccedil","ETH","Eacute","Ecirc",
    "Egrave","Euml","GT","Iacute","Icirc","Igrave","Iuml","LT","Ntilde","Oacute","Ocirc","Ograve","Oslash",
    "Otilde","Ouml","QUOT","REG","THORN","Uacute","Ucirc","Ugrave","Uuml","Yacute","aacute","acirc","acute",
    "aelig","agrave","amp","aring","atilde","auml","brvbar","ccedil","cedil","cent","copy","curren","deg",
    "divide","eacute","ecirc","egrave","eth","euml","frac12","frac14","frac34","gt","iacute","icirc","iexcl",
    "igrave","iquest","iuml","laquo","lt","macr","micro","middot","nbsp","not","ntilde","oacute","ocirc",
    "ograve","ordf","ordm","oslash","otilde","ouml","para","plusmn","pound","quot","raquo","reg","sect","shy",
    "sup1","sup2","sup3","szlig","thorn","times","uacute","ucirc","ugrave","uml","uuml","yacute","yen","yuml"]

/-- Code points that stand for the characters of an older code page. -/
def codePage : List (Nat × Nat) :=
  [(0x80,0x20AC),(0x82,0x201A),(0x83,0x192),(0x84,0x201E),(0x85,0x2026),(0x86,0x2020),(0x87,0x2021),
    (0x88,0x2C6),(0x89,0x2030),(0x8A,0x160),(0x8B,0x2039),(0x8C,0x152),(0x8E,0x17D),(0x91,0x2018),
    (0x92,0x2019),(0x93,0x201C),(0x94,0x201D),(0x95,0x2022),(0x96,0x2013),(0x97,0x2014),(0x98,0x2DC),
    (0x99,0x2122),(0x9A,0x161),(0x9B,0x203A),(0x9C,0x153),(0x9E,0x17E),(0x9F,0x178)]

def numbered (n : Nat) : Char :=
  match codePage.lookup n with
  | some point => Char.ofNat point
  | none => if n ≠ 0 ∧ n.isValidChar then Char.ofNat n else '\uFFFD'

def decimalNumber (digits : List Char) : Nat := digits.foldl (fun n c => 10 * n + (c.toNat - '0'.toNat)) 0

/-- Reads digits with the semicolon behind them, if there is one: their character, and how many they are. -/
def number? (isDigit : Char → Bool) (value : List Char → Nat) (s : List Char) : Option (List Char × Nat) :=
  let digits := s.takeWhile isDigit
  if digits.isEmpty then none
  else some ([numbered (value digits)],digits.length + if s[digits.length]? = some ';' then 1 else 0)

/-- What a name stands for: one character or two. -/
def named? (name : List Char) : Option (List Char) :=
  if name.isEmpty then none else (entity? name).map (·.take 2)

/-- Reads a reference behind its ampersand: what it stands for, and how many characters it takes. A name
may lack its semicolon if it is one of the older ones with no letter, digit or equals sign behind it. -/
def reference? : List Char → Option (List Char × Nat)
  | '#' :: x :: s =>
    if x = 'x' ∨ x = 'X' then (number? (hexDigit? · |>.isSome) hexNumber s).map fun (read,taken) => (read,taken + 2)
    else (number? Char.isDigit decimalNumber (x :: s)).map fun (read,taken) => (read,taken + 1)
  | s =>
    let name := s.takeWhile Char.isAlphanum
    let next := s[name.length]?
    if next = some ';' then (named? name).map (·,name.length + 1)
    else if bareNames.contains (.ofList name) ∧ next ≠ some '=' then (named? name).map (·,name.length)
    else none

/-- A null is read as the replacement character. -/
def shown (c : Char) : Char := if c = '\x00' then '\uFFFD' else c

/-- Reads a value, of which the next `skip` characters belong to a reference that is read already. -/
def decodeFrom (skip : Nat) : List Char → List Char
  | [] => []
  | c :: rest =>
    match skip with
    | n + 1 => decodeFrom n rest
    | 0 =>
      if c = '&' then
        match reference? rest with
        | some (read,taken) => read ++ decodeFrom taken rest
        | none => c :: decodeFrom 0 rest
      else shown c :: decodeFrom 0 rest

def decode (s : List Char) : List Char := decodeFrom 0 s

/-- No quote, no null, and no ampersand that begins a reference. -/
def IsVerbatim (s : List Char) : Prop :=
  ∀ c behind, c :: behind <:+ s → c ≠ '"' ∧ c ≠ '\x00' ∧ (c = '&' → reference? behind = none)

theorem isVerbatim_nil : IsVerbatim [] := fun c behind suffix => by simp at suffix

theorem isVerbatim_cons (c : Char) (s : List Char) :
    IsVerbatim (c :: s) ↔ (c ≠ '"' ∧ c ≠ '\x00' ∧ (c = '&' → reference? s = none)) ∧ IsVerbatim s := by
  constructor
  · exact fun verbatim => ⟨verbatim c s (List.suffix_refl _),
      fun d behind suffix => verbatim d behind (suffix.trans (List.suffix_cons c s))⟩
  · rintro ⟨first,later⟩ d behind suffix
    rcases List.suffix_cons_iff.mp suffix with same | inside
    · cases same
      exact first
    · exact later d behind inside

/-! A reference takes at least as many characters as it stands for. -/

theorem taken_le (s : List Char) (n : Nat) (short : n ≤ s.length) :
    n + (if s[n]? = some ';' then 1 else 0) ≤ s.length := by
  split
  · rename_i closed
    exact (List.getElem?_eq_some_iff.mp closed).1
  · exact short

theorem length_number? (isDigit : Char → Bool) (value : List Char → Nat) (s read : List Char) (taken : Nat)
    (found : number? isDigit value s = some (read,taken)) : read.length ≤ taken ∧ taken ≤ s.length := by
  unfold number? at found
  dsimp only at found
  split at found
  · cases found
  · rename_i nonempty
    cases found
    have digits : 0 < (s.takeWhile isDigit).length :=
      List.length_pos_iff.mpr fun none => nonempty (by rw [none]; rfl)
    have short := (List.takeWhile_sublist (l := s) isDigit).length_le
    exact ⟨by rw [List.length_singleton]; omega,taken_le s _ short⟩

theorem length_named? (name read : List Char) (found : named? name = some read) :
    0 < name.length ∧ read.length ≤ 2 := by
  unfold named? at found
  split at found
  · cases found
  · rename_i nonempty
    obtain ⟨whole,_,rfl⟩ := Option.map_eq_some_iff.mp found
    exact ⟨List.length_pos_iff.mpr fun none => nonempty (by rw [none]; rfl),List.length_take_le ..⟩

theorem length_bareName (name : String) (bare : bareNames.contains name = true) : 2 ≤ name.toList.length := by
  have long : ∀ bare ∈ bareNames, 2 ≤ bare.toList.length := by decide +kernel
  exact long name (by simpa using bare)

theorem length_reference? (s read : List Char) (taken : Nat) (found : reference? s = some (read,taken)) :
    read.length ≤ taken ∧ taken ≤ s.length := by
  unfold reference? at found
  split at found
  · rename_i x s
    split at found
    · obtain ⟨⟨read,n⟩,own,same⟩ := Option.map_eq_some_iff.mp found
      cases same
      have bounds := length_number? _ _ _ _ _ own
      simp only [List.length_cons]
      omega
    · obtain ⟨⟨read,n⟩,own,same⟩ := Option.map_eq_some_iff.mp found
      cases same
      have bounds := length_number? _ _ _ _ _ own
      simp only [List.length_cons] at bounds ⊢
      omega
  · have short := (List.takeWhile_sublist (l := s) Char.isAlphanum).length_le
    dsimp only at found
    split at found
    · rename_i closed
      obtain ⟨whole,own,same⟩ := Option.map_eq_some_iff.mp found
      cases same
      have bounds := length_named? _ _ own
      have inside := (List.getElem?_eq_some_iff.mp closed).1
      omega
    · split at found
      · rename_i bare
        obtain ⟨whole,own,same⟩ := Option.map_eq_some_iff.mp found
        cases same
        have bounds := length_named? _ _ own
        have long := length_bareName _ bare.1
        rw [String.toList_ofList] at long
        omega
      · cases found

theorem length_decodeFrom (skip : Nat) (s : List Char) : (decodeFrom skip s).length ≤ s.length - skip := by
  induction s generalizing skip with
  | nil => simp [decodeFrom]
  | cons c rest ih =>
    cases skip with
    | succ n =>
      rw [decodeFrom,List.length_cons]
      have := ih n
      omega
    | zero =>
      have plain := ih 0
      rw [decodeFrom]
      split
      · split
        · rename_i read taken found
          have bounds := length_reference? _ _ _ found
          have later := ih taken
          rw [List.length_append,List.length_cons]
          omega
        · rw [List.length_cons,List.length_cons]
          omega
      · rw [List.length_cons,List.length_cons]
        omega

/-- A value without a quote is read as it is written exactly if it is verbatim. -/
theorem decode_eq_self_iff (s : List Char) (unquoted : '"' ∉ s) : decode s = s ↔ IsVerbatim s := by
  induction s with
  | nil => exact ⟨fun _ => isVerbatim_nil,fun _ => rfl⟩
  | cons c rest ih =>
    have other : c ≠ '"' := fun same => unquoted (by simp [same])
    have ih := ih fun member => unquoted (List.mem_cons_of_mem c member)
    rw [isVerbatim_cons,← ih,decode,decodeFrom]
    split
    · rename_i ampersand
      split
      · rename_i read taken found
        have bounds := length_reference? _ _ _ found
        have later := length_decodeFrom taken rest
        constructor
        · intro same
          have lengths := congrArg List.length same
          rw [List.length_append,List.length_cons] at lengths
          omega
        · rintro ⟨⟨_,_,plain⟩,_⟩
          rw [plain ampersand] at found
          cases found
      · rename_i plain
        subst ampersand
        simp [decode,plain]
    · rename_i ordinary
      have same : shown c = c ↔ c ≠ '\x00' := by
        unfold shown
        split
        · rename_i null
          subst null
          decide
        · rename_i visible
          simp [visible]
      simp [decode,other,ordinary,same]

example : decode "a&#66;&#x43&notx&".toList = "aBC&notx&".toList := by decide +kernel

theorem takeWhile_unquoted_iff (s : List Char) : s.takeWhile (· ≠ '"') = s ↔ '"' ∉ s := by
  rw [List.takeWhile_eq_self_iff]
  exact ⟨fun plain member => by simpa using plain '"' member,
    fun unquoted c member => decide_eq_true fun same => unquoted (same ▸ member)⟩

theorem IsVerbatim.unquoted {s : List Char} (verbatim : IsVerbatim s) : '"' ∉ s := by
  intro member
  obtain ⟨before,behind,rfl⟩ := List.append_of_mem member
  exact (verbatim '"' behind (List.suffix_append before _)).1 rfl

/-- What is read up to the first quote is never longer, so it is the whole text only if there is no quote. -/
theorem decode_upToQuote_iff (s : List Char) : decode (s.takeWhile (· ≠ '"')) = s ↔ IsVerbatim s := by
  constructor
  · intro same
    have short : (decode (s.takeWhile (· ≠ '"'))).length ≤ (s.takeWhile (· ≠ '"')).length := length_decodeFrom 0 _
    rw [same] at short
    have whole := (List.takeWhile_sublist (l := s) (· ≠ '"')).eq_of_length_le short
    rw [whole] at same
    exact (decode_eq_self_iff s ((takeWhile_unquoted_iff s).mp whole)).mp same
  · intro verbatim
    rw [(takeWhile_unquoted_iff s).mpr verbatim.unquoted]
    exact (decode_eq_self_iff s verbatim.unquoted).mpr verbatim

end ReferenceSite.Html
