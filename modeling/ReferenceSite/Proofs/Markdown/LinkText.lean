import ReferenceSite.Proofs.Markdown.TameText

/-! Code and links within a text, as a reference writes them: code between two backticks, and a link
whose label is a plain text or code. What stands in front of a link is read first, what is behind it is
read as if the link were not there. -/
namespace ReferenceSite.Markdown
open ReferenceSite.Text

/-! Code between two backticks. -/

theorem closingBackticks?_single (s rest : List Char) (none : '`' ∉ s) (ended : rest.head? ≠ some '`') :
    closingBackticks? 1 0 (s ++ '`' :: rest) = some (s.length + 1) := by
  induction s with
  | nil =>
    cases rest with
    | nil => rfl
    | cons c rest =>
      have other : c ≠ '`' := by simpa using ended
      simp [closingBackticks?,other]
  | cons c s ih =>
    obtain ⟨other,later⟩ := not_or.mp (List.mem_cons.not.mp none)
    simp [closingBackticks?,Ne.symm other,ih later]

theorem readAll_code (references : References) (r : Reading) (before s rest : List Char) (filled : s ≠ [])
    (none : '`' ∉ s) (ended : rest.head? ≠ some '`') :
    readAll references r before ('`' :: s ++ '`' :: rest) =
      readAll references (r.pushNode (.leaf (.code (.ofList (codeText s)))))
        ('`' :: s.reverse ++ '`' :: before) rest := by
  have single : (s ++ '`' :: rest).takeWhile (· = '`') = [] := by
    cases s with
    | nil => exact absurd rfl filled
    | cons c s => simp [Ne.symm (not_or.mp (List.mem_cons.not.mp none)).1]
  have opened : readFrom references r before '`' (s ++ '`' :: rest) =
      (r.pushNode (.leaf (.code (.ofList (codeText s)))),s.length + 1) := by
    have unfolded : readFrom references r before '`' (s ++ '`' :: rest) =
      openBackticks r (s ++ '`' :: rest) := rfl
    rw [unfolded,openBackticks,single]
    simp [closingBackticks?_single s rest none ended,backtickLimit]
  have taken : (s ++ '`' :: rest).take (s.length + 1) = s ++ ['`'] := by
    rw [List.take_length_add_append]
    rfl
  rw [List.cons_append,readAll_cons,opened,taken]
  simp

/-! The destination of a link. -/

/-- Plain signs without spaces. -/
def IsAddress (s : List Char) : Prop := ∀ c ∈ s, isPlain c = true ∧ c ≠ ' '

theorem address_signs (c : Char) (plain : isPlain c = true) (solid : c ≠ ' ') :
    ¬ c ≤ ' ' ∧ isSpace c = false ∧ c ∉ ['(',')','\\','&','<','\x7f'] :=
  of_isPlain (fun c => c ≠ ' ' → ¬ c ≤ ' ' ∧ isSpace c = false ∧ c ∉ ['(',')','\\','&','<','\x7f'])
    (by decide +kernel) c plain solid

theorem bareLength?_address (d rest : List Char) (address : IsAddress d) :
    bareLength? 0 false (d ++ ')' :: rest) = some d.length := by
  induction d with
  | nil => rfl
  | cons c d ih =>
    obtain ⟨⟨plain,solid⟩,later⟩ := List.forall_mem_cons.mp address
    obtain ⟨above,-,signs⟩ := address_signs c plain solid
    simp only [List.mem_cons,List.not_mem_nil,or_false,not_or] at signs
    simp [bareLength?,above,signs,ih later]

theorem unescape_address (d : List Char) (address : IsAddress d) : unescape d = d := by
  have entities : unescapeEntities d = d := by
    unfold unescapeEntities
    induction d with
    | nil => rfl
    | cons c d ih =>
      obtain ⟨⟨plain,solid⟩,later⟩ := List.forall_mem_cons.mp address
      have signs := (address_signs c plain solid).2.2
      simp only [List.mem_cons,List.not_mem_nil,or_false,not_or] at signs
      simp [unescapeEntitiesFrom,signs,ih later]
  rw [unescape,entities]
  clear entities
  induction d with
  | nil => rfl
  | cons c d ih =>
    obtain ⟨⟨plain,solid⟩,later⟩ := List.forall_mem_cons.mp address
    have signs := (address_signs c plain solid).2.2
    simp only [List.mem_cons,List.not_mem_nil,or_false,not_or] at signs
    rw [unescapeBackslashes,ih later]
    rintro _ _ rfl
    exact absurd rfl signs.2.2.1

theorem cleanDestination_address (d : List Char) (address : IsAddress d) :
    cleanDestination d = .ofList d := by
  have solid (s : List Char) (within : s ⊆ d) : s.dropWhile isSpace = s :=
    dropWhile_kept isSpace s fun c first => by
      have inside := address c (within (List.mem_of_head? first))
      exact (address_signs c inside.1 inside.2).2.1
  have trimmed : trimSpace d = d := by
    rw [trimSpace,solid d (List.Subset.refl d),solid d.reverse (List.reverse_subset.mpr (List.Subset.refl d)),
      List.reverse_reverse]
  rw [cleanDestination,trimmed,unescape_address d address]

theorem scanDestination?_address (d rest : List Char) (address : IsAddress d) :
    scanDestination? (d ++ ')' :: rest) = some (d,d.length) := by
  have length := bareLength?_address d rest address
  cases d with
  | nil => rfl
  | cons c d =>
    obtain ⟨⟨plain,solid⟩,-⟩ := List.forall_mem_cons.mp address
    obtain ⟨above,-,signs⟩ := address_signs c plain solid
    simp only [List.mem_cons,List.not_mem_nil,or_false,not_or] at signs
    rw [List.cons_append] at length ⊢
    rw [scanDestination?]
    · simp [above,signs,length]
    · exact signs.2.2.2.2.1

theorem scanInlineTarget?_address (d rest : List Char) (address : IsAddress d) :
    scanInlineTarget? ('(' :: (d ++ ')' :: rest)) = some (⟨.ofList d,""⟩,d.length + 2) := by
  have solid : (d ++ ')' :: rest).takeWhile isSpace = [] := by
    cases d with
    | nil => rfl
    | cons c d =>
      obtain ⟨⟨plain,solid⟩,-⟩ := List.forall_mem_cons.mp address
      simp [(address_signs c plain solid).2.1]
  have untitled : cleanTitle [] = "" := rfl
  simp [scanInlineTarget?,solid,scanDestination?_address d rest address,
    cleanDestination_address d address,untitled,isSpace]
/-! Links. -/

theorem markNested_pieces (ps : List Piece) :
    Reading.markNested (ps.map Token.piece) = ps.map Token.piece := by
  induction ps with
  | nil => rfl
  | cons p ps ih => simp [Reading.markNested,ih]

theorem splitBracket?_pieces (ps : List Piece) (image : Bool) (inside : List Char) (nested : Bool)
    (before : List Token) :
    Reading.splitBracket? (ps.map Token.piece ++ .bracket image inside nested :: before) =
      some (ps,(image,inside,nested),before) := by
  induction ps with
  | nil => rfl
  | cons p ps ih => simp [Reading.splitBracket?,ih]

/-- A link is read once the text in its brackets is. -/
theorem readAll_link (references : References) (front ps : List Piece) (linked closed : Bool)
    (before s d rest inside : List Char) (whole : inside = s ++ ']' :: '(' :: (d ++ ')' :: rest))
    (address : IsAddress d)
    (inner : readAll references ⟨.bracket false inside false :: front.map Token.piece,false,true⟩
        ('[' :: before) inside =
      readAll references ⟨(ps.map Token.piece).reverse ++
        .bracket false inside false :: front.map Token.piece,false,true⟩
        (s.reverse ++ '[' :: before) (']' :: '(' :: (d ++ ')' :: rest))) :
    readAll references ⟨front.map Token.piece,linked,closed⟩ before
        ('[' :: (s ++ ']' :: '(' :: (d ++ ')' :: rest))) =
      readAll references ⟨.piece (.node (.node (.link (.ofList d) "") (pairRuns [] ps))) ::
        front.map Token.piece,true,false⟩
        (')' :: (d.reverse ++ '(' :: ']' :: (s.reverse ++ '[' :: before))) rest := by
  have opened (text : List Char) : readFrom references ⟨front.map Token.piece,linked,closed⟩ before '[' text =
      (⟨.bracket false text false :: front.map Token.piece,false,true⟩,0) := by
    have unfolded : readFrom references ⟨front.map Token.piece,linked,closed⟩ before '[' text =
      (Reading.openBracket ⟨front.map Token.piece,linked,closed⟩ false text,0) := rfl
    rw [unfolded,Reading.openBracket,markNested_pieces]
    rfl
  have closes : readFrom references ⟨(ps.map Token.piece).reverse ++
        .bracket false inside false :: front.map Token.piece,false,true⟩ (s.reverse ++ '[' :: before) ']'
        ('(' :: (d ++ ')' :: rest)) =
      (⟨.piece (.node (.node (.link (.ofList d) "") (pairRuns [] ps))) :: front.map Token.piece,true,false⟩,
        d.length + 2) := by
    have unfolded : readFrom references ⟨(ps.map Token.piece).reverse ++
        .bracket false inside false :: front.map Token.piece,false,true⟩ (s.reverse ++ '[' :: before) ']'
        ('(' :: (d ++ ')' :: rest)) = closeBracket references ⟨(ps.map Token.piece).reverse ++
        .bracket false inside false :: front.map Token.piece,false,true⟩ ('(' :: (d ++ ')' :: rest)) := rfl
    rw [unfolded,closeBracket]
    simp only [← List.map_reverse,splitBracket?_pieces]
    rw [scanTarget?,scanInlineTarget?_address d rest address]
    simp
  have taken : ('(' :: (d ++ ')' :: rest)).take (d.length + 2) = '(' :: (d ++ [')']) := by
    rw [List.take_succ_cons,List.take_length_add_append]
    rfl
  have left : ('(' :: (d ++ ')' :: rest)).drop (d.length + 2) = rest := by
    rw [List.drop_succ_cons,List.drop_length_add_append]
    rfl
  rw [readAll_cons,opened,← whole]
  simp only [List.take_zero,List.reverse_nil,List.nil_append,List.drop_zero]
  rw [inner,readAll_cons,closes]
  simp only [taken,left]
  simp

/-! Whole texts. -/

theorem trimSpaceEnd_past (s : List Char) (c : Char) (behind : List Char) (solid : isSpace c = false)
    (blank : ∀ d ∈ behind, isSpace d = true) : trimSpaceEnd (s ++ c :: behind) = s ++ [c] := by
  have back := dropWhile_past isSpace behind.reverse (c :: s.reverse) (by simpa using blank)
    (by simpa using solid)
  have turned : (s ++ c :: behind).reverse = behind.reverse ++ c :: s.reverse := by simp
  rw [trimSpaceEnd,turned,back]
  simp

theorem readAll_nil (references : References) (r : Reading) (before : List Char) :
    readAll references r before [] = r := by
  rw [readAll]

theorem inlines_code (references : References) (s : List Char) (filled : s ≠ []) (none : '`' ∉ s) :
    inlines references ('`' :: (s ++ ['`'])) = [.leaf (.code (.ofList (codeText s)))] := by
  have ended := trimSpaceEnd_past ('`' :: s) '`' [] (by decide) (by simp)
  rw [List.cons_append] at ended
  have read := readAll_code references .start [] s [] filled none (by simp)
  rw [List.cons_append] at read
  rw [inlines,ended,read,readAll_nil]
  simp [Reading.start,Reading.pushNode,Reading.push,Token.settle,pairRuns,Piece.settle,joinText,
    joinText.flush,Node.leaf]

theorem inlines_codeLink (references : References) (s d : List Char) (filled : s ≠ []) (none : '`' ∉ s)
    (address : IsAddress d) :
    inlines references ('[' :: '`' :: (s ++ '`' :: ']' :: '(' :: (d ++ [')']))) =
      [.node (.link (.ofList d) "") [.leaf (.code (.ofList (codeText s)))]] := by
  have ended := trimSpaceEnd_past ('[' :: '`' :: (s ++ '`' :: ']' :: '(' :: d)) ')' [] (by decide) (by simp)
  have read := readAll_link references [] [.node (.leaf (.code (.ofList (codeText s))))] false false []
    ('`' :: (s ++ ['`'])) d [] ('`' :: (s ++ '`' :: ']' :: '(' :: (d ++ [')']))) (by simp) address (by
      have code := readAll_code references ⟨[.bracket false
        ('`' :: (s ++ '`' :: ']' :: '(' :: (d ++ [')']))) false],false,true⟩ ['['] s
        (']' :: '(' :: (d ++ [')'])) filled none (by simp)
      simpa [Reading.pushNode,Reading.push] using code)
  simp only [List.cons_append,List.append_assoc,List.nil_append] at ended read
  rw [inlines,ended,Reading.start]
  rw [List.map_nil] at read
  rw [read,readAll_nil]
  simp [Token.settle,pairRuns,Piece.settle,joinText,joinText.flush,Node.leaf]

theorem isTame_of_isText (ps : List Piece) (texts : ∀ p ∈ ps, p.IsText (·.character = '_'))
    (none : '@' ∉ ps.flatMap Piece.spelled) : ∀ p ∈ ps, p.IsTame := by
  intro p member
  have text := texts p member
  cases p with
  | delimiter d => exact show d.character ≠ '@' by rw [text.2]; decide
  | node n =>
    obtain ⟨s,rfl⟩ := text
    refine (Node.isTame_node _ _).mpr ⟨.text fun inside => none ?_,by simp⟩
    exact List.mem_flatMap.mpr ⟨_,member,by simpa [Piece.spelled,Node.text,Node.leaf] using inside⟩

/-- A link behind a few words. Whatever the brackets hold stays inside the link. -/
theorem inlines_wordsLink (references : References) (words s d behind : List Char) (filled : words ≠ [])
    (ordinary : ∀ c ∈ words, isSpecial c = false) (none : '@' ∉ words)
    (plain : ∀ c ∈ s, isPlain c = true) (address : IsAddress d)
    (blank : ∀ c ∈ behind, isSpace c = true) :
    ∃ children, inlines references (words ++ '[' :: (s ++ ']' :: '(' :: (d ++ ')' :: behind))) =
        [.text words,.node (.link (.ofList d) "") children] ∧ ∀ n ∈ children, n.IsTame := by
  have ended := trimSpaceEnd_past (words ++ '[' :: (s ++ ']' :: '(' :: d)) ')' behind (by decide) blank
  have begun (rest : List Char) : readAll references .start [] (words ++ '[' :: rest) =
      readAll references ⟨[.piece (.node (.text words))],false,false⟩ words.reverse ('[' :: rest) := by
    cases words with
    | nil => exact absurd rfl filled
    | cons c words =>
      obtain ⟨first,later⟩ := List.forall_mem_cons.mp ordinary
      have chunk := takeWhile_past (! isSpecial ·) words ('[' :: rest) (by simpa using later) (by
        simp
        decide)
      rw [List.cons_append,readAll_cons,readFrom_ordinary references _ _ c _ first,chunk,if_neg (by simp)]
      simp [Reading.pushText,Reading.push,Reading.start,Token.text]
  generalize whole : s ++ ']' :: '(' :: (d ++ [')']) = inside
  obtain ⟨ps,reads,spells,texts⟩ := readAll_plain references (·.character = '_') s
    (']' :: '(' :: (d ++ [')'])) ⟨.bracket false inside false :: [.piece (.node (.text words))],false,true⟩
    ('[' :: words.reverse) plain (by simp) (by simp) (.inl rfl) (fun _ _ _ _ => rfl)
  have read := readAll_link references [.node (.text words)] ps false false words.reverse s d [] inside
    whole.symm address (whole ▸ reads)
  rw [List.map_singleton] at read
  refine ⟨pairRuns [] ps,?_,?_⟩
  · simp only [List.append_assoc,List.cons_append] at ended
    rw [inlines,ended,begun,read,readAll_nil]
    simp [Token.settle,pairRuns,Piece.settle,joinText,Node.text,Node.leaf,joinText.flush,
      linkMail_none _ words filled none,filled]
  · have tame := isTame_of_isText ps texts (spells ▸ not_at_plain s plain)
    exact pairRuns_isTame [] ps (by simpa using tame)

end ReferenceSite.Markdown
