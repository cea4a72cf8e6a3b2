import ReferenceSite.Proofs.Comment.SingleLine
import ReferenceSite.Text.Word

/-! Which lines of a comment are dropped as bookkeeping. Each line that begins with "next id" goes, with
whatever its second word goes on, and the blank lines right ahead of it go with it. So a comment keeps
all its other lines exactly if no blank line stands ahead of such a line and none begins with a longer
word; then its paragraphs stay apart. -/
namespace ReferenceSite.Comment
open ReferenceSite.Text

def mark : List Char := "next id".toList

/-- Begins with the mark in any case, behind white space. -/
def isMarked (line : List Char) : Bool := ((trimStart line).take mark.length).map Char.toLower = mark

/-- Begins with the two words of the mark. -/
def isBookkeeping (line : List Char) : Bool :=
  isMarked line && ((trimStart line).drop mark.length).head?.all (! isWord ·)

/-- The first line that is not blank, if any, is marked. -/
def opensMarked (written : List (List Char)) : Bool := (written.find? fun line => ¬ Blanks line).any isMarked

/-- The lines but for the marked ones and the blank ones right ahead of these. -/
def keptLines : List (List Char) → List (List Char)
  | [] => []
  | line :: rest => if opensMarked (line :: rest) then keptLines rest else line :: keptLines rest

theorem not_blank_of_isMarked {line : List Char} (marked : isMarked line = true) : ¬ Blanks line := by
  intro blank
  have nothing : trimStart line = [] := List.dropWhile_eq_nil_iff.mpr blank
  rw [isMarked,nothing] at marked
  exact absurd (of_decide_eq_true marked) (by decide)

theorem isMarked_of_isBookkeeping {line : List Char} (booked : isBookkeeping line = true) : isMarked line = true :=
  (Bool.and_eq_true_iff.mp booked).1

theorem opensMarked_blank (line : List Char) (rest : List (List Char)) (blank : Blanks line) :
    opensMarked (line :: rest) = opensMarked rest := by
  simp [opensMarked,blank]

theorem opensMarked_solid (line : List Char) (rest : List (List Char)) (solid : ¬ Blanks line) :
    opensMarked (line :: rest) = isMarked line := by
  simp [opensMarked,solid]

/-- A line that is not dropped. -/
theorem not_isMarked (line : List Char) (rest : List (List Char)) (kept : opensMarked (line :: rest) = false) :
    isMarked line = false := by
  rw [Bool.eq_false_iff]
  intro marked
  rw [opensMarked_solid line rest (not_blank_of_isMarked marked),marked] at kept
  cases kept

theorem not_isBookkeeping (line : List Char) (unmarked : isMarked line = false) : isBookkeeping line = false := by
  rw [isBookkeeping,unmarked,Bool.false_and]

/-! The mark within a line. -/

section
variable {line rest : List Char}

theorem leads_trimStart (leads : Leads line rest) (solid : ¬ Blanks line) : Leads (trimStart line) rest := by
  have filled : trimStart line ≠ [] := fun nothing => solid (List.dropWhile_eq_nil_iff.mp nothing)
  have within (s : List Char) (single : '\n' ∉ s) : '\n' ∉ trimStart s := fun feed =>
    single ((List.dropWhile_suffix _).mem feed)
  cases leads with
  | last _ _ single => exact .last _ filled (within _ single)
  | ended body rest single =>
    have content : ¬ Blanks body := fun blank => solid (List.forall_mem_append.mpr
      ⟨blank,List.forall_mem_singleton.mpr (by decide)⟩)
    rw [trimStart_solid body _ content]
    exact .ended _ rest (within body single)

theorem feed_not_mem_of_mark (s : List Char) (marks : s.map Char.toLower = mark) : '\n' ∉ s := by
  intro feed
  have lowered := List.mem_map_of_mem (f := Char.toLower) feed
  rw [marks] at lowered
  exact absurd lowered (by decide)

/-- A mark does not go beyond its line. -/
theorem take_mark (leads : Leads line rest) : ((line ++ rest).take mark.length).map Char.toLower = mark ↔
    (line.take mark.length).map Char.toLower = mark := by
  by_cases long : mark.length ≤ line.length
  · rw [List.take_append_of_le_length long]
  · cases leads with
    | last _ _ _ => rw [List.append_nil]
    | ended body rest single =>
      have short : (body ++ ['\n']).take mark.length = body ++ ['\n'] := List.take_of_length_le (by omega)
      have split : (body ++ ['\n'] ++ rest).take mark.length =
          body ++ ['\n'] ++ rest.take (mark.length - (body ++ ['\n']).length) := by rw [List.take_append,short]
      constructor
      · intro marks
        rw [split] at marks
        exact absurd (by simp) (feed_not_mem_of_mark _ marks)
      · intro marks
        exact absurd (by simp [short]) (feed_not_mem_of_mark _ marks)

theorem drop_mark (leads : Leads line rest) (marks : (line.take mark.length).map Char.toLower = mark) :
    (((line ++ rest).drop mark.length).dropWhile (· ≠ '\n')).drop 1 = rest := by
  cases leads with
  | last _ _ single =>
    have inside : '\n' ∉ line.drop mark.length := fun feed => single (List.drop_subset _ _ feed)
    have nothing : (line.drop mark.length).dropWhile (· ≠ '\n') = [] :=
      List.dropWhile_eq_nil_iff.mpr (by simpa using List.forall_mem_ne'.mpr inside)
    rw [List.append_nil,nothing]
    rfl
  | ended body rest single =>
    have long : mark.length ≤ body.length := by
      by_contra short
      have all : (body ++ ['\n']).take mark.length = body ++ ['\n'] :=
        List.take_of_length_le (by rw [List.length_append,List.length_singleton]; omega)
      exact absurd (by simp [all]) (feed_not_mem_of_mark _ marks)
    rw [List.append_assoc,List.drop_append_of_le_length long,List.singleton_append,
      dropWhile_upTo '\n' _ _ fun feed => single (List.drop_subset _ _ feed)]
    rfl

theorem afterNextId?_line (leads : Leads line rest) : afterNextId? (line ++ rest) =
    if Blanks line then afterNextId? rest else if isMarked line then some rest else none := by
  split
  · rename_i blank
    have past : trimStart (line ++ rest) = trimStart rest := List.dropWhile_append_of_pos blank
    rw [afterNextId?,past,afterNextId?]
  · rename_i solid
    have own := leads_trimStart leads solid
    have within := take_mark own
    have read : afterNextId? (line ++ rest) =
        if ((trimStart line ++ rest).take mark.length).map Char.toLower = mark then
          some ((((trimStart line ++ rest).drop mark.length).dropWhile (· ≠ '\n')).drop 1)
        else none := by
      rw [afterNextId?,trimStart_solid line rest solid]
      rfl
    rw [read]
    cases marked : isMarked line with
    | true =>
      have marks := of_decide_eq_true marked
      rw [if_pos (within.mpr marks),drop_mark own marks]
      rfl
    | false => exact if_neg (within.not.mpr (of_decide_eq_false marked))

/-! What is left of a text. -/

theorem dropNextId_some {s : List Char} (found : afterNextId? s = some rest) :
    dropNextId true s = dropNextId true rest := by
  rw [dropNextId]
  split
  · rename_i behind same
    rw [if_pos rfl,found] at same
    cases same
    rfl
  · rename_i other
    rw [if_pos rfl,found] at other
    cases other

theorem dropNextId_nil (fresh : Bool) : dropNextId fresh [] = [] := by
  rw [dropNextId]
  cases fresh <;> rfl

theorem dropNextId_cons (fresh : Bool) (c : Char) (s : List Char)
    (unmarked : fresh = true → afterNextId? (c :: s) = none) :
    dropNextId fresh (c :: s) = c :: dropNextId (c = '\n') s := by
  rw [dropNextId]
  split
  · rename_i found
    split at found
    · rename_i begun
      rw [unmarked begun] at found
      cases found
    · cases found
  · rfl

theorem dropNextId_unmarked (s : List Char) (unmarked : afterNextId? s = none) :
    dropNextId true s = dropNextId false s := by
  cases s with
  | nil => rw [dropNextId_nil,dropNextId_nil]
  | cons c s => rw [dropNextId_cons true c s fun _ => unmarked,dropNextId_cons false c s nofun]

theorem dropNextId_body (body s : List Char) (single : '\n' ∉ body) :
    dropNextId false (body ++ s) = body ++ dropNextId false s := by
  induction body with
  | nil => rfl
  | cons c body ih =>
    obtain ⟨other,later⟩ := not_or.mp (List.mem_cons.not.mp single)
    rw [List.cons_append,dropNextId_cons false c _ nofun,decide_eq_false (Ne.symm other),ih later,List.cons_append]

theorem dropNextId_line (leads : Leads line rest) : dropNextId false (line ++ rest) = line ++ dropNextId true rest := by
  cases leads with
  | last _ _ single => rw [dropNextId_body _ _ single,dropNextId_nil,dropNextId_nil]
  | ended body rest single =>
    rw [List.append_assoc,dropNextId_body body _ single,List.singleton_append,dropNextId_cons false '\n' rest nofun]
    simp

theorem opensMarked_wholeLines (s : List Char) : opensMarked (wholeLines s) = (afterNextId? s).isSome := by
  induction s using wholeLines_induction with
  | empty => rfl
  | line line rest leads ih =>
    rw [wholeLines_cons leads,afterNextId?_line leads]
    split
    · rename_i blank
      rw [opensMarked_blank _ _ blank,ih]
    · rename_i solid
      rw [opensMarked_solid _ _ solid]
      cases isMarked line <;> rfl

theorem dropNextId_wholeLines (s : List Char) : dropNextId true s = (keptLines (wholeLines s)).flatten := by
  induction s using wholeLines_induction with
  | empty => exact dropNextId_nil true
  | line line rest leads ih =>
    have opens := opensMarked_wholeLines (line ++ rest)
    rw [wholeLines_cons leads] at opens ⊢
    rw [keptLines,opens]
    cases found : afterNextId? (line ++ rest) with
    | none =>
      rw [dropNextId_unmarked _ found,dropNextId_line leads,ih]
      rfl
    | some behind =>
      rw [dropNextId_some found,Option.isSome_some,if_pos rfl,← ih]
      rw [afterNextId?_line leads] at found
      split at found
      · exact (dropNextId_some found).symm
      · split at found
        · cases found
          rfl
        · cases found

end

/-! Which lines are left. -/

/-- Every marked line is a bookkeeping line, and none stands right behind a blank line. -/
structure Orderly (written : List (List Char)) : Prop where
  whole : ∀ line ∈ written, isMarked line = true → isBookkeeping line = true
  apart : written.IsChain fun ahead line => Blanks ahead → isMarked line = false

instance (written : List (List Char)) : Decidable (Orderly written) :=
  decidable_of_iff ((∀ line ∈ written, isMarked line = true → isBookkeeping line = true) ∧
      written.IsChain fun ahead line => Blanks ahead → isMarked line = false)
    ⟨fun both => ⟨both.1,both.2⟩,fun orderly => ⟨orderly.whole,orderly.apart⟩⟩

theorem Orderly.tail {line : List Char} {rest : List (List Char)} (orderly : Orderly (line :: rest)) : Orderly rest :=
  ⟨fun l member => orderly.whole l (List.mem_cons_of_mem line member),orderly.apart.tail⟩

/-- In such a text no marked line stands behind blank ones. -/
theorem Orderly.opens {line : List Char} {rest : List (List Char)} (orderly : Orderly (line :: rest))
    (blank : Blanks line) : opensMarked (line :: rest) = false := by
  induction rest generalizing line with
  | nil => rw [opensMarked_blank line [] blank]; rfl
  | cons next rest ih =>
    have unmarked := (List.isChain_cons_cons.mp orderly.apart).1 blank
    rw [opensMarked_blank line _ blank]
    by_cases further : Blanks next
    · exact ih orderly.tail further
    · rw [opensMarked_solid next rest further,unmarked]

theorem orderly_cons (line : List Char) (rest : List (List Char)) (whole : isMarked line = true → isBookkeeping line = true)
    (opens : Blanks line → opensMarked rest = false) (orderly : Orderly rest) : Orderly (line :: rest) := by
  refine ⟨List.forall_mem_cons.mpr ⟨whole,orderly.whole⟩,?_⟩
  cases rest with
  | nil => exact .singleton line
  | cons next rest =>
    refine List.isChain_cons_cons.mpr ⟨fun blank => ?_,orderly.apart⟩
    by_cases further : Blanks next
    · exact Bool.eq_false_iff.mpr fun marked => not_blank_of_isMarked marked further
    · rw [← opensMarked_solid next rest further]
      exact opens blank

theorem keptLines_sublist (written : List (List Char)) :
    (keptLines written).Sublist (written.filter (! isBookkeeping ·)) := by
  induction written with
  | nil => exact .slnil
  | cons line rest ih =>
    rw [keptLines]
    split
    · exact ih.trans ((List.sublist_cons_self line rest).filter _)
    · rename_i kept
      rw [List.filter_cons_of_pos (by simpa using not_isBookkeeping line (not_isMarked line rest (by simpa using kept)))]
      exact ih.cons_cons line

theorem keptLines_eq_iff (written : List (List Char)) :
    keptLines written = written.filter (! isBookkeeping ·) ↔ Orderly written := by
  induction written with
  | nil => exact ⟨fun _ => ⟨by simp,.nil⟩,fun _ => rfl⟩
  | cons line rest ih =>
    rw [keptLines]
    cases opens : opensMarked (line :: rest) with
    | false =>
      have unmarked := not_isMarked line rest opens
      have kept := not_isBookkeeping line unmarked
      rw [if_neg (by simp),List.filter_cons_of_pos (by simpa using kept),List.cons.injEq,ih]
      refine ⟨fun ⟨_,orderly⟩ => orderly_cons line rest ?_ ?_ orderly,fun orderly => ⟨rfl,orderly.tail⟩⟩
      · simp [unmarked]
      · intro blank
        rwa [opensMarked_blank line rest blank] at opens
    | true =>
      rw [if_pos rfl]
      cases booked : isBookkeeping line with
      | true =>
        have solid := not_blank_of_isMarked (isMarked_of_isBookkeeping booked)
        rw [List.filter_cons_of_neg (by simp [booked]),ih]
        exact ⟨orderly_cons line rest (fun _ => booked) fun blank => absurd blank solid,Orderly.tail⟩
      | false =>
        -- A line goes that is no bookkeeping line, so that fewer lines are left.
        rw [List.filter_cons_of_pos (by simp [booked])]
        constructor
        · intro same
          have fewer := (keptLines_sublist rest).length_le
          rw [same,List.length_cons] at fewer
          omega
        · intro orderly
          by_cases blank : Blanks line
          · rw [orderly.opens blank] at opens
            cases opens
          · rw [opensMarked_solid line rest blank] at opens
            rw [orderly.whole line (by simp) opens] at booked
            cases booked

/-- Some lines of a text make up the text only if they are all of its lines. -/
theorem eq_of_flatten_eq {left written : List (List Char)} (among : left.Sublist written) (filled : [] ∉ written)
    (same : left.flatten = written.flatten) : left = written := by
  induction among with
  | slnil => rfl
  | cons line among ih =>
    have shorter := among.flatten.length_le
    have some : line.length ≠ 0 := fun empty => filled (by simp [List.length_eq_zero_iff.mp empty])
    rw [same,List.flatten_cons,List.length_append] at shorter
    omega
  | cons_cons line among ih =>
    rw [List.flatten_cons,List.flatten_cons] at same
    rw [ih (fun member => filled (List.mem_cons_of_mem line member)) (List.append_cancel_left same)]

theorem flatten_keptLines_eq_iff (s : List Char) : (keptLines (wholeLines s)).flatten =
    ((wholeLines s).filter (! isBookkeeping ·)).flatten ↔ Orderly (wholeLines s) := by
  rw [← keptLines_eq_iff]
  refine ⟨fun same => eq_of_flatten_eq (keptLines_sublist _) (fun empty => ?_) same,congrArg List.flatten⟩
  exact List.nil_notMem_splitBy _ s (List.mem_of_mem_filter empty)

/-- The lines that are left are those of the text that they make up. -/
theorem wholeLines_keptLines (s : List Char) :
    wholeLines (keptLines (wholeLines s)).flatten = keptLines (wholeLines s) := by
  induction s using wholeLines_induction with
  | empty => rfl
  | line line rest leads ih =>
    rw [wholeLines_cons leads,keptLines]
    split
    · exact ih
    · rw [List.flatten_cons]
      cases leads with
      | ended body rest single => rw [wholeLines_cons (.ended body _ single),ih]
      | last _ filled single => exact wholeLines_cons (.last line filled single)

theorem stripNextId_keptLines (comment : String) :
    (stripNextId comment).toList = (keptLines (wholeLines comment.toList)).flatten := by
  rw [stripNextId,String.toList_ofList,dropNextId_wholeLines]

/-- A comment whose first line is not marked keeps its first sign. -/
theorem stripNextId_head (comment : String) (indent rest : List Char) (c : Char)
    (whole : comment.toList = indent ++ c :: rest) (blank : Blanks indent) (solid : isBlank c = false)
    (single : '\n' ∉ indent) (unmarked : afterNextId? comment.toList = none) :
    (singleLine (stripNextId comment)).toList.head? = some c := by
  refine singleLine_head _ indent (dropNextId (c = '\n') rest) c ?_ blank solid
  rw [stripNextId,String.toList_ofList,dropNextId_unmarked _ unmarked,whole,dropNextId_body indent _ single,
    dropNextId_cons false c rest fun fresh => absurd fresh Bool.false_ne_true]

/-- The single line of what is left, where just the bookkeeping lines are dropped. -/
theorem singleLine_stripNextId (comment : String) (orderly : Orderly (wholeLines comment.toList)) :
    (singleLine (stripNextId comment)).toList = joined (wholeLines comment.toList)
      ((placed (wholeLines comment.toList)).filter (! isBookkeeping ·.1)) := by
  have blank (line : List Char) (blank : Blanks line) : (! isBookkeeping line) = true := by
    rw [Bool.not_eq_true',Bool.eq_false_iff]
    exact fun booked => not_blank_of_isMarked (isMarked_of_isBookkeeping booked) blank
  rw [singleLine_lines,stripNextId_keptLines,wholeLines_keptLines,(keptLines_eq_iff _).mpr orderly]
  exact joinLines_kept (! isBookkeeping ·) blank _

/-- A comment is left with its lines but for the marked ones and the blank ones right ahead of these. These
are all of its lines but the bookkeeping lines exactly if it is orderly; then two of them that had a blank
line between them are set apart by a break. -/
theorem stripNextId_lines (comment : String) :
    (stripNextId comment).toList = (keptLines (wholeLines comment.toList)).flatten ∧
    ((stripNextId comment).toList = ((wholeLines comment.toList).filter (! isBookkeeping ·)).flatten ↔
      Orderly (wholeLines comment.toList)) ∧
    (Orderly (wholeLines comment.toList) → (singleLine (stripNextId comment)).toList =
      joined (wholeLines comment.toList) ((placed (wholeLines comment.toList)).filter (! isBookkeeping ·.1))) := by
  refine ⟨stripNextId_keptLines comment,?_,singleLine_stripNextId comment⟩
  rw [stripNextId_keptLines]
  exact flatten_keptLines_eq_iff comment.toList

/-! A comment whose number stands among its text, and one whose number is a paragraph of its own. -/

def numberedComment : String := " The config.\n Next id: 34.\n\n Read once\n per trace.\n"

theorem numbered_left : Orderly (wholeLines numberedComment.toList) ∧
    stripNextId numberedComment = " The config.\n\n Read once\n per trace.\n" ∧
    singleLine (stripNextId numberedComment) = "The config.<br>Read once per trace." := by
  have orderly : Orderly (wholeLines numberedComment.toList) := by decide +kernel
  obtain ⟨left,_,shown⟩ := stripNextId_lines numberedComment
  refine ⟨orderly,?_,?_⟩
  · rw [← String.toList_inj,left]
    decide +kernel
  · rw [← String.toList_inj,shown orderly]
    decide +kernel

def separateComment : String := "Intro\n\nNext id: 3\nMore\n"

/-- The blank line goes with the number, so that the paragraphs on either side of it become one. -/
theorem separate_merged :
    stripNextId separateComment = "Intro\nMore\n" ∧
    singleLine (stripNextId separateComment) = "Intro More" ∧
    ((wholeLines separateComment.toList).filter (! isBookkeeping ·)).flatten = "Intro\n\nMore\n".toList ∧
    joined (wholeLines separateComment.toList)
      ((placed (wholeLines separateComment.toList)).filter (! isBookkeeping ·.1)) = "Intro<br>More".toList := by
  have left : stripNextId separateComment = "Intro\nMore\n" := by
    rw [← String.toList_inj,stripNextId_keptLines]
    decide +kernel
  refine ⟨left,?_,by decide +kernel,by decide +kernel⟩
  rw [left]
  decide +kernel

end ReferenceSite.Comment
