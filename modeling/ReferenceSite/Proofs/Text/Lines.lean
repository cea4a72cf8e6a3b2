import Mathlib.Data.List.TakeWhile
import ReferenceSite.Text.Blank
import ReferenceSite.Text.Search
import ReferenceSite.Text.Word

/-! White space around texts, and texts that are written line by line. A text that begins and ends
with other signs is what trimming finds again behind any white space, and lines that hold no line
feed are read back as they are. -/
namespace ReferenceSite.Text

theorem not_blank_of_isWord (c : Char) (word : isWord c = true) : isBlank c = false := by
  have apart : ∀ n ∈ [0x9,0xA,0xB,0xC,0xD,0x20,0x85,0xA0,0x1680] ++ List.range' 0x2000 11 ++
      [0x2028,0x2029,0x202F,0x205F,0x3000], inRanges wordRanges n = false := by decide +kernel
  rw [Bool.eq_false_iff]
  intro blank
  refine Bool.false_ne_true ((apart c.toNat ?_).symm.trans word)
  simp [isBlank,inRanges] at blank
  simp [List.mem_range'_1]
  omega

theorem not_isWord_of_blank (c : Char) (blank : isBlank c = true) : isWord c = false := by
  cases word : isWord c with
  | false => rfl
  | true => exact absurd blank (by simp [not_blank_of_isWord c word])

section
variable {α : Type} (p : α → Bool)

theorem dropWhile_kept (cs : List α) (first : ∀ c, cs.head? = some c → p c = false) :
    cs.dropWhile p = cs := by
  cases cs with
  | nil => rfl
  | cons c cs => simp [first c rfl]

theorem dropWhile_past (before cs : List α) (passed : ∀ c ∈ before, p c = true)
    (first : ∀ c, cs.head? = some c → p c = false) : (before ++ cs).dropWhile p = cs := by
  rw [List.dropWhile_append_of_pos passed,dropWhile_kept p cs first]

theorem takeWhile_past (before cs : List α) (passed : ∀ c ∈ before, p c = true)
    (first : ∀ c, cs.head? = some c → p c = false) : (before ++ cs).takeWhile p = before := by
  rw [List.takeWhile_append_of_pos passed]
  cases cs with
  | nil => simp
  | cons c cs => simp [first c rfl]

theorem dropWhile_stops (cs : List α) (c : α) (first : (cs.dropWhile p).head? = some c) : p c = false := by
  have stop := List.head?_dropWhile_not p cs
  rw [first] at stop
  simpa using stop

theorem takeWhile_split (cs : List α) : ∃ before behind, cs = before ++ behind ∧
    (∀ c ∈ before, p c = true) ∧ ∀ c, behind.head? = some c → p c = false :=
  ⟨cs.takeWhile p,cs.dropWhile p,List.takeWhile_append_dropWhile.symm,fun _ => List.mem_takeWhile_imp,
    dropWhile_stops p cs⟩

/-- A list has none of a kind, or it goes on to the first of that kind. -/
theorem none_or_first (cs : List α) : (∀ c ∈ cs, p c = false) ∨
    ∃ before c behind, cs = before ++ c :: behind ∧ (∀ d ∈ before, p d = false) ∧ p c = true := by
  cases found : cs.find? p with
  | none => exact .inl fun c member => by simpa using List.find?_eq_none.mp found c member
  | some c =>
    obtain ⟨kind,before,behind,split,others⟩ := List.find?_eq_some_iff_append.mp found
    exact .inr ⟨before,c,behind,split,fun d member => by simpa using others d member,kind⟩

end

section
variable (c : Char) (before behind : List Char) (outside : c ∉ before)
include outside

theorem takeWhile_upTo : (before ++ c :: behind).takeWhile (· ≠ c) = before :=
  takeWhile_past _ before _ (by simpa using List.forall_mem_ne'.mpr outside) (by simp)

theorem dropWhile_upTo : (before ++ c :: behind).dropWhile (· ≠ c) = c :: behind :=
  dropWhile_past _ before _ (by simpa using List.forall_mem_ne'.mpr outside) (by simp)

end

structure Trimmed (cs : List Char) : Prop where
  opens : ∀ c, cs.head? = some c → isBlank c = false
  closes : ∀ c, cs.getLast? = some c → isBlank c = false

theorem trimStart_past (before cs : List Char) (blank : ∀ c ∈ before, isBlank c = true)
    (first : ∀ c, cs.head? = some c → isBlank c = false) : trimStart (before ++ cs) = cs :=
  dropWhile_past isBlank before cs blank first

theorem trimStart_space (cs : List Char) (first : ∀ c, cs.head? = some c → isBlank c = false) :
    trimStart (' ' :: cs) = cs :=
  trimStart_past [' '] cs (List.forall_mem_singleton.mpr (by decide)) first

theorem trimStart_cons (c : Char) (cs : List Char) (first : isBlank c = false) :
    trimStart (c :: cs) = c :: cs := by
  rw [trimStart,List.dropWhile_cons_of_neg (by simp [first])]

theorem trimEnd_past (cs behind : List Char) (blank : ∀ c ∈ behind, isBlank c = true)
    (last : ∀ c, cs.getLast? = some c → isBlank c = false) : trimEnd (cs ++ behind) = cs := by
  have back := dropWhile_past isBlank behind.reverse cs.reverse (by simpa using blank)
    (by simpa using last)
  rw [trimEnd,dropWhileEnd,List.reverse_append,back,List.reverse_reverse]

theorem trimEnd_kept (cs : List Char) (last : ∀ c, cs.getLast? = some c → isBlank c = false) :
    trimEnd cs = cs := by
  simpa using trimEnd_past cs [] (by simp) last

theorem Trimmed.trim {cs : List Char} (trimmed : Trimmed cs) : trim cs = cs := by
  rw [Text.trim,trimStart,dropWhile_kept isBlank cs trimmed.opens,trimEnd_kept cs trimmed.closes]

private theorem linesAfter_line (current line rest : List Char) (single : '\n' ∉ line)
    (ended : (line.reverse ++ current).head? ≠ some '\r') :
    linesAfter current (line ++ '\n' :: rest) = (current.reverse ++ line) :: linesAfter [] rest := by
  induction line generalizing current with
  | nil =>
    rw [List.nil_append,linesAfter]
    · simp
    · rintro before rfl
      simp at ended
  | cons c line ih =>
    have inner : c ≠ '\n' := fun same => single (by simp [same])
    have later := ih (c :: current) (fun member => single (by simp [member])) (by simpa using ended)
    rw [List.cons_append,linesAfter,later]
    · simp
    · exact inner

theorem trim_cons_isEmpty (c : Char) (cs : List Char) (first : isBlank c = false) :
    (trim (c :: cs)).isEmpty = false := by
  rw [trim,trimStart_cons c cs first,trimEnd,dropWhileEnd,List.isEmpty_eq_false_iff,
    List.reverse_ne_nil_iff]
  intro dropped
  have blank := List.dropWhile_eq_nil_iff.mp dropped c (by simp)
  simp [first] at blank

theorem mem_of_mem_trimEnd (c : Char) (cs : List Char) (member : c ∈ trimEnd cs) : c ∈ cs := by
  rw [trimEnd,dropWhileEnd,List.mem_reverse] at member
  exact List.mem_reverse.mp ((List.dropWhile_suffix _).mem member)

theorem mem_of_mem_trim (c : Char) (cs : List Char) (member : c ∈ trim cs) : c ∈ cs :=
  (List.dropWhile_suffix _).mem (mem_of_mem_trimEnd c (trimStart cs) member)

/-- A line is read up to its line feed. A carriage return ahead of that would go with it. -/
theorem lines_line (line rest : List Char) (single : '\n' ∉ line)
    (ended : line.getLast? ≠ some '\r') : lines (line ++ '\n' :: rest) = line :: lines rest := by
  rw [lines,linesAfter_line [] line rest single (by simpa using ended)]
  rfl

theorem lines_joined (written : List (List Char)) (single : ∀ line ∈ written, '\n' ∉ line)
    (ended : ∀ line ∈ written, line.getLast? ≠ some '\r') :
    lines (written.flatMap (· ++ ['\n'])) = written := by
  induction written with
  | nil => rfl
  | cons line written ih =>
    simp only [List.flatMap_cons,List.append_assoc,List.singleton_append]
    rw [lines_line line _ (single line (by simp)) (ended line (by simp)),
      ih (fun l member => single l (by simp [member])) (fun l member => ended l (by simp [member]))]

end ReferenceSite.Text
