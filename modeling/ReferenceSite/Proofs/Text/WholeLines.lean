import Mathlib.Data.List.SplitBy
import ReferenceSite.Proofs.Text.Parts

/-! The lines of a text as they stand in it, with the line feeds that end them. Only the last line may
go without one. But for white space at their ends they are the lines that are read. -/
namespace ReferenceSite.Text

/-- The lines of a text, which is cut behind each line feed. -/
def wholeLines (s : List Char) : List (List Char) := s.splitBy fun c _ => c ≠ '\n'

/-- One line with its end, ahead of the rest of a text. -/
inductive Leads : List Char → List Char → Prop
  | ended (body rest : List Char) (single : '\n' ∉ body) : Leads (body ++ ['\n']) rest
  | last (body : List Char) (filled : body ≠ []) (single : '\n' ∉ body) : Leads body []

variable {line rest : List Char}

theorem Leads.filled (leads : Leads line rest) : line ≠ [] := by
  cases leads with
  | ended body rest single => simp
  | last body filled single => exact filled

theorem Leads.indented (leads : Leads line rest) (c : Char) (other : c ≠ '\n') : Leads (c :: line) rest := by
  cases leads with
  | ended body rest single => exact .ended (c :: body) rest (by simp [single,Ne.symm other])
  | last _ filled single => exact .last (c :: line) (by simp) (by simp [single,Ne.symm other])

theorem Leads.behind (leads : Leads line rest) (front : List Char) (single : '\n' ∉ front) : Leads (front ++ line) rest := by
  induction front with
  | nil => exact leads
  | cons c front ih =>
    obtain ⟨other,later⟩ := not_or.mp (List.mem_cons.not.mp single)
    exact (ih later).indented c (Ne.symm other)

private theorem isChain_single (body : List Char) (single : '\n' ∉ body) (last : Char) :
    (body ++ [last]).IsChain fun c _ => decide (c ≠ '\n') = true := by
  induction body with
  | nil => simp
  | cons c body ih =>
    obtain ⟨other,later⟩ := not_or.mp (List.mem_cons.not.mp single)
    have tail := ih later
    cases body with
    | nil => simpa using Ne.symm other
    | cons d body => simpa [Ne.symm other] using tail

theorem wholeLines_cons (leads : Leads line rest) : wholeLines (line ++ rest) = line :: wholeLines rest := by
  have one (body : List Char) (single : '\n' ∉ body) (last : Char) :
      wholeLines (body ++ [last]) = [body ++ [last]] :=
    List.splitBy_of_isChain (by simp) (isChain_single body single last)
  cases leads with
  | ended body rest single =>
    have cut := List.splitBy_append (r := fun c _ => c ≠ '\n') (l := body ++ ['\n']) (m := rest) (by simp)
    rw [wholeLines,cut]
    exact congrArg (· ++ wholeLines rest) (one body single '\n')
  | last _ filled single =>
    obtain ⟨front,c,rfl⟩ := (List.eq_nil_or_concat' line).resolve_left filled
    rw [List.append_nil,one front (fun member => single (by simp [member])) c]
    rfl

theorem flatten_wholeLines (s : List Char) : (wholeLines s).flatten = s := List.flatten_splitBy _ s

/-- A text is empty or has a first line. -/
@[elab_as_elim]
theorem wholeLines_induction {motive : List Char → Prop} (empty : motive [])
    (line : ∀ line rest, Leads line rest → motive rest → motive (line ++ rest)) (s : List Char) : motive s := by
  -- The signs that are read already belong to the line that goes on with the text.
  suffices onward : ∀ body, '\n' ∉ body → motive (body ++ s) from onward [] (by simp)
  induction s with
  | nil =>
    intro body single
    cases body with
    | nil => exact empty
    | cons c body => exact line _ [] (.last (c :: body) (by simp) single) empty
  | cons c s ih =>
    intro body single
    by_cases feed : c = '\n'
    · subst feed
      have ended := line _ s (.ended body s single) (ih [] (by simp))
      rwa [List.append_assoc] at ended
    · have further := ih (body ++ [c]) (by simp [single,Ne.symm feed])
      rwa [List.append_assoc] at further

/-! White space at the ends of lines. -/

theorem trimEnd_spaced (s behind : List Char) (blank : Blanks behind) : trimEnd (s ++ behind) = trimEnd s := by
  have passed : ∀ c ∈ behind.reverse, isBlank c = true := fun c member => blank c (List.mem_reverse.mp member)
  rw [trimEnd,dropWhileEnd,List.reverse_append,List.dropWhile_append_of_pos passed,trimEnd,dropWhileEnd]

theorem trim_spaced (s behind : List Char) (blank : Blanks behind) : trim (s ++ behind) = trim s := by
  rw [trim,trimStart,List.dropWhile_append]
  split
  · rename_i nothing
    have front : trimStart s = [] := List.isEmpty_iff.mp nothing
    have all : behind.dropWhile isBlank = [] := List.dropWhile_eq_nil_iff.mpr blank
    rw [all,trim,front]
  · exact trimEnd_spaced _ behind blank

/-- Behind other signs white space stays. -/
theorem trimStart_solid (s t : List Char) (solid : ¬ Blanks s) : trimStart (s ++ t) = trimStart s ++ t := by
  have left : ¬ (s.dropWhile isBlank).isEmpty := fun nothing =>
    solid (List.dropWhile_eq_nil_iff.mp (List.isEmpty_iff.mp nothing))
  rw [trimStart,List.dropWhile_append,if_neg left,trimStart]

theorem trim_indented (indent s : List Char) (blank : Blanks indent) : trim (indent ++ s) = trim s := by
  rw [trim,trimStart,List.dropWhile_append_of_pos blank,trim,trimStart]

end ReferenceSite.Text
