import ReferenceSite.Proofs.Tables.LineReading

/-! Which tables a header announces. White space at the start of a line is passed over, line ends
included; a line that begins with anything else than the announcing macro has no announcement. -/
namespace ReferenceSite.Header
open ReferenceSite.Text

/-- The announcements behind the first sign. -/
def behind (marker : List Char) : List Char → List String
  | [] => []
  | c :: rest => invocationsFrom marker (c = '\n') rest

theorem invocationsFrom_found (marker s definition rest : List Char)
    (found : invocation? marker s = some (definition,rest)) :
    invocationsFrom marker true s = .ofList definition :: invocationsFrom marker false rest := by
  rw [invocationsFrom.eq_def]
  split
  · rename_i other rest' same
    rw [if_pos rfl,found] at same
    cases same
    rfl
  · rename_i missing
    rw [if_pos rfl,found] at missing
    cases missing

theorem invocationsFrom_missing (marker s : List Char) (fresh : Bool)
    (missing : fresh = true → invocation? marker s = none) :
    invocationsFrom marker fresh s = behind marker s := by
  rw [invocationsFrom.eq_def]
  split
  · rename_i found
    split at found
    · rename_i here
      rw [missing here] at found
      cases found
    · cases found
  · cases s <;> rfl

theorem invocationsFrom_nil (marker : List Char) : invocationsFrom marker true [] = [] := by
  refine invocationsFrom_missing marker [] true fun _ => ?_
  cases marker <;> rfl

section
variable (marker : List Char) (first : Char) (more : List Char) (shape : marker = first :: more)
  (solid : isBlank first = false)
include shape solid

theorem invocation?_blank (b : Char) (s : List Char) (blank : isBlank b = true) :
    invocation? marker (b :: s) = invocation? marker s := by
  have other : first ≠ b := fun same => by simp [same,blank] at solid
  have stuck : dropPrefix? (marker ++ ['(']) (b :: s) = none := by simp [shape,dropPrefix?,other]
  rw [invocation?,afterBlanks,blank]
  simp only [if_true,List.findSome?_append,List.findSome?_cons,List.findSome?_nil,stuck]
  simp [invocation?]

theorem invocationsFrom_blank (b : Char) (s : List Char) (blank : isBlank b = true) :
    invocationsFrom marker true (b :: s) = invocationsFrom marker true s := by
  have same := invocation?_blank marker first more shape solid b s blank
  cases found : invocation? marker s with
  | some result =>
    rw [invocationsFrom_found marker s result.1 result.2 found,
      invocationsFrom_found marker (b :: s) result.1 result.2 (same.trans found)]
  | none =>
    rw [invocationsFrom_missing marker (b :: s) true fun _ => same.trans found,behind,
      invocationsFrom_missing marker s true fun _ => found,
      invocationsFrom_missing marker s _ fun _ => found]

theorem invocationsFrom_blanks (before s : List Char) (blank : ∀ b ∈ before, isBlank b = true) :
    invocationsFrom marker true (before ++ s) = invocationsFrom marker true s := by
  induction before with
  | nil => rfl
  | cons b before ih =>
    rw [List.cons_append,invocationsFrom_blank marker first more shape solid b _ (blank b (by simp))]
    exact ih fun c member => blank c (by simp [member])

end

theorem invocationsFrom_within (marker line rest : List Char) (single : '\n' ∉ line) :
    invocationsFrom marker false (line ++ '\n' :: rest) = invocationsFrom marker true rest := by
  induction line with
  | nil =>
    rw [List.nil_append,invocationsFrom_missing marker _ false nofun,behind]
    simp
  | cons c line ih =>
    have inner : c ≠ '\n' := fun same => single (by simp [same])
    rw [List.cons_append,invocationsFrom_missing marker _ false nofun,behind]
    simpa [inner] using ih fun member => single (by simp [member])

theorem invocationsFrom_other (marker : List Char) (c : Char) (line rest : List Char)
    (solid : isBlank c = false) (other : dropPrefix? (marker ++ ['(']) (c :: line ++ '\n' :: rest) = none)
    (single : '\n' ∉ c :: line) :
    invocationsFrom marker true (c :: line ++ '\n' :: rest) = invocationsFrom marker true rest := by
  have inner : c ≠ '\n' := fun same => single (by simp [same])
  have missing : invocation? marker (c :: line ++ '\n' :: rest) = none := by
    rw [List.cons_append] at other
    simp [invocation?,afterBlanks,solid,other]
  rw [invocationsFrom_missing marker _ true fun _ => missing,List.cons_append,behind]
  simpa [inner] using invocationsFrom_within marker line rest fun member => single (by simp [member])

theorem invocationsFrom_announced (marker : List Char) (definition : Word) (line rest : List Char)
    (solid : ∀ c, marker.head? = some c → isBlank c = false) (named : marker ≠ [])
    (single : '\n' ∉ line) :
    invocationsFrom marker true
        (marker ++ ['('] ++ (definition.chars ++ ')' :: (line ++ '\n' :: rest))) =
      .ofList definition.chars :: invocationsFrom marker true rest := by
  have start : afterBlanks (marker ++ ['('] ++ (definition.chars ++ ')' :: (line ++ '\n' :: rest))) =
      [marker ++ ['('] ++ (definition.chars ++ ')' :: (line ++ '\n' :: rest))] := by
    obtain ⟨c,more,rfl⟩ := List.exists_cons_of_ne_nil named
    simp [afterBlanks,solid c rfl]
  have found : invocation? marker
      (marker ++ ['('] ++ (definition.chars ++ ')' :: (line ++ '\n' :: rest))) =
      some (definition.chars,line ++ '\n' :: rest) := by
    rw [invocation?,start,List.findSome?_cons,dropPrefix?_append,Option.bind_eq_bind,Option.bind_some,
      LineKind.leadingWord?_word definition ')' _ (by decide)]
    rfl
  rw [invocationsFrom_found marker _ _ _ found,invocationsFrom_within marker line rest single]

end ReferenceSite.Header
