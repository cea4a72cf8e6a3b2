import ReferenceSite.Link
import ReferenceSite.Proofs.Text.Parts

/-! The classes of links. A link leads into the documentation if it begins with its address or is a relative
path, and the path it means there is what remains. All others that begin with one slash, or with two dots and
a slash, lead into the repository. -/
namespace ReferenceSite.LinkPolicy
open ReferenceSite.Text

theorem dropDotSteps_kept (href : List Char) (solid : href.head? ≠ some '.') : dropDotSteps href = href := by
  unfold dropDotSteps
  split
  · exact absurd rfl solid
  · rfl

theorem isBareRelative_head (a : Address.Parser) (href : List Char) (bare : isBareRelative href a = true) :
    href.head? ≠ some '/' := by
  intro slash
  obtain ⟨rest,rfl⟩ := List.head?_eq_some_iff.mp slash
  simp [isBareRelative,dropPrefix?] at bare

theorem repositoryPath?_eq_some (href own : List Char) (found : repositoryPath? href = some own) :
    own.head? = some '/' ∧ (href = own ∨ href = '.' :: '.' :: own) := by
  unfold repositoryPath? at found
  split at found
  · obtain rfl := Option.some.inj found
    exact ⟨rfl,.inr rfl⟩
  · cases found
  · obtain rfl := Option.some.inj found
    exact ⟨rfl,.inl rfl⟩
  · cases found

theorem repositoryPath?_slash (rest : List Char) (single : rest.head? ≠ some '/') :
    repositoryPath? ('/' :: rest) = some ('/' :: rest) := by
  unfold repositoryPath?
  split
  · rename_i shape
    cases shape
  · rename_i shape
    obtain rfl := (List.cons.inj shape).2
    exact absurd rfl single
  · rename_i shape
    cases shape
    rfl
  · rename_i other
    exact absurd rfl (other rest)

variable (p : LinkPolicy) (a : Address.Parser) (href path : String)

/-- Exactly which links lead into the documentation, and to which path. -/
theorem classify_docs_iff (opened : p.docsPrefix.toList.head? = some '/') : p.classify href a = .docs path ↔
    href = p.docsPrefix ++ path ∨
      isBareRelative href.toList a = true ∧ path = .ofList (dropDotSteps href.toList) := by
  have inside : (∃ rest, dropPrefix? p.docsPrefix.toList href.toList = some rest ∧ path = .ofList rest) ↔
      href = p.docsPrefix ++ path := by
    simp only [dropPrefix?_eq_some_iff,← String.toList_inj,String.toList_append,String.toList_ofList]
    constructor
    · rintro ⟨rest,whole,rfl⟩
      exact whole
    · intro whole
      exact ⟨_,whole,rfl⟩
  rw [← inside]
  unfold classify
  cases found : dropPrefix? p.docsPrefix.toList href.toList with
  | some rest =>
    have first : href.toList.head? = some '/' := by
      rw [(dropPrefix?_eq_some_iff _ _ _).mp found,List.head?_append,opened]
      rfl
    have bound : isBareRelative href.toList a = false := by
      rw [← Bool.not_eq_true]
      exact fun bare => isBareRelative_head a _ bare first
    simp [bound,eq_comm]
  | none =>
    by_cases bare : isBareRelative href.toList a = true
    · simp [bare,eq_comm]
    · simp only [bare]
      cases repositoryPath? href.toList <;> simp

/-- A link into the repository is one of its forms and none into the documentation. -/
theorem classify_repository_iff : p.classify href a = .repository path ↔
    (∀ docs, p.classify href a ≠ .docs docs) ∧
      ∃ own, repositoryPath? href.toList = some own ∧ path = .ofList (markLine own) := by
  unfold classify
  cases dropPrefix? p.docsPrefix.toList href.toList with
  | some rest => simp
  | none =>
    by_cases bare : isBareRelative href.toList a = true
    · simp [bare]
    · simp only [bare]
      cases repositoryPath? href.toList <;> simp [eq_comm]

end ReferenceSite.LinkPolicy
