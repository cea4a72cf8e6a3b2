import Mathlib.Data.List.Forall2

/-! What runs that may fail come to: one run after another, a run whose value is changed, and a run
over a list, which stops at the first item that it cannot take. -/
namespace ReferenceSite

theorem bind_error_iff {ε α β : Type} (first : Except ε α) (next : α → Except ε β) (fault : ε) :
    first >>= next = .error fault ↔
      first = .error fault ∨ ∃ a, first = .ok a ∧ next a = .error fault := by
  cases first <;> simp [bind,Except.bind]

theorem bind_ok_iff {ε α β : Type} (first : Except ε α) (next : α → Except ε β) (b : β) :
    first >>= next = .ok b ↔ ∃ a, first = .ok a ∧ next a = .ok b := by
  cases first <;> simp [bind,Except.bind]

theorem map_error_iff {ε α β : Type} (f : α → β) (run : Except ε α) (fault : ε) :
    f <$> run = .error fault ↔ run = .error fault := by
  cases run <;> simp [Functor.map,Except.map]

theorem map_ok_iff {ε α β : Type} (f : α → β) (run : Except ε α) (b : β) :
    f <$> run = .ok b ↔ ∃ a, run = .ok a ∧ f a = b := by
  cases run <;> simp [Functor.map,Except.map]

theorem mapM_ok_iff {ε α β : Type} (f : α → Except ε β) (items : List α) (found : List β) :
    items.mapM f = .ok found ↔ List.Forall₂ (fun x b => f x = .ok b) items found := by
  induction items generalizing found with
  | nil =>
    rw [List.mapM_nil,List.forall₂_nil_left_iff]
    exact ⟨fun run => (Except.ok.inj run).symm,fun none => none ▸ rfl⟩
  | cons x items ih =>
    simp only [List.mapM_cons,bind_ok_iff,List.forall₂_cons_left_iff,ih]
    constructor
    · rintro ⟨b,here,more,later,⟨⟩⟩
      exact ⟨b,more,here,later,rfl⟩
    · rintro ⟨b,more,here,later,rfl⟩
      exact ⟨b,here,more,later,rfl⟩

theorem mapM_ok_congr {ε α β : Type} (f g : α → Except ε β) (same : ∀ x b, f x = .ok b → g x = .ok b)
    (items : List α) (found : List β) (run : items.mapM f = .ok found) : items.mapM g = .ok found :=
  (mapM_ok_iff g ..).mpr (((mapM_ok_iff f ..).mp run).imp same)

theorem mem_of_mapM {ε α β : Type} (f : α → Except ε β) (items : List α) (found : List β)
    (run : items.mapM f = .ok found) : ∀ b ∈ found, ∃ x ∈ items, f x = .ok b := by
  have related := (mapM_ok_iff f items found).mp run
  clear run
  induction related with
  | nil => simp
  | cons here _ ih =>
    refine List.forall_mem_cons.mpr ⟨⟨_,List.mem_cons_self,here⟩,fun b member => ?_⟩
    obtain ⟨x,inside,own⟩ := ih b member
    exact ⟨x,List.mem_cons_of_mem _ inside,own⟩

/-- A run that fails exactly at bad items fails at the first of them. -/
theorem foldlM_error_iff {ε α β : Type} (f : β → α → Except ε β) (bad : α → Bool) (report : α → ε)
    (stops : ∀ before x, bad x = true → f before x = .error (report x))
    (goes : ∀ before x, bad x ≠ true → ∃ after, f before x = .ok after) (items : List α) (start : β)
    (fault : ε) : items.foldlM f start = .error fault ↔
      ∃ x, items.find? bad = some x ∧ fault = report x := by
  induction items generalizing start with
  | nil => exact ⟨nofun,nofun⟩
  | cons x items ih =>
    rw [List.foldlM_cons]
    by_cases here : bad x = true
    · rw [stops start x here,List.find?_cons_of_pos here]
      constructor
      · rintro ⟨⟩
        exact ⟨x,rfl,rfl⟩
      · rintro ⟨_,⟨⟩,rfl⟩
        rfl
    · obtain ⟨next,step⟩ := goes start x here
      rw [step,List.find?_cons_of_neg here]
      exact ih next

end ReferenceSite
