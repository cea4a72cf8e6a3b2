import ReferenceSite.Settings

/-! What stands under a name of a configuration after an entry was put or tables were merged. -/
namespace ReferenceSite.Settings
open ReferenceSite.Text

namespace Value

def isTable : Value → Bool
  | .table .. => true
  | _ => false

theorem lookup_single (name other : String) (entry : Value) :
    [(name,entry)].lookup other = if other = name then some entry else none := by
  by_cases same : other = name
  · rw [List.lookup_cons,beq_iff_eq.mpr same,if_pos same]
  · rw [List.lookup_cons,beq_eq_false_iff_ne.mpr same,if_neg same]
    rfl

theorem lookup_replaced (entries : List (String × Value)) (name other : String) (entry : Value) :
    (entries.map fun (n,old) => (n,if n = name then entry else old)).lookup other =
      if other = name then (entries.lookup other).map fun _ => entry else entries.lookup other := by
  induction entries with
  | nil => simp
  | cons first entries ih =>
    obtain ⟨n,old⟩ := first
    rw [List.map_cons,List.lookup_cons,List.lookup_cons,ih]
    by_cases here : other = n
    · rw [beq_iff_eq.mpr here,← here]
      by_cases same : other = name <;> simp [same]
    · rw [beq_eq_false_iff_ne.mpr here]

/-- An entry that was put stands under its name, and the others stay. -/
theorem get?_put (v : Value) (name : String) (entry : Value) (other : String) :
    (v.put name entry).get? other =
      if lowerName other = lowerName name then some entry else v.get? other := by
  have alone := lookup_single (lowerName name) (lowerName other) entry
  cases v with
  | table entries origin =>
    rw [put]
    cases known : entries.lookup (lowerName name) with
    | some old =>
      simp only [Option.isSome_some,if_true,get?,lookup_replaced]
      by_cases same : lowerName other = lowerName name <;> simp [same,known]
    | none =>
      simp only [Option.isSome_none,Bool.false_eq_true,if_false,get?,List.lookup_append,alone]
      by_cases same : lowerName other = lowerName name <;> simp [same,known]
  | scalar s origin => exact alone
  | list items origin => exact alone

theorem put_isTable (v : Value) (name : String) (entry : Value) : (v.put name entry).isTable = true := by
  cases v with
  | table entries origin =>
    dsimp only [put]
    split <;> rfl
  | _ => rfl

theorem mergeEntries_isTable (entries : List (String × Value)) (target : Value)
    (table : target.isTable = true) : (mergeEntries target entries).isTable = true := by
  induction entries generalizing target with
  | nil => rwa [mergeEntries]
  | cons entry entries ih =>
    rw [mergeEntries]
    exact ih _ (put_isTable _ _ _)

/-- A table that is merged leaves what it meets, or a table. -/
theorem mergedInto_table (existing : Option Value) (entries : List (String × Value)) (origin : Option String) :
    existing = some (mergedInto existing (.table entries origin)) ∨
      (mergedInto existing (.table entries origin)).isTable = true := by
  rw [mergedInto]
  cases entries with
  | nil =>
    rw [mergeEntries]
    cases existing with
    | none => exact .inr rfl
    | some v => exact .inl rfl
  | cons entry entries =>
    right
    rw [mergeEntries]
    exact mergeEntries_isTable _ _ (put_isTable _ _ _)

theorem mergedInto_other (existing : Option Value) (v : Value) (other : v.isTable = false) :
    mergedInto existing v = v := by
  cases v with
  | table entries origin => cases other
  | scalar s origin => rw [mergedInto]; exact nofun
  | list items origin => rw [mergedInto]; exact nofun

end Value

namespace Key

theorem steps?_stopped (c : Char) (rest : List Char) (plain : c ≠ '.' ∧ c ≠ '[') :
    steps? (c :: rest) = none := by
  rw [steps?]
  simp [plain]

/-- A name without dots and brackets is no longer key. -/
theorem read?_single (name : String) (plain : ∀ c ∈ name.toList, c ≠ '.' ∧ c ≠ '[') :
    (read? name).getD [.name name] = [.name name] := by
  cases read : read? name with
  | none => rfl
  | some key =>
    obtain ⟨⟨first,rest⟩,named,steps⟩ := Option.bind_eq_some_iff.mp read
    obtain ⟨more,stepped,whole⟩ := Option.bind_eq_some_iff.mp steps
    obtain rfl := Option.some.inj whole
    unfold name? at named
    dsimp only at named
    split at named
    · cases named
    · cases named
      have parts := List.takeWhile_append_dropWhile (p := isNameChar) (l := name.toList)
      cases behind : name.toList.dropWhile isNameChar with
      | nil =>
        rw [behind,List.append_nil] at parts
        rw [behind,steps?] at stepped
        cases stepped
        rw [parts,String.ofList_toList]
        rfl
      | cons c rest =>
        have inside : c ∈ name.toList := (List.dropWhile_sublist isNameChar).mem (by simp [behind])
        rw [behind,steps?_stopped c rest (plain c inside)] at stepped
        cases stepped

end Key

theorem Value.place_name (incoming v : Value) (name : String) :
    incoming.place [.name name] v = v.put name (incoming.mergedInto (v.get? name)) := by
  rw [place]

theorem Value.place_pair (incoming v : Value) (group name : String) (plain : incoming.isTable = false) :
    incoming.place [.name group,.name name] v =
      v.put group (((v.get? group).getD null).put name incoming) := by
  rw [place,place,mergedInto_other _ incoming plain]
  exact nofun

end ReferenceSite.Settings
