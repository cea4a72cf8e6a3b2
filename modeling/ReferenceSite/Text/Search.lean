/-! Fixed texts inside a text: at its start, at its end, and anywhere. -/
namespace ReferenceSite.Text

def dropPrefix? : List Char → List Char → Option (List Char)
  | [],s => some s
  | _ :: _,[] => none
  | p :: ps,c :: cs => if p = c then dropPrefix? ps cs else none

def dropSuffix? (ending s : List Char) : Option (List Char) :=
  (dropPrefix? ending.reverse s.reverse).map List.reverse

def splitFirst? (mark : List Char) : List Char → Option (List Char × List Char)
  | [] => if mark.isEmpty then some ([],[]) else none
  | c :: cs =>
    match dropPrefix? mark (c :: cs) with
    | some after => some ([],after)
    | none => (splitFirst? mark cs).map fun (before,after) => (c :: before,after)

theorem dropPrefix?_eq_some {start s rest : List Char} (h : dropPrefix? start s = some rest) :
    s = start ++ rest := by
  induction start generalizing s with
  | nil => simpa [dropPrefix?] using h
  | cons p ps ih =>
    cases s with
    | nil => simp [dropPrefix?] at h
    | cons c cs =>
      by_cases hc : p = c <;> simp [dropPrefix?,hc] at h
      rw [ih h,hc,List.cons_append]

theorem dropPrefix?_append (start rest : List Char) :
    dropPrefix? start (start ++ rest) = some rest := by
  induction start with
  | nil => rfl
  | cons p ps ih => simp [dropPrefix?,ih]

end ReferenceSite.Text
