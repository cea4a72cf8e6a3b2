import ReferenceSite.Proofs.Markdown.RowText

/-! Where the lines of a document end, with carriage returns among its signs, and the last cell of a
line. A text goes on with the line that it begins on up to the first sign that ends a line, and a text
with its pipes escaped adds one cell at most to those ahead of it. -/
namespace ReferenceSite.Markdown
open ReferenceSite.Text

/-! Signs. -/

/-- A sign as it is read. -/
def readSign (c : Char) : Char := if c = '\x00' then '\uFFFD' else c

theorem readSign_eq_iff (c d : Char) (zero : d ≠ '\x00') (other : d ≠ '\uFFFD') : readSign c = d ↔ c = d := by
  unfold readSign
  split
  · rename_i same
    exact ⟨fun shown => absurd shown.symm other,fun kept => absurd (kept.symm.trans same) zero⟩
  · rfl

theorem mem_map_readSign (d : Char) (s : List Char) (zero : d ≠ '\x00') (other : d ≠ '\uFFFD') :
    d ∈ s.map readSign ↔ d ∈ s := by
  simp [List.mem_map,readSign_eq_iff _ d zero other]

theorem not_mem_map_readSign (s : List Char) : '\x00' ∉ s.map readSign := by
  intro member
  obtain ⟨c,_,zero⟩ := List.mem_map.mp member
  unfold readSign at zero
  split at zero
  · exact absurd zero (by decide)
  · contradiction

theorem map_readSign (s : List Char) (single : IsLine s) : s.map readSign = s :=
  (List.map_congr_left fun c member => if_neg (single c member).2.2).trans (List.map_id s)

theorem map_readSign_lines (written : List (List Char)) (single : ∀ line ∈ written, IsLine line) :
    written.map (List.map readSign) = written :=
  (List.map_congr_left fun line member => map_readSign line (single line member)).trans (List.map_id written)

theorem map_readSign_joined (written : List (List Char)) : (written.flatMap (· ++ ['\n'])).map readSign =
    (written.map (List.map readSign)).flatMap (· ++ ['\n']) := by
  rw [List.map_flatMap,List.flatMap_map]
  exact congrArg (written.flatMap ·) (funext fun line => List.map_append)

theorem escapePipes_read (s : List Char) : (escapePipes s).map readSign = escapePipes (s.map readSign) := by
  unfold escapePipes
  rw [List.map_flatMap,List.flatMap_map]
  refine congrArg (s.flatMap ·) (funext fun c => ?_)
  by_cases pipe : c = '|'
  · rw [pipe]
    rfl
  · have shown : readSign c ≠ '|' := mt (readSign_eq_iff c '|' (by decide) (by decide)).mp pipe
    rw [if_neg pipe,if_neg shown]
    rfl

/-! Lines. -/

/-- A sign that ends a line, unless it is a return with a feed behind it: these two end a line together. -/
theorem documentLines_end (current : List Char) (c : Char) (s : List Char) (ends : c = '\n' ∨ c = '\r')
    (single : c = '\r' → s.head? ≠ some '\n') : documentLines current (c :: s) = current.reverse :: documentLines [] s := by
  rw [documentLines,if_pos ends]
  rintro rest rfl rfl
  exact single rfl rfl

theorem documentLines_feed (current s : List Char) :
    documentLines current ('\n' :: s) = current.reverse :: documentLines [] s :=
  documentLines_end current '\n' s (.inl rfl) fun same => absurd same (by decide)

theorem documentLines_inner (current : List Char) (c : Char) (s : List Char) (inner : ¬ (c = '\n' ∨ c = '\r')) :
    documentLines current (c :: s) = documentLines (readSign c :: current) s := by
  rw [documentLines,if_neg inner]
  · rfl
  · rintro _ rfl
    exact absurd (.inr rfl) inner

theorem documentLines_unbroken (current s t : List Char) (fed : '\n' ∉ s) (returned : '\r' ∉ s) :
    documentLines current (s ++ t) = documentLines ((s.map readSign).reverse ++ current) t := by
  induction s generalizing current with
  | nil => rfl
  | cons c s ih =>
    obtain ⟨feed,laterFed⟩ := not_or.mp (List.mem_cons.not.mp fed)
    obtain ⟨back,laterReturned⟩ := not_or.mp (List.mem_cons.not.mp returned)
    rw [List.cons_append,documentLines_inner _ _ _ (not_or.mpr ⟨Ne.symm feed,Ne.symm back⟩),
      ih _ laterFed laterReturned]
    simp

theorem documentLines_filled (current s : List Char) (filled : current ≠ [] ∨ s ≠ []) : documentLines current s ≠ [] := by
  fun_induction documentLines current s with
  | case1 current empty => exact absurd (List.isEmpty_iff.mp empty) (filled.resolve_right (by simp))
  | case2 => simp
  | case3 => simp
  | case4 => simp
  | case5 current c rest _ _ ih => exact ih (.inl (by simp))

/-- Behind a space some line is open, whatever the text goes on with. -/
theorem documentLines_space (current s : List Char) : ∃ earlier start, ∀ t,
    documentLines current (s ++ ' ' :: t) = earlier ++ documentLines (' ' :: start) t := by
  fun_induction documentLines current s with
  | case1 current => exact ⟨[],current,fun t => documentLines_inner current ' ' t (by decide)⟩
  | case2 current => exact ⟨[],current,fun t => documentLines_inner current ' ' t (by decide)⟩
  | case3 current rest ih =>
    obtain ⟨earlier,start,onward⟩ := ih
    exact ⟨current.reverse :: earlier,start,fun t => by simp [documentLines,onward]⟩
  | case4 current c rest single ends ih =>
    obtain ⟨earlier,start,onward⟩ := ih
    have apart (t : List Char) : c = '\r' → (rest ++ ' ' :: t).head? ≠ some '\n' := by
      rintro rfl first
      cases rest with
      | nil => exact absurd first (by simp)
      | cons d rest =>
        obtain rfl : d = '\n' := by simpa using first
        exact single rest rfl rfl
    refine ⟨current.reverse :: earlier,start,fun t => ?_⟩
    rw [List.cons_append,documentLines_end _ _ _ ends (apart t),onward,List.cons_append]
  | case5 current c rest single inner ih =>
    obtain ⟨earlier,start,onward⟩ := ih
    refine ⟨earlier,start,fun t => ?_⟩
    rw [List.cons_append,documentLines_inner _ _ _ inner]
    exact onward t

/-- Behind a line feed the lines are read anew. -/
theorem documentLines_fed (current s t : List Char) :
    documentLines current (s ++ '\n' :: t) = documentLines current (s ++ ['\n']) ++ documentLines [] t := by
  fun_induction documentLines current s with
  | case1 current => simp [documentLines_feed,documentLines]
  | case2 current => simp [documentLines_feed,documentLines]
  | case3 current rest ih => simp [documentLines,ih]
  | case4 current c rest single ends ih =>
    cases rest with
    | nil =>
      rcases ends with rfl | rfl
      · simp [documentLines_feed,documentLines]
      · simp [documentLines]
    | cons d rest =>
      have apart (t : List Char) : c = '\r' → (d :: rest ++ t).head? ≠ some '\n' := by
        rintro rfl first
        obtain rfl : d = '\n' := by simpa using first
        exact single rest rfl rfl
      calc documentLines current (c :: (d :: rest ++ '\n' :: t))
        _ = current.reverse :: documentLines [] (d :: rest ++ '\n' :: t) := documentLines_end _ _ _ ends (apart _)
        _ = (current.reverse :: documentLines [] (d :: rest ++ ['\n'])) ++ documentLines [] t := by
          rw [ih]
          rfl
        _ = documentLines current (c :: (d :: rest ++ ['\n'])) ++ documentLines [] t := by
          rw [documentLines_end _ _ _ ends (apart _)]
  | case5 current c rest single inner ih =>
    rw [List.cons_append,documentLines_inner _ _ _ inner,List.cons_append,documentLines_inner _ _ _ inner]
    exact ih

/-- Each part that a feed ends is read by itself. -/
theorem documentLines_parts (parts : List (List Char)) (t : List Char) :
    documentLines [] (parts.flatMap (· ++ ['\n']) ++ t) =
      parts.flatMap (fun part => documentLines [] (part ++ ['\n'])) ++ documentLines [] t := by
  induction parts with
  | nil => rfl
  | cons part parts ih => simp [documentLines_fed [] part (_ ++ _),ih]

theorem documentLines_read (current s : List Char) : documentLines current (s.map readSign) = documentLines current s := by
  fun_induction documentLines current s with
  | case1 current empty => simp [documentLines,empty]
  | case2 current filled => simp [documentLines,filled]
  | case3 current rest ih => simp [readSign,documentLines,ih]
  | case4 current c rest single ends ih =>
    have same : readSign c = c := by
      rcases ends with rfl | rfl
      · decide
      · decide
    have apart : c = '\r' → (rest.map readSign).head? ≠ some '\n' := by
      rintro rfl first
      rw [List.head?_map] at first
      obtain ⟨d,begins,shown⟩ := Option.map_eq_some_iff.mp first
      obtain ⟨later,rfl⟩ := List.head?_eq_some_iff.mp begins
      rw [(readSign_eq_iff d '\n' (by decide) (by decide)).mp shown] at single
      exact single later rfl rfl
    rw [List.map_cons,same,documentLines_end _ _ _ ends apart,ih]
  | case5 current c rest single inner ih =>
    have again : readSign (readSign c) = readSign c := by
      unfold readSign
      split
      · rfl
      · rfl
    have shown : ¬ (readSign c = '\n' ∨ readSign c = '\r') := by
      rwa [readSign_eq_iff c _ (by decide) (by decide),readSign_eq_iff c _ (by decide) (by decide)]
    rw [List.map_cons,documentLines_inner _ _ _ shown,again]
    exact ih

/-- Lines as their signs are read are what a text is read as. -/
theorem Reads.parse_read {written : List (List Char)} {nodes : List Node} (reads : Reads written nodes)
    (text : String) (lines : text.toList.map readSign = written.flatMap (· ++ ['\n']))
    (unmarked : text.toList.head? ≠ some '\uFEFF') (single : ∀ line ∈ written, IsLine line) :
    Markdown.parse text = .node .document nodes :=
  reads.parse_lines text (by rw [← documentLines_read,lines,documentLines_joined written single]) unmarked

/-! Cells. -/

theorem cellsFrom_bar (skip : Bool) (current p t : List Char) : cellsFrom skip current (p ++ ' ' :: '|' :: ' ' :: t) =
    cellsFrom skip current (p ++ [' ','|',' ']) ++ cellsFrom true [] t := by
  induction p generalizing skip current with
  | nil => cases skip <;> simp [cellsFrom,isSpace]
  | cons c p ih =>
    rw [List.cons_append,cellsFrom,List.cons_append,cellsFrom]
    split
    · exact ih true []
    · split
      · rw [ih,List.cons_append]
      · exact ih false _

theorem cellsFrom_bar_filled (skip : Bool) (current p : List Char) : cellsFrom skip current (p ++ [' ','|',' ']) ≠ [] := by
  induction p generalizing skip current with
  | nil => cases skip <;> simp [cellsFrom,isSpace]
  | cons c p ih =>
    rw [List.cons_append,cellsFrom]
    split
    · exact ih true []
    · split
      · simp
      · exact ih false _

theorem trimSpace_kept (s : List Char) (opens : ∀ c, s.head? = some c → isSpace c = false)
    (closes : ∀ c, s.getLast? = some c → isSpace c = false) : trimSpace s = s := by
  rw [trimSpace,dropWhile_kept isSpace s opens,dropWhile_kept isSpace s.reverse (by simpa using closes),
    List.reverse_reverse]

/-- A bar between spaces ends a cell. A text behind it with its own bars escaped is one cell more,
unless it is empty. -/
theorem rowCells?_last (p : List Char) : ∃ ahead, rowCells? (p ++ [' ','|',' ']) = some ahead ∧
    ∀ s, (∀ c, s.head? = some c → isSpace c = false) → (∀ c, s.getLast? = some c → isSpace c = false) →
      rowCells? (p ++ ' ' :: '|' :: ' ' :: escapePipes s) = some (ahead ++ if s = [] then [] else [s]) := by
  -- Only the sign that the line begins with decides whether the first one is dropped.
  obtain ⟨q,begins⟩ : ∃ q : List Char, ∀ t : List Char,
      (if (p ++ ' ' :: t).head? = some '|' then (p ++ ' ' :: t).drop 1 else p ++ ' ' :: t) = q ++ ' ' :: t := by
    cases p with
    | nil => exact ⟨[],fun t => rfl⟩
    | cons c p =>
      by_cases bar : c = '|'
      · exact ⟨p,fun t => by simp [bar]⟩
      · exact ⟨c :: p,fun t => by simp [bar]⟩
  have filled := cellsFrom_bar_filled false [] q
  refine ⟨(cellsFrom false [] (q ++ [' ','|',' '])).map fun cell => trimSpace (unescapePipes cell),?_,
    fun s opens closes => ?_⟩
  · simp only [rowCells?,begins,List.isEmpty_iff,if_neg filled]
  · have both := List.append_ne_nil_of_left_ne_nil filled (cellsFrom true [] (escapePipes s))
    simp only [rowCells?,begins,cellsFrom_bar false [] q (escapePipes s),List.isEmpty_iff,if_neg both,List.map_append]
    rw [cellsFrom_skip,dropWhile_kept isSpace s opens]
    split
    · rfl
    · simp [unescapePipes_escapePipes,trimSpace_kept s opens closes]

end ReferenceSite.Markdown
