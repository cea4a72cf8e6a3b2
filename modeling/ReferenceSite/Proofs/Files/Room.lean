import ReferenceSite.Proofs.Files.Growth
import ReferenceSite.Proofs.Text.Parts

/-! What still fits into a tree of files. If a tree grows into one that has a directory at some path, the
directory can be made in it together with all above it, and it still grows into that one. Paths are taken
apart segment by segment, the last one first: each stage of the making is the path of a part of the segments,
and dropping silent segments at its end does not change where it leads. -/
namespace ReferenceSite

namespace Path

/-- Segments that some path can be written from. -/
structure Clean (absolute : Bool) (segments : List String) : Prop where
  inner : ∀ s ∈ segments, '/' ∉ s.toList
  opens : absolute = false → segments.head? ≠ some ""

theorem Clean.front {absolute : Bool} {before segments : List String} (clean : Clean absolute segments)
    (part : before <+: segments) : Clean absolute before where
  inner := fun s member => clean.inner s (part.subset member)
  opens := fun relative first => by
    obtain ⟨after,rfl⟩ := part
    refine clean.opens relative ?_
    cases before with
    | nil => cases first
    | cons s before => exact first

theorem not_mem_splitOn (cs part : List Char) (member : part ∈ cs.splitOn '/') : '/' ∉ part := by
  obtain ⟨_,_,_,inner,_⟩ := (Text.mem_splitOnP_iff (· == '/') cs part).mp member
  exact fun slash => Bool.false_ne_true (inner '/' slash).symm

/-- Only the path without any text has an empty segment in front of which no slash stands. -/
theorem segments_clean (p : Path) (named : p.text ≠ "") : Clean p.isAbsolute p.segments where
  inner := fun s member => by
    obtain ⟨part,inside,rfl⟩ := List.mem_map.mp member
    rw [String.toList_ofList]
    exact not_mem_splitOn _ part inside
  opens := fun relative first => by
    have nonempty : p.text.toList ≠ [] := by simpa using named
    obtain ⟨c,cs,shape⟩ := List.exists_cons_of_ne_nil nonempty
    have front : c ≠ '/' := by simpa [isAbsolute,shape] using relative
    simp only [segments,relative,Bool.false_eq_true,if_false,shape] at first
    rw [List.splitOn_cons_eq_if_modifyHead] at first
    obtain ⟨head,rest,split⟩ := List.exists_cons_of_ne_nil (List.splitOn_ne_nil '/' cs)
    simp [front,split] at first

theorem text_ofSegments (absolute : Bool) (segments : List String) :
    (ofSegments absolute segments).text.toList =
      (if absolute then ['/'] else []) ++ ['/'].intercalate (segments.map (·.toList)) := by
  cases absolute <;> simp [ofSegments,String.toList_intercalate]

theorem isAbsolute_ofSegments (absolute : Bool) (segments : List String) (clean : Clean absolute segments) :
    (ofSegments absolute segments).isAbsolute = absolute := by
  rw [isAbsolute,text_ofSegments]
  cases absolute with
  | true => simp
  | false =>
    cases segments with
    | nil => simp
    | cons s rest =>
      have named : s.toList ≠ [] := fun none => clean.opens rfl (by simpa using none)
      obtain ⟨c,cs,shape⟩ := List.exists_cons_of_ne_nil named
      have inner := clean.inner s List.mem_cons_self
      rw [shape] at inner
      have first : (['/'].intercalate ((s :: rest).map (·.toList))).head? = some c := by
        cases rest <;> simp [List.intercalate,shape]
      rw [List.map_cons] at first
      simpa [first] using fun same : c = '/' => inner (by simp [same])

theorem segments_ofSegments (absolute : Bool) (segments : List String) (clean : Clean absolute segments)
    (some : segments ≠ []) : (ofSegments absolute segments).segments = segments := by
  have text : (if (ofSegments absolute segments).isAbsolute then
      (ofSegments absolute segments).text.toList.drop 1 else (ofSegments absolute segments).text.toList) =
      ['/'].intercalate (segments.map (·.toList)) := by
    rw [isAbsolute_ofSegments absolute segments clean,text_ofSegments]
    cases absolute <;> rfl
  rw [Path.segments,text,List.splitOn_intercalate '/' (by simpa using clean.inner) (by simpa using some),
    List.map_map]
  simp [Function.comp_def]

theorem text_ofSegments_eq_empty (absolute : Bool) (segments : List String) (clean : Clean absolute segments) :
    (ofSegments absolute segments).text = "" ↔ absolute = false ∧ segments = [] := by
  constructor
  · intro none
    have relative : absolute = false := by
      rw [← isAbsolute_ofSegments absolute segments clean,isAbsolute,none]
      rfl
    refine ⟨relative,?_⟩
    refine Classical.byContradiction fun some => ?_
    have whole := segments_ofSegments absolute segments clean some
    have single : (ofSegments absolute segments).segments = [""] := by
      rw [Path.segments,isAbsolute_ofSegments absolute segments clean,none,relative]
      rfl
    exact clean.opens relative (by rw [← whole,single]; rfl)
  · rintro ⟨rfl,rfl⟩
    rfl

theorem dropSilent_suffix (absolute : Bool) (reversed : List String) :
    dropSilent absolute reversed <:+ reversed := by
  fun_induction dropSilent absolute reversed with
  | case1 => exact List.suffix_refl _
  | case2 => exact List.nil_suffix
  | case3 => exact List.suffix_refl _
  | case4 segment rest _ _ ih => exact ih.trans (List.suffix_cons ..)
  | case5 => exact List.suffix_refl _

theorem parent?_split (p : Path) (above : List String) (last : String) (split : p.segments = above ++ [last])
    (loud : isSilent last = false) :
    p.parent? = some (ofSegments p.isAbsolute (dropSilent p.isAbsolute above.reverse).reverse) := by
  have kept : p.reversedSegments = last :: above.reverse := by
    rw [reversedSegments,split,List.reverse_append,List.reverse_singleton,List.singleton_append]
    simp only [isSilent,decide_eq_false_iff_not,not_or] at loud
    cases above.reverse with
    | nil => simp [dropSilent,loud]
    | cons next rest => simp [dropSilent,isSilent,loud]
  simp only [parent?,kept]

theorem reversedSegments_front (p : Path) : p.reversedSegments.reverse <+: p.segments := by
  have part := List.reverse_prefix.mpr (dropSilent_suffix p.isAbsolute p.segments.reverse)
  rwa [List.reverse_reverse] at part

end Path

namespace FileTree

/-- What relative paths start from is a directory. -/
def Rooted (t : FileTree) : Prop := t.lookup t.workingDirectory = some .directory

def start (t : FileTree) (absolute : Bool) : Location := if absolute then [] else t.workingDirectory

/-- These segments lead to a directory. -/
def Leads (t : FileTree) (absolute : Bool) (segments : List String) (here : Location) : Prop :=
  segments.foldlM t.step (t.start absolute) = .ok here ∧ t.lookup here = some .directory

section Leads
variable {t T : FileTree} {absolute : Bool}

theorem Rooted.start_directory (rooted : t.Rooted) (absolute : Bool) :
    t.lookup (t.start absolute) = some .directory := by
  cases absolute with
  | true => exact t.lookup_root
  | false => exact rooted

theorem Grows.start_eq (grows : Grows t T) : T.start absolute = t.start absolute := by
  rw [FileTree.start,FileTree.start,grows.start]

theorem Grows.rooted (grows : Grows t T) (rooted : t.Rooted) : T.Rooted := by
  unfold Rooted
  rw [grows.start]
  exact grows.directories _ rooted

theorem walk_segments (t : FileTree) (p : Path) (named : p.text ≠ "") :
    t.walk p = p.segments.foldlM t.step (t.start p.isAbsolute) := by
  rw [FileTree.walk,if_neg named]
  rfl

theorem leads_nil (rooted : t.Rooted) (here : Location) : t.Leads absolute [] here ↔ here = t.start absolute := by
  unfold Leads
  constructor
  · exact fun leads => (Except.ok.inj leads.1).symm
  · rintro rfl
    exact ⟨rfl,rooted.start_directory absolute⟩

theorem foldlM_snoc (t : FileTree) (segments : List String) (last : String) (origin here : Location) :
    (segments ++ [last]).foldlM t.step origin = .ok here ↔
      ∃ up, segments.foldlM t.step origin = .ok up ∧ t.lookup up = some .directory ∧ here = descend up last := by
  rw [List.foldlM_append,bind_ok_iff]
  simp only [List.foldlM_cons,List.foldlM_nil,bind_pure,step_ok_iff]

/-- Silent segments at the end stay where they are. -/
theorem leads_silent (t : FileTree) (segments : List String) (last : String) (here : Location)
    (silent : Path.isSilent last = true) :
    t.Leads absolute (segments ++ [last]) here ↔ t.Leads absolute segments here := by
  unfold Leads
  rw [foldlM_snoc]
  constructor
  · rintro ⟨⟨up,led,directory,rfl⟩,_⟩
    simp only [descend,silent,if_true]
    exact ⟨led,directory⟩
  · rintro ⟨led,directory⟩
    exact ⟨⟨here,led,directory,by simp only [descend,silent,if_true]⟩,directory⟩

theorem leads_dropSilent (t : FileTree) (reversed : List String) (here : Location) :
    t.Leads absolute (Path.dropSilent absolute reversed).reverse here ↔ t.Leads absolute reversed.reverse here := by
  fun_induction Path.dropSilent absolute reversed with
  | case1 => rfl
  | case2 segment silent =>
    rw [List.reverse_singleton,← List.nil_append [segment]]
    refine (t.leads_silent [] segment here ?_).symm
    simp only [Path.isSilent,decide_eq_true_eq]
    exact silent.imp_right (·.2)
  | case3 => rfl
  | case4 segment rest _ silent ih => rw [ih,List.reverse_cons,t.leads_silent _ segment here silent]
  | case5 => rfl

/-- The directory at a path that is written from segments, by the segments that its making goes through. -/
theorem leads_reversedSegments (t : FileTree) (segments : List String) (clean : Path.Clean absolute segments)
    (named : (Path.ofSegments absolute segments).text ≠ "") (here : Location) :
    t.Leads absolute (Path.ofSegments absolute segments).reversedSegments.reverse here ↔
      t.Leads absolute segments here := by
  rw [Path.reversedSegments,Path.isAbsolute_ofSegments absolute segments clean,leads_dropSilent,List.reverse_reverse]
  by_cases none : segments = []
  · subst none
    cases absolute with
    | false => exact absurd rfl named
    | true => exact t.leads_silent [] "" here rfl
  · rw [Path.segments_ofSegments absolute segments clean none]

/-- Where the larger tree has a way, the smaller one only lacks what is to come. -/
theorem Grows.fault (grows : Grows t T) (segments : List String) (origin here : Location) (fault : FileFault)
    (leads : segments.foldlM T.step origin = .ok here) (fails : segments.foldlM t.step origin = .error fault) :
    fault = .notFound := by
  induction segments generalizing origin with
  | nil => cases fails
  | cons segment rest ih =>
    rw [List.foldlM_cons] at leads fails
    obtain ⟨next,taken,leads⟩ := (bind_ok_iff ..).mp leads
    obtain ⟨directory,rfl⟩ := (T.step_ok_iff ..).mp taken
    rcases (bind_error_iff ..).mp fails with own | ⟨next',own,fails⟩
    · unfold FileTree.step at own
      split at own
      · exact (Except.error.inj own).symm
      · rename_i content file
        obtain ⟨after,file'⟩ := grows.files origin content file
        rw [directory] at file'
        cases file'
      · cases own
    · obtain ⟨_,rfl⟩ := (t.step_ok_iff ..).mp own
      exact ih _ leads fails

/-! ### Directories -/

/-- A directory of the larger tree is there or can be made where everything above it is there. -/
theorem settle_room (grows : Grows t T) (p : Path) (here : Location) (walked : t.walk p = .ok here)
    (directory : T.lookup here = some .directory) :
    ∃ t', t.settle p = (t',.ok ()) ∧ Grows t' T ∧ t'.lookup here = some .directory := by
  cases found : t.lookup here with
  | some entry =>
    cases entry with
    | file content =>
      obtain ⟨after,file⟩ := grows.files here content found
      rw [directory] at file
      cases file
    | directory =>
      refine ⟨t,?_,grows,found⟩
      have there : t.isDirectory p = true := by
        unfold isDirectory
        rw [(t.find_ok_iff p here .directory).mpr ⟨walked,found⟩]
      have refused : t.createDirectory p = .error .alreadyExists := by
        simp [createDirectory,walked,found,bind,Except.bind,throw,throwThe,MonadExceptOf.throw]
      simp only [settle,refused,there,if_true]
  | none =>
    have inner : here ≠ [] := fun root => by simp [root,lookup_root] at found
    have made : t.createDirectory p = .ok (t.put here .directory) := by
      simp [createDirectory,walked,found,bind,Except.bind,pure,Except.pure]
    refine ⟨t.put here .directory,by simp only [settle,made],⟨grows.start,?_,?_⟩,?_⟩
    · intro other held
      rw [lookup_put t here other _ inner] at held
      split at held
      · rename_i same
        rw [same,directory]
      · exact grows.directories other held
    · intro other content held
      rw [lookup_put t here other _ inner] at held
      split at held
      · cases held
      · exact grows.files other content held
    · rw [lookup_put t here here _ inner,if_pos rfl]

theorem Grows.leads (grows : Grows t T) (segments : List String) (here : Location)
    (leads : t.Leads absolute segments here) : T.Leads absolute segments here := by
  refine ⟨?_,grows.directories here leads.2⟩
  rw [grows.start_eq]
  exact grows.foldlM segments (t.start absolute) here leads.1

theorem walk_ofSegments (t : FileTree) (above : List String) (last : String) (up : Location)
    (clean : Path.Clean absolute (above ++ [last])) (leads : t.Leads absolute above up) :
    t.walk (Path.ofSegments absolute (above ++ [last])) = .ok (descend up last) := by
  have named : (Path.ofSegments absolute (above ++ [last])).text ≠ "" := fun none => by
    simpa using ((Path.text_ofSegments_eq_empty absolute _ clean).mp none).2
  rw [t.walk_segments _ named,Path.segments_ofSegments absolute _ clean (by simp),
    Path.isAbsolute_ofSegments absolute _ clean]
  exact (t.foldlM_snoc above last _ _).mpr ⟨up,leads.1,leads.2,rfl⟩

/-- The last stage of the making, below directories that are there. -/
theorem settle_leads (grows : Grows t T) (above : List String) (last : String) (up : Location)
    (clean : Path.Clean absolute (above ++ [last])) (leads : t.Leads absolute above up)
    (directory : T.lookup (descend up last) = some .directory) :
    ∃ t', t.settle (Path.ofSegments absolute (above ++ [last])) = (t',.ok ()) ∧ Grows t' T ∧
      t'.Leads absolute (above ++ [last]) (descend up last) := by
  obtain ⟨t',made,grows',held⟩ :=
    settle_room grows _ _ (t.walk_ofSegments above last up clean leads) directory
  have further : Grows t t' := by
    have extend := t.settle_extends (Path.ofSegments absolute (above ++ [last]))
    rw [made] at extend
    exact extend.grows
  obtain ⟨led,stands⟩ := further.leads above up leads
  exact ⟨t',made,grows',(t'.foldlM_snoc above last _ _).mpr ⟨up,led,stands,rfl⟩,held⟩

theorem createDirectory_of_walk (t : FileTree) (p : Path) (here : Location) (walked : t.walk p = .ok here) :
    t.createDirectory p ≠ .error .notFound := by
  simp only [createDirectory,walked,bind,Except.bind]
  split
  · exact fun same => by cases same
  · exact fun same => by cases same

/-- If the way to a directory of the larger tree is not all there, its end cannot be made yet. -/
theorem createDirectory_missing (grows : Grows t T) (above : List String) (last : String) (up : Location)
    (clean : Path.Clean absolute (above ++ [last])) (leads : T.Leads absolute above up)
    (gone : ¬ t.Leads absolute above up) :
    t.createDirectory (Path.ofSegments absolute (above ++ [last])) = .error .notFound := by
  obtain ⟨led,stands⟩ := leads
  rw [grows.start_eq] at led
  have whole := (T.foldlM_snoc above last _ _).mpr ⟨up,led,stands,rfl⟩
  have named : (Path.ofSegments absolute (above ++ [last])).text ≠ "" := fun none => by
    simpa using ((Path.text_ofSegments_eq_empty absolute _ clean).mp none).2
  have fails : t.walk (Path.ofSegments absolute (above ++ [last])) = .error .notFound := by
    rw [t.walk_segments _ named,Path.segments_ofSegments absolute _ clean (by simp),
      Path.isAbsolute_ofSegments absolute _ clean]
    cases walked : (above ++ [last]).foldlM t.step (t.start absolute) with
    | error fault => rw [grows.fault _ _ _ fault whole walked]
    | ok there =>
      obtain ⟨up',led',stands',_⟩ := (t.foldlM_snoc above last _ there).mp walked
      obtain rfl : up = up' := Except.ok.inj (led.symm.trans (grows.foldlM _ _ _ led'))
      exact absurd ⟨led',stands'⟩ gone
  simp only [createDirectory,fails,bind,Except.bind]

theorem createAll_room (rooted : t.Rooted) (grows : Grows t T) (reversed : List String) (here : Location)
    (clean : Path.Clean absolute reversed.reverse) (leads : T.Leads absolute reversed.reverse here) :
    ∃ t', t.createAll absolute reversed = (t',.ok ()) ∧ Grows t' T ∧ t'.Leads absolute reversed.reverse here := by
  induction counted : reversed.length using Nat.strongRecOn generalizing reversed here with
  | _ size ih =>
  by_cases none : (Path.ofSegments absolute reversed.reverse).text = ""
  · obtain ⟨rfl,empty⟩ := (Path.text_ofSegments_eq_empty absolute reversed.reverse clean).mp none
    rw [empty,leads_nil (grows.rooted rooted),grows.start_eq] at leads
    refine ⟨t,?_,grows,?_⟩
    · rw [createAll_eq,if_pos none]
    · rw [empty,leads_nil rooted]
      exact leads
  cases reversed with
  | nil =>
    cases absolute with
    | false => exact absurd rfl none
    | true =>
      rw [List.reverse_nil,leads_nil (grows.rooted rooted)] at leads
      subst leads
      obtain ⟨t',made,grows',_⟩ := settle_room grows (Path.ofSegments true []) [] rfl T.lookup_root
      refine ⟨t',?_,grows',⟨rfl,t'.lookup_root⟩⟩
      rw [createAll_eq,if_neg none]
      split
      · contradiction
      · exact made
  | cons last above =>
    rw [List.reverse_cons] at leads clean none ⊢
    obtain ⟨whole,directory⟩ := leads
    obtain ⟨up,led,stands,rfl⟩ := (T.foldlM_snoc above.reverse last _ here).mp whole
    by_cases there : t.Leads absolute above.reverse up
    · obtain ⟨t',made,rest⟩ := settle_leads grows above.reverse last up clean there directory
      refine ⟨t',?_,rest⟩
      have reached := t.createDirectory_of_walk _ _ (t.walk_ofSegments above.reverse last up clean there)
      rw [createAll_eq,List.reverse_cons,if_neg none]
      split
      · rename_i failed _
        exact absurd failed reached
      · exact made
    · -- Something above is missing, so all of it is made first.
      have missing := createDirectory_missing grows above.reverse last up clean ⟨led,stands⟩ there
      have higher : T.Leads absolute (Path.dropSilent absolute above).reverse up :=
        (T.leads_dropSilent above up).mpr ⟨led,stands⟩
      have part : (Path.dropSilent absolute above).reverse <+: above.reverse ++ [last] :=
        (List.reverse_prefix.mpr (Path.dropSilent_suffix absolute above)).trans (List.prefix_append ..)
      have fewer : (Path.dropSilent absolute above).length < size := by
        have := Path.dropSilent_length absolute above
        rw [List.length_cons] at counted
        omega
      obtain ⟨middle,first,grows',made⟩ := ih _ fewer _ up (clean.front part) higher rfl
      obtain ⟨t',settled,rest⟩ := settle_leads grows' above.reverse last up clean
        ((middle.leads_dropSilent above up).mp made) directory
      refine ⟨t',?_,rest⟩
      rw [createAll_eq,List.reverse_cons,if_neg none,missing]
      simp only [first]
      exact settled

/-- The directory that segments lead to in the larger tree, made by its path. -/
theorem createDirectories_room (rooted : t.Rooted) (grows : Grows t T) (segments : List String)
    (clean : Path.Clean absolute segments) (named : (Path.ofSegments absolute segments).text ≠ "")
    (here : Location) (leads : T.Leads absolute segments here) :
    ∃ t', t.createDirectories (Path.ofSegments absolute segments) = (t',.ok ()) ∧ Grows t' T ∧
      t'.Leads absolute segments here := by
  have stages := (Path.segments_clean _ named).front (Path.ofSegments absolute segments).reversedSegments_front
  rw [Path.isAbsolute_ofSegments absolute segments clean] at stages
  obtain ⟨t',made,grows',led⟩ := createAll_room rooted grows _ here stages
    ((T.leads_reversedSegments segments clean named here).mpr leads)
  refine ⟨t',?_,grows',(t'.leads_reversedSegments segments clean named here).mp led⟩
  rw [createDirectories,Path.isAbsolute_ofSegments absolute segments clean]
  exact made

/-! ### Files -/

theorem isFile_split (p : Path) (file : T.isFile p = true) :
    ∃ above last up content, p.segments = above ++ [last] ∧ Path.isSilent last = false ∧
      T.Leads p.isAbsolute above up ∧ T.lookup (descend up last) = some (.file content) ∧ p.text ≠ "" := by
  obtain ⟨here,content,walked,held⟩ := (T.isFile_iff p).mp file
  have named : p.text ≠ "" := fun none => by
    rw [FileTree.walk,if_pos none] at walked
    cases walked
  rw [T.walk_segments p named] at walked
  have some : p.segments ≠ [] := fun none => by
    rw [Path.segments,List.map_eq_nil_iff] at none
    exact List.splitOn_ne_nil _ _ none
  obtain ⟨above,last,split⟩ : ∃ above last, p.segments = above ++ [last] :=
    ⟨_,_,(List.dropLast_concat_getLast some).symm⟩
  rw [split] at walked
  obtain ⟨up,led,stands,rfl⟩ := (T.foldlM_snoc above last _ here).mp walked
  refine ⟨above,last,up,content,split,?_,⟨led,stands⟩,held,named⟩
  -- A silent segment stays in a directory.
  refine Bool.eq_false_iff.mpr fun silent => ?_
  rw [descend,if_pos silent,stands] at held
  cases held

/-- A file of the larger tree can be written where everything above it is there. -/
theorem slot_room (grows : Grows t T) (p : Path) (here : Location) (content : ByteArray)
    (walked : t.walk p = .ok here) (file : T.lookup here = some (.file content)) : t.slot p = .ok here := by
  unfold FileTree.slot
  simp only [walked]
  split
  · rename_i directory
    rw [grows.directories here directory] at file
    cases file
  · rfl

theorem put_room (grows : Grows t T) (here : Location) (content after : ByteArray)
    (file : T.lookup here = some (.file after)) : Grows (t.put here (.file content)) T := by
  have inner : here ≠ [] := fun root => by
    rw [root,lookup_root] at file
    cases file
  refine ⟨grows.start,fun other held => ?_,fun other before held => ?_⟩
  · rw [lookup_put t here other _ inner] at held
    split at held
    · cases held
    · exact grows.directories other held
  · rw [lookup_put t here other _ inner] at held
    split at held
    · rename_i same
      exact ⟨after,same ▸ file⟩
    · exact grows.files other before held

end Leads
end FileTree
end ReferenceSite
