import ReferenceSite.Proofs.Reference.Document

/-! What the texts of a reference are read as: titles, the lines that name the defining files, and the
cells of the tables. -/
namespace ReferenceSite
open ReferenceSite.Text ReferenceSite.Markdown

namespace Reference

theorem title_plain (name : String) (named : IsName name) : ∀ c ∈ (title name).toList, isPlain c = true := by
  have signs : ∀ c ∈ name.toList, isPlain c = true := fun c member =>
    (nameSign_signs c (fileSigns_of_isName name named c member)).1
  intro c member
  simp only [title_toList,List.mem_cons,List.mem_append] at member
  rcases member with rfl | rfl | inside | rfl | rfl | inside
  all_goals first | decide | exact signs c inside

/-- Whatever a title turns into, no link in it leads into the project. -/
theorem title_isTame (name : String) (named : IsName name) :
    ∀ n ∈ inlines [] (title name).toList, n.IsTame :=
  inlines_isTame [] _ (title_plain name named)

theorem isAddress_fileSigns (s : List Char) (signs : ∀ c ∈ s, isFileSign c = true) : IsAddress s :=
  fun c member => ⟨(nameSign_signs c (signs c member)).1,(nameSign_signs c (signs c member)).2.1⟩

theorem sourceLine_inlines (file : String) (signs : ∀ c ∈ file.toList, isFileSign c = true) :
    ∃ children, inlines [] (sourceLine file ++ ['\n']) =
        [.text sourceWords.toList,.node (.link (.ofList (fileAddress file)) "") children] ∧
      ∀ n ∈ children, n.IsTame := by
  have label : ∀ c ∈ fileLabel file, isPlain c = true := fun c member =>
    (nameSign_signs c (fileLabel_signs file signs c member)).1
  have words : (∀ c ∈ sourceWords.toList, isSpecial c = false) ∧ '@' ∉ sourceWords.toList ∧
      sourceWords.toList ≠ [] :=
    ⟨List.all_iff_forall_prop.mp (by decide),by decide,by decide⟩
  have read := inlines_wordsLink [] sourceWords.toList (fileLabel file) (fileAddress file) ['\n'] words.2.2
    words.1 words.2.1 label (isAddress_fileSigns _ (fileAddress_signs file signs))
    (List.forall_mem_singleton.mpr (by decide))
  simpa [sourceLine] using read

theorem code_inlines (s : String) (within : IsCode s) :
    inlines [] (code s).toList = [.leaf (.code (.ofList (codeText s.toList)))] := by
  rw [code_toList]
  refine inlines_code [] s.toList (fun empty => within.filled (String.toList_eq_nil_iff.mp empty)) ?_
  exact fun member => within.signs _ member (by decide)

def anchorAddress (name : String) : String := "#" ++ name

theorem linkCell_inlines (type name : String) (within : IsCode type) (named : IsName name) :
    inlines [] (linkCell type name) =
      [.node (.link (anchorAddress name) "") [.leaf (.code (.ofList (codeText type.toList)))]] := by
  have address : IsAddress ('#' :: name.toList) := List.forall_mem_cons.mpr
    ⟨by decide,isAddress_fileSigns _ (fileSigns_of_isName name named)⟩
  have read := inlines_codeLink [] type.toList ('#' :: name.toList)
    (fun empty => within.filled (String.toList_eq_nil_iff.mp empty))
    (fun member => within.signs _ member (by decide)) address
  have same : String.ofList ('#' :: name.toList) = anchorAddress name := by
    apply String.toList_inj.mp
    simp [anchorAddress]
  rw [same] at read
  simpa [linkCell] using read

private theorem heads_inlines : ∀ s ∈ ["Enum values:","Name","Value","Description","Fields:","Field","Type"],
    inlines [] s.toList = [.text s.toList] := by
  simp only [List.forall_mem_cons]
  refine ⟨?_,?_,?_,?_,?_,?_,?_,by simp⟩ <;> with_unfolding_all rfl

/-- The words above a table and at the heads of its columns. -/
theorem opening_inlines (body : TypeBody) :
    ∀ s ∈ bodyTitle body :: bodyHeads body, inlines [] s.toList = [.text s.toList] := by
  intro s member
  refine heads_inlines s ?_
  cases body with
  | enumeration values =>
    have among : s ∈ ["Enum values:","Name","Value","Description"] := member
    exact List.mem_append_left ["Fields:","Field","Type"] among
  | message fields =>
    have among : s ∈ ["Fields:","Field","Type","Description"] := member
    have listed : ["Fields:","Field","Type","Description"] ⊆
        ["Enum values:","Name","Value","Description","Fields:","Field","Type"] := by decide
    exact listed among

end Reference
end ReferenceSite
