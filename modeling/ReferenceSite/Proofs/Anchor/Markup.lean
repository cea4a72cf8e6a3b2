import ReferenceSite.Proofs.Anchor.Marker
import ReferenceSite.Proofs.Html.Element

/-! The markup of an anchor as a browser reads it. The name of a marker goes into the markup as it is: angle
brackets and most ampersands do no harm there, but a quote ends the value, and an ampersand that begins a
reference stands for something else. -/
namespace ReferenceSite

/-- A link target of that name which points to itself. -/
def Html.Element.Anchors (e : Html.Element) (id : String) : Prop :=
  e.name = "a" ∧ e.get? "name" = some id ∧ e.get? "href" = some ("#" ++ id)

instance (e : Html.Element) (id : String) : Decidable (e.Anchors id) := inferInstanceAs (Decidable (_ ∧ _))

namespace Anchor
open ReferenceSite.Html

/-- The markup behind the quote that follows the name. -/
def behindName (id : List Char) : List Char :=
  ' ' :: 'c' :: ("lass".toList ++ '=' :: '"' :: ("anchor".toList ++ '"' :: ' ' :: 'h' ::
    ("ref".toList ++ '=' :: '"' :: ('#' :: id ++ '"' :: "></a>".toList))))

theorem html_toList (id : String) : (html id).toList =
    '<' :: 'a' :: ' ' :: 'n' :: ("ame".toList ++ '=' :: '"' :: (id.toList ++ '"' :: behindName id.toList)) := by
  simp [html,behindName]

theorem html_fed (id : String) (fed : '\r' ∉ id.toList) : unifyLineEnds (html id).toList = (html id).toList := by
  apply unifyLineEnds_eq
  rw [html_toList]
  simp [behindName,fed]

theorem first_quote (s behind : List Char) :
    ∃ rest, s ++ '"' :: behind = s.takeWhile (· ≠ '"') ++ '"' :: rest := by
  induction s with
  | nil => exact ⟨behind,rfl⟩
  | cons c s ih =>
    by_cases quote : c = '"'
    · exact ⟨s ++ '"' :: behind,by simp [quote]⟩
    · obtain ⟨rest,split⟩ := ih
      exact ⟨rest,by simp [quote,split]⟩

theorem tag?_spaced (s : List Char) :
    tag? ('a' :: ' ' :: s) = (attributes? s).map fun (attributes,rest) => (⟨"a",attributes⟩,rest) := by
  change (attributes? (' ' :: s)).map _ = _
  rw [attributes?_space]
  rfl

theorem attributes?_name (raw rest : List Char) (unquoted : '"' ∉ raw) :
    attributes? ('n' :: ("ame".toList ++ '=' :: '"' :: (raw ++ '"' :: rest))) =
      (attributes? rest).map fun (more,after) => (("name",.ofList (decode raw)) :: more,after) :=
  attributes?_quoted 'n' "ame".toList raw rest rfl rfl unquoted

theorem attributes?_behindName (id : List Char) (unquoted : '"' ∉ id) :
    attributes? (behindName id) =
      some ([("class","anchor"),("href",.ofList (decode ('#' :: id)))],"</a>".toList) := by
  have marked : '"' ∉ '#' :: id := by simp [unquoted]
  have link := attributes?_quoted 'h' "ref".toList ('#' :: id) ('>' :: "</a>".toList) rfl rfl marked
  rw [attributes?_end] at link
  have shown := attributes?_quoted 'c' "lass".toList "anchor".toList
    (' ' :: 'h' :: ("ref".toList ++ '=' :: '"' :: ('#' :: id ++ '"' :: "></a>".toList))) rfl rfl (by decide)
  rw [attributes?_space] at shown
  rw [behindName,attributes?_space]
  exact shown.trans (congrArg _ link)

/-- Whatever the markup is read as, its name is the one up to the first quote, with references replaced. -/
theorem name_read (id : String) (fed : '\r' ∉ id.toList) (e : Html.Element)
    (read : emptyElement? (html id) = some e) :
    e.get? "name" = some (.ofList (decode (id.toList.takeWhile (· ≠ '"')))) := by
  have unquoted : '"' ∉ id.toList.takeWhile (· ≠ '"') := fun member => by
    simpa using List.mem_takeWhile_imp member
  obtain ⟨rest,split⟩ := first_quote id.toList (behindName id.toList)
  obtain ⟨behind,tag⟩ := emptyElement?_begins _ _ ((html_fed id fed).trans (html_toList id)) e read
  rw [split,tag?_spaced,attributes?_name _ rest unquoted,Option.map_map] at tag
  obtain ⟨⟨more,after⟩,_,same⟩ := Option.map_eq_some_iff.mp tag
  cases same
  rfl

/-- A name without quotes is read whole. -/
theorem html_read (id : String) (fed : '\r' ∉ id.toList) (unquoted : '"' ∉ id.toList) :
    emptyElement? (html id) = some ⟨"a",[("name",.ofList (decode id.toList)),("class","anchor"),
      ("href",.ofList (decode ('#' :: id.toList)))]⟩ := by
  refine emptyElement?_closed _ _ "a>".toList _ ⟨"a",[]⟩ ((html_fed id fed).trans (html_toList id)) ?_ ?_ rfl
  · rw [tag?_spaced,attributes?_name _ _ unquoted,attributes?_behindName _ unquoted]
    rfl
  · change (attributes? ['>']).map _ = _
    rw [attributes?_end]
    rfl

/-- A marker's anchor is read as one empty element that is named by the marker and points to itself, exactly
if no quote, no null and no reference stands in the name; all other signs, angle brackets among them, may.
Whatever else it is read as is named by what stands before the first quote, with references replaced. -/
theorem html_anchors_iff (text id rest : String) (taken : takeExplicit? text = some (id,rest)) :
    ((∃ e, emptyElement? (html id) = some e ∧ e.Anchors id) ↔ IsVerbatim id.toList) ∧
    ∀ e, emptyElement? (html id) = some e →
      e.get? "name" = some (.ofList (decode (id.toList.takeWhile (· ≠ '"')))) := by
  obtain ⟨m,_,rfl,_⟩ := (takeExplicit?_eq_some_iff text id rest).mp taken
  have fed : '\r' ∉ (String.ofList m.name).toList := by
    rw [String.toList_ofList]
    exact fun member => absurd (m.marks.2.2 '\r' member).2 (by decide)
  refine ⟨⟨?_,fun verbatim => ?_⟩,name_read _ fed⟩
  · rintro ⟨e,read,_,named,_⟩
    have same := Option.some.inj ((name_read _ fed e read).symm.trans named)
    exact (decode_upToQuote_iff _).mp ((Text.ofList_eq_iff _ _).mp same)
  · have plain := (decode_eq_self_iff _ verbatim.unquoted).mpr verbatim
    have marked : decode ('#' :: (String.ofList m.name).toList) = '#' :: (String.ofList m.name).toList :=
      congrArg ('#' :: ·) plain
    refine ⟨_,html_read _ fed verbatim.unquoted,rfl,?_,?_⟩
    · rw [plain]
      exact congrArg some String.ofList_toList
    · rw [marked]
      exact congrArg some (String.toList_inj.mp (by simp))

/-- Angle brackets and a lone ampersand are read as they are written. -/
theorem brackets_anchored : takeExplicit? "\x7b#a<b>&c\x7d T" = some ("a<b>&c","T") ∧
    IsVerbatim "a<b>&c".toList ∧
    ∃ e, emptyElement? (html "a<b>&c") = some e ∧ e.Anchors "a<b>&c" := by
  have taken : takeExplicit? "\x7b#a<b>&c\x7d T" = some ("a<b>&c","T") := by decide
  have verbatim : IsVerbatim "a<b>&c".toList := by
    have plain : reference? ['c'] = none := by decide
    change IsVerbatim ['a','<','b','>','&','c']
    simp [isVerbatim_cons,isVerbatim_nil,plain]
  exact ⟨taken,verbatim,(html_anchors_iff _ _ _ taken).1.mpr verbatim⟩

/-- A quote ends the name, and what stands behind it is an attribute of its own. -/
theorem quote_unread : takeExplicit? "\x7b#a\"b\x7d T" = some ("a\"b","T") ∧
    emptyElement? (html "a\"b") = some ⟨"a",[("name","a"),("b\"",""),("class","anchor"),("href","#a"),("b\"","")]⟩ ∧
    ¬ ∃ e, emptyElement? (html "a\"b") = some e ∧ e.Anchors "a\"b" := by
  have read : emptyElement? (html "a\"b") =
      some ⟨"a",[("name","a"),("b\"",""),("class","anchor"),("href","#a"),("b\"","")]⟩ := by with_unfolding_all rfl
  refine ⟨by decide,read,?_⟩
  rintro ⟨e,again,anchors⟩
  obtain rfl := Option.some.inj (read.symm.trans again)
  revert anchors
  decide

end Anchor
end ReferenceSite
