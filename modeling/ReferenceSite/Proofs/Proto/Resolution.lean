import ReferenceSite.Proofs.Proto.PoolSchema
import ReferenceSite.Proofs.Text.Parts

/-! What the name of a start means. A schema holds the last definition that was inserted under each
qualified name, whatever came before. A name means the type that has it as its qualified name or, if there
is none, the type that alone has it as its full name; where several have it, it means none of them.
Leading dots do not count. -/
namespace ReferenceSite
open ReferenceSite.Text

/-- The last of the definitions that have its qualified name. -/
def Stands (history : List TypeDef) (d : TypeDef) : Prop :=
  ∃ before after, history = before ++ d :: after ∧ ∀ e ∈ after, e.qualifiedName ≠ d.qualifiedName

/-- What a name without leading dots means among the types that are stored. -/
inductive Denotes (stored : TypeDef → Prop) (name : String) (d : TypeDef) : Prop
  | qualified : stored d → d.qualifiedName = name → Denotes stored name d
  | full : (∀ e, stored e → e.qualifiedName ≠ name) → stored d → d.fullName = name →
      (∀ e, stored e → e.fullName = name → e = d) → Denotes stored name d

def bareName (name : String) : String := .ofList (name.toList.dropWhile (· = '.'))

theorem bareName_dotted (dots : Nat) (name : String) (bare : name.toList.head? ≠ some '.') :
    bareName (.ofList (List.replicate dots '.') ++ name) = name := by
  have stops : Stops (· = '.') name.toList := by
    intro c first
    have other : c ≠ '.' := fun dot => bare (dot ▸ first)
    simpa using other
  have dropped : (List.replicate dots '.' ++ name.toList).dropWhile (· = '.') = name.toList :=
    dropWhile_past _ _ _ (fun c member => by simpa using List.eq_of_mem_replicate member) stops
  rw [bareName,String.toList_append,String.toList_ofList,dropped,String.ofList_toList]

/-! One more definition takes the place of the one that has its name, and leaves all others. -/

theorem stands_concat (history : List TypeDef) (last d : TypeDef) :
    Stands (history ++ [last]) d ↔
      d = last ∨ Stands history d ∧ d.qualifiedName ≠ last.qualifiedName := by
  constructor
  · rintro ⟨before,after,split,kept⟩
    rcases List.eq_nil_or_concat' after with rfl | ⟨middle,e,rfl⟩
    · exact .inl (List.append_singleton_inj.mp split).2.symm
    · rw [← List.cons_append,← List.append_assoc] at split
      obtain ⟨earlier,rfl⟩ := List.append_singleton_inj.mp split
      have other := kept last (by simp)
      exact .inr ⟨⟨before,middle,earlier,fun e member => kept e (by simp [member])⟩,other.symm⟩
  · rintro (rfl | ⟨⟨before,after,rfl,kept⟩,other⟩)
    · exact ⟨history,[],rfl,by simp⟩
    · refine ⟨before,after ++ [last],by simp,fun e member => ?_⟩
      rcases List.mem_append.mp member with early | late
      · exact kept e early
      · rw [List.mem_singleton.mp late]
        exact other.symm

namespace Schema

theorem mem_insert_iff (s : Schema) (e d : TypeDef) :
    d ∈ (s.insert e).types ↔ d = e ∨ d ∈ s.types ∧ d.qualifiedName ≠ e.qualifiedName := by
  simp [insert]

theorem mem_ofList_iff_stands (history : List TypeDef) (d : TypeDef) :
    d ∈ (ofList history).types ↔ Stands history d := by
  induction history using List.reverseRecOn with
  | nil => simp [ofList,empty,Stands]
  | append_singleton history last ih =>
    have step : ofList (history ++ [last]) = (ofList history).insert last := by
      rw [ofList,ofList,List.foldl_append,List.foldl_cons,List.foldl_nil]
    rw [step,mem_insert_iff,stands_concat,ih]

instance (history : List TypeDef) (d : TypeDef) : Decidable (Stands history d) :=
  decidable_of_iff _ (mem_ofList_iff_stands history d)

/-! The two look-ups of one schema. -/

section
variable (s : Schema) (name : String)

theorem denotes_unique (d e : TypeDef) (first : Denotes (· ∈ s.types) name d)
    (second : Denotes (· ∈ s.types) name e) : d = e := by
  cases first with
  | qualified stored named =>
    cases second with
    | qualified stored' named' =>
      exact List.inj_on_of_nodup_map s.distinct stored stored' (named.trans named'.symm)
    | full none => exact absurd named (none d stored)
  | full none stored named alone =>
    cases second with
    | qualified stored' named' => exact absurd named' (none e stored')
    | full _ stored' named' _ => exact (alone e stored' named').symm

theorem filter_fullName_eq_singleton (d : TypeDef) :
    s.types.filter (·.fullName = name) = [d] ↔
      d ∈ s.types ∧ d.fullName = name ∧ ∀ e ∈ s.types, e.fullName = name → e = d := by
  have single : (s.types.filter (·.fullName = name)).Nodup := (s.distinct.of_map _).filter _
  constructor
  · intro only
    have member (e : TypeDef) : e ∈ s.types ∧ e.fullName = name ↔ e = d := by
      rw [← List.mem_singleton (a := e),← only,List.mem_filter,decide_eq_true_eq]
    obtain ⟨stored,named⟩ := (member d).mpr rfl
    exact ⟨stored,named,fun e stored' named' => (member e).mp ⟨stored',named'⟩⟩
  · rintro ⟨stored,named,alone⟩
    apply List.perm_singleton.mp
    apply (List.perm_ext_iff_of_nodup single (List.nodup_singleton d)).mpr
    intro e
    rw [List.mem_filter,List.mem_singleton,decide_eq_true_eq]
    constructor
    · rintro ⟨stored',named'⟩
      exact alone e stored' named'
    · rintro rfl
      exact ⟨stored,named⟩

theorem resolve_outcome :
    (∃ d, s.resolve name = .ok d ∧ Denotes (· ∈ s.types) (bareName name) d) ∨
      s.resolve name = .error (.unknownType (bareName name)) ∧
        ∀ d, ¬ Denotes (· ∈ s.types) (bareName name) d := by
  have bare : String.ofList (name.toList.dropWhile (· = '.')) = bareName name := rfl
  unfold resolve
  simp only [bare]
  cases found : s.get? (bareName name) with
  | some d =>
    obtain ⟨stored,named⟩ := (get?_eq_some_iff s _ d).mp found
    exact .inl ⟨d,rfl,.qualified stored named⟩
  | none =>
    have free : ∀ e ∈ s.types, e.qualifiedName ≠ bareName name := by
      intro e stored named
      rw [(get?_eq_some_iff s _ e).mpr ⟨stored,named⟩] at found
      cases found
    have alone := filter_fullName_eq_singleton s (bareName name)
    dsimp only
    split
    · rename_i d only
      obtain ⟨stored,named,others⟩ := (alone d).mp only
      exact .inl ⟨d,rfl,.full free stored named others⟩
    · rename_i several
      refine .inr ⟨rfl,fun d means => ?_⟩
      cases means with
      | qualified stored named => exact free d stored named
      | full _ stored named others => exact several d ((alone d).mpr ⟨stored,named,others⟩)

theorem resolve_ok_iff (d : TypeDef) :
    s.resolve name = .ok d ↔ Denotes (· ∈ s.types) (bareName name) d := by
  rcases resolve_outcome s name with ⟨e,found,means⟩ | ⟨refused,nothing⟩
  · rw [found,Except.ok.injEq]
    constructor
    · rintro rfl
      exact means
    · exact denotes_unique s _ e d means
  · rw [refused]
    exact ⟨nofun,fun means => absurd means (nothing d)⟩

theorem resolve_error_iff (fault : SchemaFault) :
    s.resolve name = .error fault ↔
      (∀ d, ¬ Denotes (· ∈ s.types) (bareName name) d) ∧ fault = .unknownType (bareName name) := by
  rcases resolve_outcome s name with ⟨e,found,means⟩ | ⟨refused,nothing⟩
  · rw [found]
    exact ⟨nofun,fun ⟨nothing,_⟩ => absurd means (nothing e)⟩
  · rw [refused,Except.error.injEq]
    exact ⟨fun same => ⟨nothing,same.symm⟩,fun ⟨_,same⟩ => same.symm⟩

end

/-- After any insertions a name is resolved to what it means among the definitions that stand, and
refused if it means none of them. A qualified name that does not begin with a dot always means its own
type, with dots before it or without; a full name that several types share means none of them. -/
theorem resolve_ofList (history : List TypeDef) (name : String) :
    (∀ d, (ofList history).resolve name = .ok d ↔ Denotes (Stands history) (bareName name) d) ∧
    (∀ fault, (ofList history).resolve name = .error fault ↔
      (∀ d, ¬ Denotes (Stands history) (bareName name) d) ∧ fault = .unknownType (bareName name)) ∧
    (∀ d dots, Stands history d → d.qualifiedName.toList.head? ≠ some '.' →
      name = .ofList (List.replicate dots '.') ++ d.qualifiedName →
      (ofList history).resolve name = .ok d) ∧
    ∀ d e, Stands history d → Stands history e → d ≠ e → d.fullName = bareName name →
      e.fullName = bareName name → (∀ f, Stands history f → f.qualifiedName ≠ bareName name) →
      (ofList history).resolve name = .error (.unknownType (bareName name)) := by
  have stored : (· ∈ (ofList history).types) = Stands history := by
    funext d
    exact propext (mem_ofList_iff_stands history d)
  have meant := resolve_ok_iff (ofList history) name
  have refused := resolve_error_iff (ofList history) name
  rw [stored] at meant refused
  refine ⟨meant,refused,?_,?_⟩
  · rintro d dots stands bare rfl
    rw [meant,bareName_dotted dots _ bare]
    exact .qualified stands rfl
  · intro d e first second different named named' free
    refine (refused _).mpr ⟨fun f means => ?_,rfl⟩
    cases means with
    | qualified stands same => exact free f stands same
    | full _ _ _ alone =>
      exact different ((alone d first named).trans (alone e second named').symm)

/-! A full name that two types share until one of them is defined anew. -/

def config (package path : String) : TypeDef :=
  ⟨"Config",package ++ ".Config",path,"",package ++ ".proto",.message []⟩

def toplevel : TypeDef := ⟨"Other","Other","Other","","c.proto",.message []⟩

theorem config_resolved :
    (ofList [config "a" "Config",config "b" "Config"]).resolve "Config" = .error (.unknownType "Config") ∧
    (ofList [config "a" "Config",config "b" "Config",config "b" "Other"]).resolve "Config" =
      .ok (config "a" "Config") ∧
    (ofList [config "a" "Config",config "b" "Other",toplevel]).resolve "..Other" = .ok toplevel := by
  obtain ⟨_,_,_,shared⟩ := resolve_ofList [config "a" "Config",config "b" "Config"] "Config"
  obtain ⟨alone,_⟩ := resolve_ofList [config "a" "Config",config "b" "Config",config "b" "Other"] "Config"
  obtain ⟨_,_,own,_⟩ := resolve_ofList [config "a" "Config",config "b" "Other",toplevel] "..Other"
  have everywhere {history : List TypeDef} (P : TypeDef → Prop) (holds : ∀ f ∈ (ofList history).types, P f) :
      ∀ f, Stands history f → P f := fun f stands => holds f ((mem_ofList_iff_stands history f).mpr stands)
  refine ⟨?_,?_,?_⟩
  · exact shared (config "a" "Config") (config "b" "Config") (by decide) (by decide) (by decide) (by decide)
      (by decide) (everywhere _ (by decide))
  · exact (alone _).mpr (.full (everywhere _ (by decide)) (by decide) (by decide) (everywhere _ (by decide)))
  · exact own toplevel 2 (by decide) (by decide) (by decide)

end Schema
end ReferenceSite
