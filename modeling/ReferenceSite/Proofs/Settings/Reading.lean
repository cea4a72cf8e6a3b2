import ReferenceSite.Proofs.Outcome
import ReferenceSite.Proofs.Settings.Entries
import ReferenceSite.Proofs.Text.LowerCase

/-! The settings of a project one by one, and what a configuration has for each of them. A setting is
read from its group, by its name if the group is a table and by its place if it is a list. -/
namespace ReferenceSite
open ReferenceSite.Settings

/-- The settings of a project, one by one. -/
inductive Setting where
  | root
  | docsPrefix
  | sourceBaseUrl
  | firstLevel
  | lastLevel
  | codeClass
  | invocationMacro
  | handleTypes
deriving DecidableEq

def Settings.Value.ofText (s : String) : Value := .scalar (.text s) none

def Settings.Value.ofLevel (n : Int) : Value := .scalar (.integer n) none

def Settings.Value.ofTexts (texts : List String) : Value := .list (texts.map .ofText) none

namespace Setting

inductive Kind where
  | text
  | level
  | texts

def Kind.read : Kind → String → Value → Except Settings.Fault Value
  | .text,key,v => .ofText <$> v.wording key
  | .level,key,v => (fun n : Nat => .ofLevel n) <$> v.level key
  | .texts,key,v => .ofTexts <$> v.wordings key

/-- Values that need no conversion. -/
def Kind.Fits : Kind → Value → Prop
  | .text,v => ∃ s, v = .ofText s
  | .level,v => ∃ n, v = .ofLevel n
  | .texts,v => ∃ texts, v = .ofTexts texts

def kind : Setting → Kind
  | .firstLevel | .lastLevel => .level
  | .handleTypes => .texts
  | _ => .text

def group : Setting → Group
  | .root => Settings.project
  | .docsPrefix | .sourceBaseUrl => Settings.linking
  | .firstLevel | .lastLevel => Settings.headings
  | .codeClass => Settings.highlight
  | .invocationMacro | .handleTypes => Settings.tables

/-- The place in a group that is written as a list. -/
def place : Setting → Nat
  | .sourceBaseUrl | .lastLevel | .handleTypes => 1
  | _ => 0

def name : Setting → String
  | .root => "root"
  | .docsPrefix => "docs_prefix"
  | .sourceBaseUrl => "source_base_url"
  | .firstLevel => "anchor_min_level"
  | .lastLevel => "anchor_max_level"
  | .codeClass => "css_class"
  | .invocationMacro => "invocation_macro"
  | .handleTypes => "handle_types"

def key (c : Setting) : String := c.group.name ++ "." ++ c.name

def held (c : Setting) (s : Settings) : Value :=
  match c with
  | .root => .ofText s.root.text
  | .docsPrefix => .ofText s.links.docsPrefix
  | .sourceBaseUrl => .ofText s.links.sourceBaseUrl
  | .firstLevel => .ofLevel s.levels.1
  | .lastLevel => .ofLevel s.levels.2
  | .codeClass => .ofText s.codeClass
  | .invocationMacro => .ofText s.dialect.invocationMacro
  | .handleTypes => .ofTexts s.dialect.handleTypes

end Setting

/-! Reading a setting. -/

theorem Settings.Value.lowerName_small {name : String} (small : name.toList.all Text.isSmall = true) :
    lowerName name = name := by
  rw [lowerName,Text.toLower_small small,String.ofList_toList]

/-- What a group has at a place or under a name. -/
def Settings.Value.member? (v : Value) (place : Nat) (name : String) : Option Value :=
  match v with
  | .table entries origin => (Value.table entries origin).get? name
  | .list items _ => items[place]?
  | .scalar .. => none

namespace Setting

theorem lowerName_name (c : Setting) : Value.lowerName c.name = c.name :=
  Value.lowerName_small (by cases c <;> decide +kernel)

theorem lowerName_group (c : Setting) : Value.lowerName c.group.name = c.group.name :=
  Value.lowerName_small (by cases c <;> decide +kernel)

def groupIn (c : Setting) (whole : Value) : Value := (whole.get? c.group.name).getD .null

theorem setting?_some {α : Type} (g : Group) (whole : Value) (place : Nat) (name : String)
    (read : String → Value → Except Settings.Fault α) (x : α)
    (found : g.setting? whole place name read = .ok (some x)) :
    ∃ entry key, ((whole.get? g.name).getD .null).member? place name = some entry ∧
      read key entry = .ok x := by
  unfold Group.setting? at found
  generalize (whole.get? g.name).getD .null = v at found ⊢
  cases v with
  | scalar s origin => cases found
  | table entries origin | list items origin =>
    dsimp only at found
    split at found
    · rename_i entry member
      obtain ⟨y,own,same⟩ := (map_ok_iff ..).mp found
      exact ⟨entry,_,member,own.trans (congrArg _ (Option.some.inj same))⟩
    · cases found

theorem required_ok_iff {α : Type} (name : String) (found : Option α) (x : α) :
    Group.required name found = .ok x ↔ found = some x := by
  cases found with
  | none => exact ⟨nofun,nofun⟩
  | some y => exact ⟨fun same => congrArg some (Except.ok.inj same),fun same => congrArg _ (Option.some.inj same)⟩

theorem ofValue_reads (v : Value) (s : Settings) (loaded : Settings.ofValue v = .ok s) (c : Setting) :
    ∃ entry key, (c.groupIn v).member? c.place c.name = some entry ∧
      c.kind.read key entry = .ok (c.held s) := by
  unfold Settings.ofValue at loaded
  simp only [bind_ok_iff,required_ok_iff] at loaded
  obtain ⟨_,root,_,rfl,_,prefixed,_,base,_,rfl,_,rfl,_,first,_,last,_,rfl,_,rfl,_,code,_,rfl,
    _,invocation,_,handles,_,rfl,_,rfl,whole⟩ := loaded
  cases whole
  have read {α : Type} (g : Group) (place : Nat) (name : String) (shown : α → Value)
      (read : String → Value → Except Settings.Fault α) (x : α)
      (found : g.setting? v place name read = .ok (some x)) :
      ∃ entry key, ((v.get? g.name).getD .null).member? place name = some entry ∧
        shown <$> read key entry = .ok (shown x) := by
    obtain ⟨entry,key,member,own⟩ := setting?_some g v place name read x found
    exact ⟨entry,key,member,(map_ok_iff ..).mpr ⟨x,own,rfl⟩⟩
  cases c with
  | root => exact read _ _ _ .ofText _ _ root
  | docsPrefix => exact read _ _ _ .ofText _ _ prefixed
  | sourceBaseUrl => exact read _ _ _ .ofText _ _ base
  | firstLevel => exact read _ _ _ (fun n : Nat => .ofLevel n) _ _ first
  | lastLevel => exact read _ _ _ (fun n : Nat => .ofLevel n) _ _ last
  | codeClass => exact read _ _ _ .ofText _ _ code
  | invocationMacro => exact read _ _ _ .ofText _ _ invocation
  | handleTypes => exact read _ _ _ .ofTexts _ _ handles

theorem Kind.read_table (kind : Kind) (key : String) (v x : Value) (table : v.isTable = true) :
    kind.read key v ≠ .ok x := by
  cases v with
  | table entries origin => cases kind <;> exact nofun
  | _ => cases table

theorem Kind.Fits.plain {kind : Kind} {v : Value} (fits : kind.Fits v) : v.isTable = false := by
  cases kind <;> (obtain ⟨x,rfl⟩ := fits; rfl)

theorem held_fits (c : Setting) (s : Settings) : c.kind.Fits (c.held s) := by
  cases c <;> exact ⟨_,rfl⟩

theorem mapM_wording (key : Nat → String) (texts : List String) (i : Nat) :
    ((texts.map Value.ofText).zipIdx i).mapM (fun (item,i) => item.wording (key i)) = .ok texts := by
  induction texts generalizing i with
  | nil => rfl
  | cons s texts ih =>
    rw [List.map_cons,List.zipIdx_cons,List.mapM_cons,ih]
    rfl

theorem level_integer (n : Int) (origin : Option String) (key : String) (found : Nat)
    (read : (Value.scalar (.integer n) origin).level key = .ok found) : n = found ∧ found < 256 := by
  dsimp only [Value.level] at read
  split at read
  · cases read
  · unfold Value.boundedLevel at read
    split at read
    · have same := Except.ok.inj read
      omega
    · cases read

theorem Kind.Fits.read {kind : Kind} {v : Value} (fits : kind.Fits v) (key : String) (x : Value)
    (read : kind.read key v = .ok x) : x = v := by
  cases kind with
  | text =>
    obtain ⟨s,rfl⟩ := fits
    exact (Except.ok.inj read).symm
  | texts =>
    obtain ⟨texts,rfl⟩ := fits
    obtain ⟨found,own,rfl⟩ := (map_ok_iff ..).mp read
    have same := (mapM_wording (Value.itemKey key) texts 0).symm.trans own
    rw [Except.ok.inj same]
  | level =>
    obtain ⟨n,rfl⟩ := fits
    obtain ⟨found,own,rfl⟩ := (map_ok_iff ..).mp read
    rw [(level_integer n none key found own).1]

theorem level_key (key other : String) (v : Value) (n : Nat) (read : v.level key = .ok n) :
    v.level other = .ok n := by
  have bounded (m : Nat) (inside : Value.boundedLevel key m = .ok n) : Value.boundedLevel other m = .ok n := by
    unfold Value.boundedLevel at inside ⊢
    split at inside
    · rename_i small
      rwa [if_pos small]
    · cases inside
  cases v with
  | scalar s origin =>
    cases s with
    | integer i =>
      dsimp only [Value.level] at read ⊢
      split at read
      · cases read
      · rename_i natural
        rw [if_neg natural]
        exact bounded _ read
    | float x => exact bounded _ read
    | boolean b => exact read
    | text s =>
      dsimp only [Value.level] at read ⊢
      split at read
      · exact read
      · exact bounded _ read
      · cases read
    | null => cases read
  | _ => cases read

theorem wording_key (key other : String) (v : Value) (s : String) (read : v.wording key = .ok s) :
    v.wording other = .ok s := by
  cases v with
  | scalar x origin =>
    cases x with
    | null => cases read
    | _ => exact read
  | _ => cases read

/-- A key is only for reports. -/
theorem Kind.read_key (kind : Kind) (key other : String) (v x : Value) (read : kind.read key v = .ok x) :
    kind.read other v = .ok x := by
  cases kind with
  | text =>
    obtain ⟨s,own,rfl⟩ := (map_ok_iff ..).mp read
    exact (map_ok_iff ..).mpr ⟨s,wording_key key other v s own,rfl⟩
  | level =>
    obtain ⟨n,own,rfl⟩ := (map_ok_iff ..).mp read
    exact (map_ok_iff ..).mpr ⟨n,level_key key other v n own,rfl⟩
  | texts =>
    obtain ⟨texts,own,rfl⟩ := (map_ok_iff ..).mp read
    refine (map_ok_iff ..).mpr ⟨texts,?_,rfl⟩
    cases v with
    | list items origin =>
      refine mapM_ok_congr _ _ (fun (item,i) s => ?_) _ texts own
      exact wording_key _ _ item s
    | _ => cases own

theorem member?_table {g : Value} (table : g.isTable = true) (place : Nat) (name : String) :
    g.member? place name = g.get? name := by
  cases g with
  | table entries origin => rfl
  | _ => cases table

theorem get?_member {g entry : Value} {name : String} (found : g.get? name = some entry) (place : Nat) :
    g.member? place name = some entry := by
  cases g with
  | table entries origin => exact found
  | _ => cases found

theorem key_injective (c other : Setting) (same : c.key = other.key) : c = other := by
  cases c <;> cases other <;> first | rfl | exact absurd same (by decide)

theorem read?_key (c : Setting) : Key.read? c.key = some [.name c.group.name,.name c.name] := by
  cases c <;> decide +kernel

/-- A configuration with a value for each setting, and nothing else. -/
def written (v : Setting → Value) : Value :=
  let group (entries : List (String × Value)) : Value := .table entries none
  group [
    ("project",group [("root",v .root)]),
    ("links",group [("docs_prefix",v .docsPrefix),("source_base_url",v .sourceBaseUrl)]),
    ("headings",group [("anchor_min_level",v .firstLevel),("anchor_max_level",v .lastLevel)]),
    ("highlight",group [("css_class",v .codeClass)]),
    ("tables",group [("invocation_macro",v .invocationMacro),("handle_types",v .handleTypes)])]

theorem written_standard : Settings.standard.toValue = written fun c => c.held .standard := rfl

theorem written_group (v : Setting → Value) (c : Setting) :
    ∃ entries, (written v).get? c.group.name = some (.table entries none) ∧
      (Value.table entries none).get? c.name = some (v c) := by
  unfold written Value.get?
  dsimp only
  rw [lowerName_group,lowerName_name]
  cases c <;> exact ⟨_,rfl,rfl⟩

theorem setting?_written {α : Type} (v : Setting → Value) (c : Setting)
    (read : String → Value → Except Settings.Fault α) (x : α) (own : ∀ key, read key (v c) = .ok x) :
    c.group.setting? (written v) c.place c.name read = .ok (some x) := by
  obtain ⟨entries,whole,entry⟩ := written_group v c
  unfold Group.setting?
  rw [whole]
  dsimp only [Option.getD_some]
  rw [entry]
  dsimp only
  rw [own]
  rfl

theorem ofValue_written (v : Setting → Value) (s : Settings)
    (own : ∀ (c : Setting) key, c.kind.read key (v c) = .ok (c.held s)) : ofValue (written v) = .ok s := by
  have text (c : Setting) (x : String) (own : ∀ key, Value.ofText <$> (v c).wording key = .ok (.ofText x)) :=
    setting?_written v c (fun key v => v.wording key) x fun key => by
      obtain ⟨_,read,same⟩ := (map_ok_iff ..).mp (own key)
      cases same
      exact read
  have level (c : Setting) (n : Nat)
      (own : ∀ key, (fun n : Nat => Value.ofLevel n) <$> (v c).level key = .ok (.ofLevel n)) :=
    setting?_written v c (fun key v => v.level key) n fun key => by
      obtain ⟨_,read,same⟩ := (map_ok_iff ..).mp (own key)
      cases same
      exact read
  have texts (xs : List String)
      (own : ∀ key, Value.ofTexts <$> (v .handleTypes).wordings key = .ok (.ofTexts xs)) :=
    setting?_written v .handleTypes (fun key v => v.wordings key) xs fun key => by
      obtain ⟨found,read,same⟩ := (map_ok_iff ..).mp (own key)
      unfold Value.ofTexts at same
      injection same with same
      rw [← (List.map_inj_right fun _ _ same => by cases same; rfl).mp same]
      exact read
  unfold ofValue
  simp only [bind_ok_iff,required_ok_iff]
  exact ⟨_,text .root _ (own .root),_,rfl,_,text .docsPrefix _ (own .docsPrefix),_,
    text .sourceBaseUrl _ (own .sourceBaseUrl),_,rfl,_,rfl,_,level .firstLevel _ (own .firstLevel),_,
    level .lastLevel _ (own .lastLevel),_,rfl,_,rfl,_,text .codeClass _ (own .codeClass),_,rfl,_,
    text .invocationMacro _ (own .invocationMacro),_,texts _ (own .handleTypes),_,rfl,_,rfl,rfl⟩

theorem written_put (v : Setting → Value) (c : Setting) (w outer : Value) :
    (written v).put c.group.name ((((written v).get? c.group.name).getD outer).put c.name w) =
      written fun other => if other = c then w else v other := by
  unfold written Value.get? Value.put
  dsimp only
  rw [lowerName_group,lowerName_name]
  cases c <;> rfl

theorem written_override (v : Setting → Value) (c : Setting) (w : Value) (plain : w.isTable = false) :
    w.place [.name c.group.name,.name c.name] (written v) =
      written fun other => if other = c then w else v other := by
  rw [Value.place_pair _ _ _ _ plain]
  exact written_put v c w _

theorem standard_member (c : Setting) :
    (c.groupIn Settings.standard.toValue).member? c.place c.name = some (c.held .standard) := by
  obtain ⟨entries,whole,entry⟩ := written_group (fun c => c.held .standard) c
  rw [groupIn,written_standard,whole]
  exact get?_member entry c.place

end Setting
end ReferenceSite
