import Mathlib.Tactic.FinCases
import ReferenceSite.Proofs.Files.Room
import ReferenceSite.Proofs.Page.Consulted
import ReferenceSite.Proofs.Page.Publication

/-! Two pages, published one behind the other or the other way round. If neither changes what the other one is
made from, both are published in either order. Each tree in between grows into the tree that the first order
ends with, so there is room for all that is written, and in the end the two trees have grown into each other.
What a page writes depends on its sources alone, so the contents can differ only where both pages write: at
the destinations that they share. -/
namespace ReferenceSite
open ReferenceSite.Markdown

namespace FileTree
variable {t T : FileTree}

/-! ### Room for what is written -/

theorem ensureParent_room (rooted : t.Rooted) (grows : Grows t T) (p : Path) (file : T.isFile p = true) :
    ∃ t' here content, t.ensureParent p = (t',.ok ()) ∧ Grows t' T ∧ t'.walk p = .ok here ∧
      T.lookup here = some (.file content) := by
  obtain ⟨above,last,up,content,split,loud,leads,held,named⟩ := isFile_split p file
  have whole := p.segments_clean named
  rw [split] at whole
  have clean : Path.Clean p.isAbsolute (Path.dropSilent p.isAbsolute above.reverse).reverse := by
    refine whole.front (List.IsPrefix.trans ?_ (List.prefix_append ..))
    have part := List.reverse_prefix.mpr (Path.dropSilent_suffix p.isAbsolute above.reverse)
    rwa [List.reverse_reverse] at part
  have walks (tree : FileTree) (leads : tree.Leads p.isAbsolute above up) : tree.walk p = .ok (descend up last) := by
    rw [tree.walk_segments p named,split]
    exact (tree.foldlM_snoc above last _ _).mpr ⟨up,leads.1,leads.2,rfl⟩
  have higher (tree : FileTree) : tree.Leads p.isAbsolute (Path.dropSilent p.isAbsolute above.reverse).reverse up ↔
      tree.Leads p.isAbsolute above up := by
    rw [tree.leads_dropSilent,List.reverse_reverse]
  unfold ensureParent
  simp only [p.parent?_split above last split loud]
  split
  · rename_i none
    obtain ⟨_,empty⟩ := (Path.text_ofSegments_eq_empty _ _ clean).mp none
    have here := (higher T).mpr leads
    rw [empty,leads_nil (grows.rooted rooted),grows.start_eq] at here
    have there : t.Leads p.isAbsolute above up := by
      rw [← higher t,empty,leads_nil rooted]
      exact here
    exact ⟨t,_,content,rfl,grows,walks t there,held⟩
  · rename_i written
    obtain ⟨t',made,grows',led⟩ :=
      createDirectories_room rooted grows _ clean written up ((higher T).mpr leads)
    refine ⟨t',_,content,?_,grows',walks t' ((higher t').mp led),held⟩
    rw [made]
    rfl

theorem attempt_done (t t' : FileTree) (changed : Except FileFault FileTree) (reported : Path)
    (done : changed = .ok t') : t.attempt changed reported = (t',.ok ()) := by
  rw [done]
  rfl

theorem writeOutput_room (rooted : t.Rooted) (grows : Grows t T) (p : Path) (bytes : ByteArray)
    (file : T.isFile p = true) : ∃ t', t.writeOutput p bytes = (t',.ok ()) ∧ Grows t' T := by
  obtain ⟨middle,here,content,made,grows',walked,held⟩ := ensureParent_room rooted grows p file
  refine ⟨middle.put here (.file bytes),?_,put_room grows' here bytes content held⟩
  have written : middle.write p bytes = .ok (middle.put here (.file bytes)) := by
    rw [FileTree.write,slot_room grows' p here content walked held]
    rfl
  rw [writeOutput,made]
  exact attempt_done middle _ _ p written

theorem copyAsset_room (rooted : t.Rooted) (grows : Grows t T) (a : AssetCopy)
    (source : t.isFile a.source = true) (destination : T.isFile a.destination = true) :
    ∃ t', t.copyAsset a = (t',.ok ()) ∧ Grows t' T := by
  obtain ⟨middle,here,content,made,grows',walked,held⟩ := ensureParent_room rooted grows a.destination destination
  have extend := t.ensureParent_extends a.destination
  rw [made] at extend
  obtain ⟨origin,before,reached,sent⟩ := (middle.isFile_iff a.source).mp (extend.grows.isFile a.source source)
  refine ⟨_,?_,put_room grows' here (if here = origin then .empty else before) content held⟩
  have copied : middle.copy a.source a.destination =
      .ok (middle.put here (.file (if here = origin then .empty else before))) := by
    have found := (middle.find_ok_iff a.source origin _).mpr ⟨reached,sent⟩
    have slot := slot_room grows' a.destination here content walked held
    simp only [FileTree.copy,found,slot,bind,Except.bind,pure,Except.pure]
  rw [copyAsset,made]
  exact attempt_done middle _ _ a.source copied

theorem copyAssets_step (t middle : FileTree) (a : AssetCopy) (rest : List AssetCopy)
    (first : t.copyAsset a = (middle,.ok ())) : t.copyAssets (a :: rest) = middle.copyAssets rest := by
  have step : t.copyAssets (a :: rest) =
      rest.foldl (fun done a => thenDo done (·.copyAsset a)) (t.copyAsset a) := rfl
  rw [step,first]
  rfl

theorem copyAssets_room (rooted : t.Rooted) (grows : Grows t T) (assets : List AssetCopy)
    (sources : ∀ a ∈ assets, t.isFile a.source = true)
    (destinations : ∀ a ∈ assets, T.isFile a.destination = true) :
    ∃ t', t.copyAssets assets = (t',.ok ()) ∧ Grows t' T := by
  induction assets generalizing t with
  | nil => exact ⟨t,rfl,grows⟩
  | cons a rest ih =>
    obtain ⟨source,others⟩ := List.forall_mem_cons.mp sources
    obtain ⟨destination,further⟩ := List.forall_mem_cons.mp destinations
    obtain ⟨middle,first,grows'⟩ := copyAsset_room rooted grows a source destination
    obtain ⟨bytes,_,puts⟩ := t.copyAsset_puts middle a first
    obtain ⟨t',later,grows''⟩ := ih (puts.grows.rooted rooted) grows'
      (fun b member => puts.grows.isFile b.source (others b member)) further
    exact ⟨t',(t.copyAssets_step middle a rest first).trans later,grows''⟩

/-! ### Contents -/

theorem place_eq (same : T.workingDirectory = t.workingDirectory) (p : Path) : T.place p = t.place p := by
  rw [FileTree.place,FileTree.place,same]

/-- The same copies, made in trees that agree on some places. They need to agree on all sources. -/
theorem copyAssets_agree (t₁ t₂ t₁' t₂' : FileTree) (assets : List AssetCopy)
    (first : t₁.copyAssets assets = (t₁',.ok ())) (second : t₂.copyAssets assets = (t₂',.ok ()))
    (start : t₂.workingDirectory = t₁.workingDirectory) (known : Location → Prop)
    (agree : ∀ here, known here → t₂.content here = t₁.content here)
    (sources : ∀ a ∈ assets, known (t₁.place a.source)) :
    ∀ here, known here ∨ (∃ a ∈ assets, here = t₁.place a.destination) → t₂'.content here = t₁'.content here := by
  induction assets generalizing t₁ t₂ known with
  | nil =>
    obtain rfl := (Prod.mk.inj first).1
    obtain rfl := (Prod.mk.inj second).1
    simpa using agree
  | cons a rest ih =>
    obtain ⟨m₁,one,others₁⟩ := t₁.copyAssets_cons t₁' a rest first
    obtain ⟨m₂,two,others₂⟩ := t₂.copyAssets_cons t₂' a rest second
    obtain ⟨bytes₁,sent₁,puts₁⟩ := t₁.copyAsset_puts m₁ a one
    obtain ⟨bytes₂,sent₂,puts₂⟩ := t₂.copyAsset_puts m₂ a two
    rw [place_eq start] at sent₂
    obtain rfl : bytes₁ = bytes₂ := by
      have same := agree _ (sources a List.mem_cons_self)
      rw [sent₁,sent₂] at same
      exact (Option.some.inj same).symm
    have held₂ := puts₂.held
    have spares₂ := puts₂.spares
    rw [place_eq start,place_eq start] at held₂
    rw [place_eq start] at spares₂
    have start' : m₂.workingDirectory = m₁.workingDirectory :=
      puts₂.grows.start.trans (start.trans puts₁.grows.start.symm)
    intro here reached
    refine ih m₁ m₂ others₁ others₂ start' (fun here => known here ∨ here = t₁.place a.destination) ?_ ?_ here ?_
    · intro there seen
      by_cases target : there = t₁.place a.destination
      · rw [target,puts₁.held,held₂]
      · rw [(puts₁.spares there target).content,(spares₂ there target).content]
        exact agree there (seen.resolve_right target)
    · intro b member
      rw [puts₁.grows.place]
      exact .inl (sources b (List.mem_cons_of_mem a member))
    · simp only [puts₁.grows.place]
      rcases reached with seen | ⟨b,member,rfl⟩
      · exact .inl (.inl seen)
      · rcases List.mem_cons.mp member with rfl | later
        · exact .inl (.inr rfl)
        · exact .inr ⟨b,later,rfl⟩

/-- The same files and directories. -/
structure Same (t t' : FileTree) : Prop where
  start : t'.workingDirectory = t.workingDirectory
  held : ∀ here, t'.lookup here = t.lookup here

theorem same_iff (grows : Grows t T) (grows' : Grows T t) :
    Same t T ↔ ∀ here, T.content here = t.content here := by
  constructor
  · intro same here
    rw [FileTree.content,FileTree.content,same.held]
  · refine fun contents => ⟨grows.start,fun here => ?_⟩
    cases found : t.lookup here with
    | none =>
      cases found' : T.lookup here with
      | none => rfl
      | some entry =>
        cases entry with
        | directory => rw [grows'.directories here found'] at found; cases found
        | file content =>
          obtain ⟨after,file⟩ := grows'.files here content found'
          rw [file] at found
          cases found
    | some entry =>
      cases entry with
      | directory => exact grows.directories here found
      | file content =>
        obtain ⟨after,file⟩ := grows.files here content found
        have same := contents here
        rw [FileTree.content,FileTree.content,found,file] at same
        rw [file,Option.some.inj same]

end FileTree

namespace PublishSpec
open FileTree

theorem write_done (s : PublishSpec) (t middle t' : FileTree) (html : String) (assets : List AssetCopy)
    (copied : t.copyAssets assets = (middle,.ok ()))
    (wrote : middle.writeOutput s.output html.toUTF8 = (t',.ok ())) : s.write t html assets = (t',.ok ()) := by
  rw [write,copied]
  exact wrote

theorem write_room (s : PublishSpec) {t T : FileTree} (rooted : t.Rooted) (grows : Grows t T) (html : String)
    (assets : List AssetCopy) (sources : ∀ a ∈ assets, t.isFile a.source = true)
    (destinations : ∀ a ∈ assets, T.isFile a.destination = true) (output : T.isFile s.output = true) :
    ∃ t', s.write t html assets = (t',.ok ()) ∧ Grows t' T := by
  obtain ⟨middle,copied,grows'⟩ := copyAssets_room rooted grows assets sources destinations
  have further := (t.copyAssets_grows middle assets copied).1
  obtain ⟨t',wrote,grows''⟩ := writeOutput_room (further.rooted rooted) grows' s.output html.toUTF8 output
  exact ⟨t',s.write_done t middle t' html assets copied wrote,grows''⟩

/-- If pages are written one behind the other, they can be written the other way round, and the tree behind
both has no more in it. -/
theorem write_swap (a b : PublishSpec) (t ta tab : FileTree) (rooted : t.Rooted) (html html' : String)
    (assets assets' : List AssetCopy) (sources : ∀ x ∈ assets, t.isFile x.source = true)
    (sources' : ∀ y ∈ assets', t.isFile y.source = true) (first : a.write t html assets = (ta,.ok ()))
    (second : b.write ta html' assets' = (tab,.ok ())) :
    ∃ tb tba, b.write t html' assets' = (tb,.ok ()) ∧ a.write tb html assets = (tba,.ok ()) ∧ Grows tba tab := by
  obtain ⟨_,written⟩ := a.written t ta html assets first
  obtain ⟨_,written'⟩ := b.written ta tab html' assets' second
  obtain ⟨tb,third,below⟩ := b.write_room rooted (written.grows.trans written'.grows) html' assets' sources'
    written'.destinations written'.output
  obtain ⟨_,written''⟩ := b.written t tb html' assets' third
  obtain ⟨tba,fourth,below'⟩ := a.write_room (written''.grows.rooted rooted) below html assets
    (fun x member => written''.grows.isFile x.source (sources x member))
    (fun x member => written'.grows.isFile x.destination (written.destinations x member))
    (written'.grows.isFile a.output written.output)
  exact ⟨tb,tba,third,fourth,below'⟩

/-- A place that a page is written to, itself or with its copies. -/
def Covers (s : PublishSpec) (t : FileTree) (assets : List AssetCopy) (here : Location) : Prop :=
  here = t.place s.output ∨ ∃ a ∈ assets, here = t.place a.destination

theorem write_elsewhere (s : PublishSpec) (t t' : FileTree) (html : String) (assets : List AssetCopy)
    (done : s.write t html assets = (t',.ok ())) (here : Location) (free : ¬ s.Covers t assets here) :
    t'.content here = t.content here := by
  obtain ⟨_,written⟩ := s.written t t' html assets done
  exact (written.others here (fun same => free (.inl same)) fun a member same => free (.inr ⟨a,member,same⟩)).content

/-- What a page leaves at the places it is written to depends on its sources only. -/
theorem write_agree (s : PublishSpec) (t₁ t₂ t₁' t₂' : FileTree) (html : String) (assets : List AssetCopy)
    (first : s.write t₁ html assets = (t₁',.ok ())) (second : s.write t₂ html assets = (t₂',.ok ()))
    (start : t₂.workingDirectory = t₁.workingDirectory)
    (sources : ∀ a ∈ assets, t₂.content (t₁.place a.source) = t₁.content (t₁.place a.source))
    (here : Location) (covered : s.Covers t₁ assets here) : t₂'.content here = t₁'.content here := by
  obtain ⟨m₁,written₁⟩ := s.written t₁ t₁' html assets first
  obtain ⟨m₂,written₂⟩ := s.written t₂ t₂' html assets second
  have page := written₂.page
  have kept := written₂.kept
  rw [place_eq start] at page kept
  by_cases output : here = t₁.place s.output
  · rw [output,page,written₁.page]
  · rw [kept here output,written₁.kept here output]
    exact copyAssets_agree t₁ t₂ m₁ m₂ assets written₁.copied written₂.copied start
      (fun here => t₂.content here = t₁.content here) (fun _ same => same) sources here
      (.inr (covered.resolve_left output))

/-- The outputs of two pages are apart from each other and from each other's copies, and what both copy to one
place comes from one place. -/
structure Apart (a b : PublishSpec) (t : FileTree) (assets assets' : List AssetCopy) : Prop where
  outputs : t.place a.output ≠ t.place b.output
  first : ∀ y ∈ assets', t.place a.output ≠ t.place y.destination
  second : ∀ x ∈ assets, t.place b.output ≠ t.place x.destination
  shared : ∀ x ∈ assets, ∀ y ∈ assets', t.place x.destination = t.place y.destination →
    t.place x.source = t.place y.source

/-- A place that both pages copy something to. -/
def Shared (t : FileTree) (assets assets' : List AssetCopy) (here : Location) : Prop :=
  (∃ x ∈ assets, here = t.place x.destination) ∧ ∃ y ∈ assets', here = t.place y.destination

theorem Apart.shares {a b : PublishSpec} {t : FileTree} {assets assets' : List AssetCopy}
    (apart : a.Apart b t assets assets') (here : Location) (covered : a.Covers t assets here)
    (covered' : b.Covers t assets' here) : Shared t assets assets' here := by
  rcases covered with rfl | copied
  · rcases covered' with same | ⟨y,member,same⟩
    · exact absurd same apart.outputs
    · exact absurd same (apart.first y member)
  · rcases covered' with rfl | copied'
    · obtain ⟨x,member,same⟩ := copied
      exact absurd same (apart.second x member)
    · exact ⟨copied,copied'⟩

/-- A shared image arrives if no page changes it. -/
theorem write_arrives (s : PublishSpec) (t t' : FileTree) (html : String) (assets : List AssetCopy)
    (done : s.write t html assets = (t',.ok ())) (here origin : Location) (output : here ≠ t.place s.output)
    (single : ∀ a ∈ assets, t.place a.destination = here → t.place a.source = origin)
    (apart : ∀ a ∈ assets, t.place a.destination ≠ origin)
    (copied : ∃ a ∈ assets, t.place a.destination = here) : t'.content here = t.content origin := by
  obtain ⟨middle,written⟩ := s.written t t' html assets done
  rw [written.kept here output]
  exact t.copyAssets_arrives middle assets written.copied here origin single apart copied

section Orders
variable {a b : PublishSpec} {t ta tab tb tba : FileTree} {html html' : String} {assets assets' : List AssetCopy}

/-- Two pages in both orders, from one tree in which neither changes the sources of the other. -/
structure Orders (a b : PublishSpec) (t ta tab tb tba : FileTree) (html html' : String)
    (assets assets' : List AssetCopy) : Prop where
  first : a.write t html assets = (ta,.ok ())
  second : b.write ta html' assets' = (tab,.ok ())
  third : b.write t html' assets' = (tb,.ok ())
  fourth : a.write tb html assets = (tba,.ok ())
  sources : ∀ x ∈ assets, tb.content (t.place x.source) = t.content (t.place x.source)
  sources' : ∀ y ∈ assets', ta.content (t.place y.source) = t.content (t.place y.source)

theorem Orders.symm (orders : Orders a b t ta tab tb tba html html' assets assets') :
    Orders b a t tb tba ta tab html' html assets' assets :=
  ⟨orders.third,orders.fourth,orders.first,orders.second,orders.sources',orders.sources⟩

/-- Where the first page is written, the second order leaves what the page alone leaves. -/
theorem Orders.content (orders : Orders a b t ta tab tb tba html html' assets assets') (here : Location)
    (covered : a.Covers t assets here) : tba.content here = ta.content here := by
  obtain ⟨_,written⟩ := b.written t tb html' assets' orders.third
  exact a.write_agree t tb ta tba html assets orders.first orders.fourth written.grows.start orders.sources
    here covered

/-- Where the first page is not written, the second order leaves what the other page alone leaves. -/
theorem Orders.content_free (orders : Orders a b t ta tab tb tba html html' assets assets') (here : Location)
    (free : ¬ a.Covers t assets here) : tba.content here = tb.content here := by
  obtain ⟨_,written⟩ := b.written t tb html' assets' orders.third
  refine a.write_elsewhere tb tba html assets orders.fourth here fun covered => free ?_
  simpa only [Covers,written.grows.place] using covered

theorem Orders.same_iff (orders : Orders a b t ta tab tb tba html html' assets assets')
    (grows : Grows tab tba) (grows' : Grows tba tab) (apart : a.Apart b t assets assets') :
    tab.Same tba ↔ ∀ here, Shared t assets assets' here → ta.content here = tb.content here := by
  rw [FileTree.same_iff grows grows']
  constructor
  · rintro same here ⟨⟨x,member,there⟩,y,member',there'⟩
    rw [← orders.content here (.inr ⟨x,member,there⟩),← orders.symm.content here (.inr ⟨y,member',there'⟩),same here]
  · intro agree here
    by_cases covered : a.Covers t assets here
    · by_cases covered' : b.Covers t assets' here
      · rw [orders.content here covered,orders.symm.content here covered',agree here (apart.shares here covered covered')]
      · rw [orders.content here covered,orders.symm.content_free here covered']
    · by_cases covered' : b.Covers t assets' here
      · rw [orders.content_free here covered,orders.symm.content here covered']
      · rw [orders.content_free here covered,orders.symm.content_free here covered',
          b.write_elsewhere t tb html' assets' orders.third here covered',
          a.write_elsewhere t ta html assets orders.first here covered]

/-- Each page alone leaves a shared image as it was, if neither of them copies anything over it. -/
theorem Orders.shared_content (orders : Orders a b t ta tab tb tba html html' assets assets')
    (apart : a.Apart b t assets assets')
    (kept : ∀ x ∈ assets, ∀ y ∈ assets', t.place x.destination = t.place y.destination →
      ∀ z ∈ assets ++ assets', t.place z.destination ≠ t.place x.source)
    (here : Location) (shared : Shared t assets assets' here) : ta.content here = tb.content here := by
  obtain ⟨⟨x,member,rfl⟩,y,member',there⟩ := shared
  have origin := apart.shared x member y member' there
  have own := kept x member y member' there
  have first : ta.content (t.place x.destination) = t.content (t.place x.source) := by
    refine a.write_arrives t ta html assets orders.first _ _ ?_ ?_ ?_ ⟨x,member,rfl⟩
    · exact fun same => apart.first y member' (same.symm.trans there)
    · exact fun z copied same => (apart.shared z copied y member' (same.trans there)).trans origin.symm
    · exact fun z copied => own z (List.mem_append_left _ copied)
  have second : tb.content (t.place x.destination) = t.content (t.place x.source) := by
    refine b.write_arrives t tb html' assets' orders.third _ _ ?_ ?_ ?_ ⟨y,member',there.symm⟩
    · exact fun same => apart.second x member same.symm
    · exact fun z copied same => (apart.shared x member z copied same.symm).symm
    · exact fun z copied => own z (List.mem_append_right _ copied)
  rw [first,second]

end Orders

/-- Two pages that do not change what the other one is made from can be published in either order, with the
same results. The order cannot be seen in the tree exactly if each page alone leaves the same at the places that
both copy to. That is so if no page copies anything over an image that both copy to one place. -/
theorem publish_swap (a b : PublishSpec) (base : RenderContext) (h : Highlighter) (e : TemplateEngine)
    (t ta tab : FileTree) (result result' : PublishResult) (rooted : t.Rooted)
    (first : a.publish base t h e = (ta,.ok result)) (second : b.publish base ta h e = (tab,.ok result'))
    (alike : t.Alike (b.publish base t h e).1 (a.consulted base t)) (alike' : t.Alike ta (b.consulted base t))
    (apart : a.Apart b t result.assets result'.assets) :
    ∃ tb tba, b.publish base t h e = (tb,.ok result') ∧ a.publish base tb h e = (tba,.ok result) ∧
      (tab.Same tba ↔
        ∀ here, Shared t result.assets result'.assets here → ta.content here = tb.content here) ∧
      ((∀ x ∈ result.assets, ∀ y ∈ result'.assets, t.place x.destination = t.place y.destination →
        ∀ z ∈ result.assets ++ result'.assets, t.place z.destination ≠ t.place x.source) → tab.Same tba) := by
  obtain ⟨html,page,wrote,output⟩ := (a.publish_ok_iff base t ta h e result).mp first
  obtain ⟨html',page',wrote',output'⟩ := (b.publish_ok_iff base ta tab h e result').mp second
  -- The second page is made from the same in the starting tree.
  obtain ⟨markdown,_,read,_⟩ := (b.page_ok_iff base ta h e html' result'.assets).mp page'
  have known := b.page_alike base h e (b.consulted_alike base markdown read alike') html' result'.assets page'
  have files := (a.page_files base t h e html result.assets page).1
  have files' := (b.page_files base t h e html' result'.assets known).1
  obtain ⟨tb,tba,wrote₂,wrote₂',grows⟩ := write_swap a b t ta tab rooted html html' result.assets result'.assets
    files files' wrote wrote'
  obtain ⟨_,_,again,again',grows'⟩ := write_swap b a t tb tba rooted html' html result'.assets result.assets
    files' files wrote₂ wrote₂'
  rw [wrote] at again
  cases again
  rw [wrote'] at again'
  cases again'
  have published := (b.publish_ok_iff base t tb h e result').mpr ⟨html',known,wrote₂,output'⟩
  rw [published] at alike
  have published' := (a.publish_ok_iff base tb tba h e result).mpr
    ⟨html,a.page_alike base h e alike html result.assets page,wrote₂',output⟩
  obtain ⟨_,written⟩ := a.written t ta html result.assets wrote
  obtain ⟨_,written'⟩ := b.written t tb html' result'.assets wrote₂
  have orders : Orders a b t ta tab tb tba html html' result.assets result'.assets :=
    ⟨wrote,wrote',wrote₂,wrote₂',
      fun x member => alike.content written'.grows.start x.source
        (a.page_looks base h e html result.assets page x member) (files x member),
      fun y member => alike'.content written.grows.start y.source
        (b.page_looks base h e html' result'.assets known y member) (files' y member)⟩
  have same := orders.same_iff grows' grows apart
  exact ⟨tb,tba,published,published',same,fun kept => same.mpr (orders.shared_content apart kept)⟩

end PublishSpec

/-! Pages that copy one image to one place beside the site. The first one also copies over that image, and what
was there before back again. -/

def crossingText : String := "![](/docs/../x)![](/docs/../../../o/x)![](/docs/../../o/x)"

def followingText : String := "![](/docs/../../../o/x)"

def crossed : FileTree :=
  ⟨[],[(["a.md"],.file crossingText.toUTF8),(["b.md"],.file followingText.toUTF8),(["o"],.directory),(["w"],.directory),
    (["w","o"],.directory),(["w","o","docs"],.directory),(["w","o","x"],.file ⟨#[49]⟩),(["w","p"],.directory),
    (["w","p","o"],.directory),(["w","p","o","x"],.file ⟨#[49]⟩),(["w","p","r"],.directory),
    (["w","p","r","docs"],.directory),(["w","p","r","x"],.file ⟨#[48]⟩)]⟩

def upward : RenderContext := .standard ⟨"docs/index.md"⟩ ⟨"w/p/r"⟩

def upwardPage (input output : String) : PublishSpec := ⟨some ⟨input⟩,⟨output⟩,⟨"w/o"⟩,none⟩

def upwardImages : List String := ["../x","../../../o/x","../../o/x"]

def upwardCopy (image : String) : AssetCopy := ⟨⟨"w/p/r/docs/" ++ image⟩,⟨"w/o/docs/" ++ image⟩⟩

/-- The documents by their texts and the images in them. -/
inductive IsUpward : String → String → List String → Prop
  | crossing : IsUpward "a.md" crossingText upwardImages
  | following : IsUpward "b.md" followingText ["../../../o/x"]

section Upward
variable {input text : String} {images : List String} (upon : IsUpward input text images) (output : String)

private def imageNode (image : String) : Node := .leaf (.image ("/docs/" ++ image) "")

private theorem images_upward (upon : IsUpward input text images) : ∀ image ∈ images, image ∈ upwardImages := by
  cases upon with
  | crossing => exact fun _ listed => listed
  | following => simp [upwardImages]

private theorem kinds_upward (upon : IsUpward input text images) :
    (parse text).kinds = .document :: .paragraph :: images.map fun image => .image ("/docs/" ++ image) "" := by
  have parsed : parse text = .node .document [.node .paragraph (images.map imageNode)] := by
    cases upon with
    | crossing =>
      have shapes : blocks crossingText.toList = ([],[.block
          (.paragraph false) "![](/docs/../x)![](/docs/../../../o/x)![](/docs/../../o/x)\n".toList false []]) := by
        with_unfolding_all rfl
      have inside : inlines [] "![](/docs/../x)![](/docs/../../../o/x)![](/docs/../../o/x)\n".toList =
          upwardImages.map imageNode := by with_unfolding_all rfl
      rw [parse,shapes]
      simp only [Block.toNodes,Block.toNode,inside]
    | following =>
      have shapes : blocks followingText.toList =
          ([],[.block (.paragraph false) "![](/docs/../../../o/x)\n".toList false []]) := by with_unfolding_all rfl
      have inside : inlines [] "![](/docs/../../../o/x)\n".toList = ["../../../o/x"].map imageNode := by
        with_unfolding_all rfl
      rw [parse,shapes]
      simp only [Block.toNodes,Block.toNode,inside]
  have leaves (images : List String) :
      Node.kindsAll (images.map imageNode) = images.map fun image => .image ("/docs/" ++ image) "" := by
    induction images with
    | nil => rfl
    | cons image rest ih =>
      rw [List.map_cons,Node.kindsAll_cons,ih]
      rfl
  rw [parsed,Node.kinds_node,Node.kindsAll_cons,Node.kinds_node,leaves]
  simp [Node.kindsAll,Node.preorderAll]

private theorem image_upward (image : String) (listed : image ∈ upwardImages) :
    upward.links.classify ("/docs/" ++ image) upward.addresses = .docs image ∧
      upward.root.join (upward.links.docsFile image).text = (upwardCopy image).source ∧
      (Path.mk "w/o").join (upward.links.docsFile image).text = (upwardCopy image).destination := by
  refine ⟨?_,?_,?_⟩
  · fin_cases listed <;> with_unfolding_all rfl
  · fin_cases listed <;> decide
  · fin_cases listed <;> decide

private theorem source_upward (upon : IsUpward input text images) (t : FileTree)
    (read : t.read ⟨input⟩ = .ok text.toUTF8) : (upwardPage input output).source t = .ok text := by
  refine (t.readDocument_ok_iff _ _).mpr ?_
  unfold FileTree.readText
  rw [read]
  simp only [bind,Except.bind]
  cases upon <;> decide

def upwardHtml (input output text : String) : String :=
  ((Node.anchored upward.levels (parse text)).mapKinds
    (((upwardPage input output).context upward).shownKind .byScope)).toHtml

private theorem page_upward (upon : IsUpward input text images) (t : FileTree)
    (read : t.read ⟨input⟩ = .ok text.toUTF8) (files : ∀ image ∈ images, t.isFile (upwardCopy image).source = true) :
    (upwardPage input output).page upward t = .ok (upwardHtml input output text,images.map upwardCopy) := by
  have each (images : List String) (listed : ∀ image ∈ images, image ∈ upwardImages)
      (files : ∀ image ∈ images, t.isFile (upwardCopy image).source = true) :
      ((upwardPage input output).context upward).demands t .byScope
        (images.map fun image => .image ("/docs/" ++ image) "") = .ok (images.map upwardCopy) := by
    induction images with
    | nil => rfl
    | cons image rest ih =>
      obtain ⟨kind,source,destination⟩ := image_upward image (listed image (by simp))
      have others := ih (fun p member => listed p (by simp [member])) (fun p member => files p (by simp [member]))
      have first : ((upwardPage input output).context upward).rewriteKind t (.image ("/docs/" ++ image) "") .byScope =
          .ok (.image ("/docs/" ++ image) "",[upwardCopy image]) := by
        simp only [RenderContext.rewriteKind,RenderContext.rewriteImage,PublishSpec.context,upwardPage,kind,source,
          destination,files image (by simp),Option.toList,List.map,if_true]
        rfl
      rw [List.map_cons,RenderContext.demands,first,others]
      rfl
  have rendered := ((upwardPage input output).context upward).render_demands t .byScope text
  rw [kinds_upward upon,RenderContext.demands,RenderContext.demands,each images (images_upward upon) files] at rendered
  exact ((upwardPage input output).page_ok_iff upward t .byScope .standard _ _).mpr
    ⟨text,_,source_upward output upon t read,rendered,rfl⟩

private theorem consulted_upward (upon : IsUpward input text images) (t : FileTree)
    (read : t.read ⟨input⟩ = .ok text.toUTF8) : (upwardPage input output).consulted upward t =
      ⟨input⟩ :: images.map fun image => (upwardCopy image).source := by
  have each (images : List String) (listed : ∀ image ∈ images, image ∈ upwardImages) :
      (images.map fun image => Kind.image ("/docs/" ++ image) "").flatMap
        ((upwardPage input output).context upward).lookups = images.map fun image => (upwardCopy image).source := by
    induction images with
    | nil => rfl
    | cons image rest ih =>
      obtain ⟨kind,source,_⟩ := image_upward image (listed image (by simp))
      rw [List.map_cons,List.flatMap_cons,ih fun p member => listed p (by simp [member])]
      simp only [RenderContext.lookups,PublishSpec.context,kind,source]
      rfl
  rw [PublishSpec.consulted_eq _ upward text (source_upward output upon t read),kinds_upward upon,
    List.flatMap_cons,List.flatMap_cons,each images (images_upward upon)]
  exact List.append_nil _

end Upward

/-! What the pages write. -/

def crossedBy (t : FileTree) (html : String) : FileTree :=
  (((t.put ["w","o","x"] (.file ⟨#[48]⟩)).put ["o","x"] (.file ⟨#[48]⟩)).put ["w","o","x"] (.file ⟨#[49]⟩)).put
    ["a.html"] (.file html.toUTF8)

def followedBy (t : FileTree) (output html : String) : FileTree :=
  (t.put ["o","x"] (.file ⟨#[49]⟩)).put [output] (.file html.toUTF8)

private theorem copyAsset_beside (t t' : FileTree) (a : AssetCopy) (above : Path)
    (under : a.destination.parent? = some above)
    (present : t.isDirectory (Path.ofSegments above.isAbsolute above.reversedSegments.reverse) = true)
    (copied : t.copy a.source a.destination = .ok t') : t.copyAsset a = (t',.ok ()) := by
  rw [FileTree.copyAsset,t.ensureParent_present a.destination above under present]
  exact FileTree.attempt_done t t' _ a.source copied

/-- The trees that a page is published in. -/
inductive IsStage : FileTree → Prop
  | first : IsStage crossed
  | crossed (html : String) : IsStage (crossedBy crossed html)
  | followed (html : String) : IsStage (followedBy crossed "b.html" html)

private theorem following_wrote (t : FileTree) (html output : String) (stage : IsStage t)
    (named : output = "b.html" ∨ output = "c.html") :
    (upwardPage "b.md" output).write t html [upwardCopy "../../../o/x"] = (followedBy t output html,.ok ()) := by
  have copied : t.copyAssets [upwardCopy "../../../o/x"] = (t.put ["o","x"] (.file ⟨#[49]⟩),.ok ()) := by
    show t.copyAsset (upwardCopy "../../../o/x") = _
    refine copyAsset_beside t _ _ ⟨"w/o/docs/../../../o"⟩ (by decide) ?_ ?_
    · cases stage <;> rfl
    · cases stage <;> rfl
  refine PublishSpec.write_done _ t _ _ html _ copied ?_
  rcases named with rfl | rfl <;> cases stage <;> rfl

private theorem crossing_wrote (t : FileTree) (html : String) (stage : IsStage t) :
    (upwardPage "a.md" "a.html").write t html (upwardImages.map upwardCopy) = (crossedBy t html,.ok ()) := by
  have before : t.copyAsset (upwardCopy "../x") = (t.put ["w","o","x"] (.file ⟨#[48]⟩),.ok ()) := by
    refine copyAsset_beside t _ _ ⟨"w/o/docs/.."⟩ (by decide) ?_ ?_
    · cases stage <;> rfl
    · cases stage <;> rfl
  have shared : (t.put ["w","o","x"] (.file ⟨#[48]⟩)).copyAsset (upwardCopy "../../../o/x") =
      ((t.put ["w","o","x"] (.file ⟨#[48]⟩)).put ["o","x"] (.file ⟨#[48]⟩),.ok ()) := by
    refine copyAsset_beside _ _ _ ⟨"w/o/docs/../../../o"⟩ (by decide) ?_ ?_
    · cases stage <;> rfl
    · cases stage <;> rfl
  have behind : ((t.put ["w","o","x"] (.file ⟨#[48]⟩)).put ["o","x"] (.file ⟨#[48]⟩)).copyAsset
      (upwardCopy "../../o/x") = (((t.put ["w","o","x"] (.file ⟨#[48]⟩)).put ["o","x"] (.file ⟨#[48]⟩)).put
        ["w","o","x"] (.file ⟨#[49]⟩),.ok ()) := by
    refine copyAsset_beside _ _ _ ⟨"w/o/docs/../../o"⟩ (by decide) ?_ ?_
    · cases stage <;> rfl
    · cases stage <;> rfl
  have copied : t.copyAssets (upwardImages.map upwardCopy) =
      (((t.put ["w","o","x"] (.file ⟨#[48]⟩)).put ["o","x"] (.file ⟨#[48]⟩)).put
        ["w","o","x"] (.file ⟨#[49]⟩),.ok ()) := by
    rw [upwardImages,List.map_cons,t.copyAssets_step _ _ _ before,List.map_cons,
      FileTree.copyAssets_step _ _ _ _ shared]
    exact behind
  refine PublishSpec.write_done _ t _ _ html _ copied ?_
  cases stage <;> rfl

private theorem crossing_published (t : FileTree) (stage : IsStage t) :
    (upwardPage "a.md" "a.html").publish upward t = (crossedBy t (upwardHtml "a.md" "a.html" crossingText),
      .ok ⟨⟨"a.html"⟩,upwardImages.map upwardCopy⟩) := by
  refine (PublishSpec.publish_ok_iff _ upward t _ _ _ _).mpr
    ⟨_,page_upward "a.html" .crossing t ?_ ?_,crossing_wrote t _ stage,rfl⟩
  · cases stage <;> rfl
  · intro image listed
    fin_cases listed <;> cases stage <;> rfl

private theorem following_published (t : FileTree) (output : String) (stage : IsStage t)
    (named : output = "b.html" ∨ output = "c.html") :
    (upwardPage "b.md" output).publish upward t = (followedBy t output (upwardHtml "b.md" output followingText),
      .ok ⟨⟨output⟩,[upwardCopy "../../../o/x"]⟩) := by
  refine (PublishSpec.publish_ok_iff _ upward t _ _ _ _).mpr
    ⟨_,page_upward output .following t ?_ ?_,following_wrote t _ output stage named,rfl⟩
  · cases stage <;> rfl
  · intro image listed
    fin_cases listed
    cases stage <;> rfl

/-- Two pages with the same image leave the same tree in either order. -/
theorem following_swaps : ∃ ta tab tb tba,
    (upwardPage "b.md" "b.html").publish upward crossed = (ta,.ok ⟨⟨"b.html"⟩,[upwardCopy "../../../o/x"]⟩) ∧
      (upwardPage "b.md" "c.html").publish upward ta = (tab,.ok ⟨⟨"c.html"⟩,[upwardCopy "../../../o/x"]⟩) ∧
      (upwardPage "b.md" "c.html").publish upward crossed =
        (tb,.ok ⟨⟨"c.html"⟩,[upwardCopy "../../../o/x"]⟩) ∧
      (upwardPage "b.md" "b.html").publish upward tb = (tba,.ok ⟨⟨"b.html"⟩,[upwardCopy "../../../o/x"]⟩) ∧
      tab.Same tba := by
  have first := following_published crossed "b.html" .first (.inl rfl)
  have second := following_published _ "c.html" (.followed (upwardHtml "b.md" "b.html" followingText)) (.inr rfl)
  have third := following_published crossed "c.html" .first (.inr rfl)
  obtain ⟨tb,tba,published,published',_,same⟩ := PublishSpec.publish_swap (upwardPage "b.md" "b.html")
    (upwardPage "b.md" "c.html") upward .byScope .standard crossed _ _ _ _ rfl first second
    (by
      rw [third,consulted_upward "b.html" .following crossed rfl]
      intro p member
      fin_cases member <;> rfl)
    (by
      rw [consulted_upward "c.html" .following crossed rfl]
      intro p member
      fin_cases member <;> rfl)
    { outputs := by decide
      first := by decide
      second := by decide
      shared := by decide }
  exact ⟨_,_,tb,tba,first,second,published,published',same (by decide)⟩

/-- A page that copies over a shared image and back again makes the order seen, though either page is made from
the same in both orders. -/
theorem crossing_differs : ∃ ta tab tb tba result result',
    crossed.Rooted ∧ (upwardPage "a.md" "a.html").publish upward crossed = (ta,.ok result) ∧
      (upwardPage "b.md" "b.html").publish upward ta = (tab,.ok result') ∧
      crossed.Alike ((upwardPage "b.md" "b.html").publish upward crossed).1
        ((upwardPage "a.md" "a.html").consulted upward crossed) ∧
      crossed.Alike ta ((upwardPage "b.md" "b.html").consulted upward crossed) ∧
      (upwardPage "a.md" "a.html").Apart (upwardPage "b.md" "b.html") crossed result.assets result'.assets ∧
      (upwardPage "b.md" "b.html").publish upward crossed = (tb,.ok result') ∧
      (upwardPage "a.md" "a.html").publish upward tb = (tba,.ok result) ∧ ¬ tab.Same tba := by
  have first := crossing_published crossed .first
  have second := following_published _ "b.html" (.crossed (upwardHtml "a.md" "a.html" crossingText)) (.inl rfl)
  have third := following_published crossed "b.html" .first (.inl rfl)
  have fourth := crossing_published _ (.followed (upwardHtml "b.md" "b.html" followingText))
  refine ⟨_,_,_,_,_,_,rfl,first,second,?_,?_,?_,third,fourth,?_⟩
  · rw [third,consulted_upward "a.html" .crossing crossed rfl]
    intro p member
    fin_cases member <;> rfl
  · rw [consulted_upward "b.html" .following crossed rfl]
    intro p member
    fin_cases member <;> rfl
  · constructor <;> decide
  · intro same
    have shared := same.held ["o","x"]
    have zero (html html' : String) : (crossedBy (followedBy crossed "b.html" html') html).lookup ["o","x"] =
        some (.file ⟨#[48]⟩) := rfl
    have one (html html' : String) : (followedBy (crossedBy crossed html) "b.html" html').lookup ["o","x"] =
        some (.file ⟨#[49]⟩) := rfl
    rw [zero,one] at shared
    exact absurd (congrArg ByteArray.data (Entry.file.inj (Option.some.inj shared))) (by decide)

end ReferenceSite
