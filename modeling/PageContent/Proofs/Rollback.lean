import PageContent.Proofs.Creation
import PageContent.Proofs.Editing
import PageContent.Proofs.Run

namespace PageContent

open Document (Change Same Adds)
open Effect (RewritesAnnot Empties)

namespace Document

variable {d d' d'' : Document} {page : PageId} {annot : AnnotId}

/-- The page has one annotation more, the last one. It is new, and so is all that it holds. -/
structure Draft (page : PageId) (annot : AnnotId) (d d' : Document) : Prop where
  later : d.issued < annot.raw
  same : ∃ p a, d.pages.get? page = some p ∧
    Same { d with
        pages := d.pages.insert page { p with annots := p.annots ++ [annot] }
        annots := d.annots.insert annot a }
      { d' with objects := a.objects.foldl Table.erase d'.objects }

theorem draft_createAnnot {kind : AnnotKind} (created : d.createAnnot page kind = some (annot, d')) :
    Draft page annot d d' := by
  obtain ⟨rfl, p, known, rfl⟩ := createAnnot_eq_some.mp created
  exact ⟨Nat.lt_succ_self _, p, .new kind, known, rfl, rfl, rfl, rfl, rfl, Nat.le_succ _, List.prefix_refl _⟩

theorem Draft.then_same (draft : Draft page annot d d') (same : Same d' d'') : Draft page annot d d'' := by
  obtain ⟨later, p, a, known, start⟩ := draft
  refine ⟨later, p, a, known, start.trans
    ⟨same.pages, ?_, same.annots, same.failing, same.removesQuads, same.issued, same.fonts⟩⟩
  exact congrArg (a.objects.foldl Table.erase) same.objects

theorem Draft.replace (draft : Draft page annot d d') {a a' : StoredAnnot}
    (known : d'.annots.get? annot = some a)
    (objects : Table ObjectId StoredObject)
    (left : a'.objects.foldl Table.erase objects = a.objects.foldl Table.erase d'.objects) :
    Draft page annot d { d' with annots := d'.annots.insert annot a', objects } := by
  obtain ⟨later, p, b, knownPage, start⟩ := draft
  have annots : d'.annots = d.annots.insert annot b := start.annots
  rw [annots, Table.get?_insert_self] at known
  cases known
  have replaced : d'.annots.insert annot a' = d.annots.insert annot a' := by rw [annots, Table.insert_insert]
  have objects' := left.trans start.objects
  exact ⟨later, p, a', knownPage, start.pages, objects', replaced, start.failing, start.removesQuads,
    start.issued, start.fonts⟩

theorem Draft.change_annot (draft : Draft page annot d d') (change : d'.Change (.annot annot) d'') :
    Draft page annot d d'' := by
  cases change with
  | nothing => exact draft
  | annot _ a a' known kind objects =>
      have left : a'.objects.foldl Table.erase d'.objects = a.objects.foldl Table.erase d'.objects := by
        rw [objects]
      exact draft.replace known d'.objects left

theorem Draft.change_removeEmbedded {index : Nat} (draft : Draft page annot d d')
    (change : d'.Change (.removeEmbedded annot index) d'') : Draft page annot d d'' := by
  cases change with
  | nothing => exact draft
  | removeEmbedded _ _ a object known held =>
      have left : (a.objects.eraseIdx index).foldl Table.erase (d'.objects.erase object) =
          a.objects.foldl Table.erase d'.objects :=
        Table.foldl_erase_perm (perm_cons_eraseIdx held).symm d'.objects
      exact draft.replace known (d'.objects.erase object) left

theorem Draft.embed (sound : d'.Sound) (draft : Draft page annot d d') (embeds : Embeds annot d' d'') :
    Draft page annot d d'' := by
  rcases embeds with same | ⟨object, middle, adds, embedded⟩
  · exact draft.then_same same
  · obtain ⟨o, same⟩ := adds.same
    obtain ⟨-, -, a, known, rfl⟩ := embedObject_eq_some.mp embedded
    have fresh : object ∉ d'.objects.keys := sound.not_mem_of_later adds.later
    have known' : d'.annots.get? annot = some a := same.annots ▸ known
    have outside : object ∉ a.objects := by
      intro mem
      obtain ⟨rest, before, -⟩ := held_setAnnot known'
      have held : object ∈ d'.held := before.mem_iff.mpr (List.mem_append_left _ mem)
      exact fresh (sound.held_live object held)
    -- The annotation takes the object along when it goes, so that it takes back both at once.
    have added : Draft page annot d { d' with
        annots := d'.annots.insert annot { a with objects := a.objects ++ [object] }
        objects := d'.objects.insert object o } := by
      refine draft.replace known' _ ?_
      rw [List.foldl_append, Table.foldl_erase_insert fresh outside]
      refine Table.erase_insert (fun mem => fresh ?_) o
      exact (Table.mem_keys_foldl_erase.mp mem).1
    refine added.then_same ⟨same.pages, same.objects, ?_, same.failing, same.removesQuads, same.issued,
      same.fonts⟩
    exact congrArg (·.insert annot { a with objects := a.objects ++ [object] }) same.annots

end Document

open Document (Draft)

theorem Document.draft_steady (page : PageId) (annot : AnnotId) (d : Document) :
    Steady annot fun d' => d'.Sound ∧ Draft page annot d d' where
  sound _ kept := kept.1
  edit effect d' d'' edits change kept := by
    refine ⟨kept.1.change change, ?_⟩
    rcases edits with rewrites | ⟨index, empties⟩
    · cases rewrites
      exact kept.2.change_annot change
    · cases empties
      exact kept.2.change_removeEmbedded change
  same _ _ same sound kept := ⟨sound, kept.2.then_same same⟩
  embed _ _ embeds sound kept := ⟨sound, kept.2.embed kept.1 embeds⟩

theorem idxOf?_append_singleton {β : Type} [DecidableEq β] {l : List β} {x : β} (absent : x ∉ l) :
    (l ++ [x]).idxOf? x = some l.length := by
  refine List.idxOf?_eq_some_iff.mpr ⟨by simp, by simp, fun j before same => absent ?_⟩
  rw [List.getElem_append_left before] at same
  exact same ▸ List.getElem_mem before

namespace Document

variable {d d' : Document} {page : PageId} {annot : AnnotId}

theorem issue_eq_some {ι : Type} {result : Option (ι × Document)} {id : ι} :
    d.issue result = (some id, d') ↔ result = some (id, d') := by
  cases result with
  | none => exact ⟨nofun, nofun⟩
  | some issued => simp [issue, Prod.ext_iff]

theorem perform_unfailing {α : Type} {call : Call α} (never : call.failPoint? = none) (d : Document) :
    Library.perform call d = d.run call := by
  have performed : Document.perform call d = d.run call := by rw [Document.perform, never]; rfl
  exact performed

theorem Sound.annot_not_mem {p : Page} (sound : d.Sound) (known : d.pages.get? page = some p)
    (later : d.issued < annot.raw) : annot ∉ p.annots := by
  intro mem
  have old := sound.annots_le annot ((sound.listed_iff annot).mp (mem_listed_of_mem_page known mem))
  omega

theorem Draft.annotIndex (sound : d.Sound) (draft : Draft page annot d d') :
    ∃ p, d.pages.get? page = some p ∧
      Library.perform (.annotIndex page annot) d' = (some p.annots.length, d') := by
  obtain ⟨later, p, a, known, same⟩ := draft
  refine ⟨p, known, ?_⟩
  have pages : d'.pages = d.pages.insert page { p with annots := p.annots ++ [annot] } := same.pages
  have absent : annot ∉ p.annots := sound.annot_not_mem known later
  have found : d'.pages.get? page = some { p with annots := p.annots ++ [annot] } := by
    rw [pages, Table.get?_insert_self]
  rw [perform_unfailing rfl]
  simp only [run, found, Option.bind_some, idxOf?_append_singleton absent]

theorem Draft.removeAnnot (draft : Draft page annot d d') {p : Page} (known : d.pages.get? page = some p)
    (fresh : annot ∉ d.annots.keys) : ∃ d'', d'.removeAnnot page p.annots.length = some d'' ∧ Same d d'' := by
  obtain ⟨later, p', a, known', same⟩ := draft
  cases known.symm.trans known'
  have pages : d'.pages = d.pages.insert page { p with annots := p.annots ++ [annot] } := same.pages
  have annots : d'.annots = d.annots.insert annot a := same.annots
  have found : d'.pages.get? page = some { p with annots := p.annots ++ [annot] } := by
    rw [pages, Table.get?_insert_self]
  have last : (p.annots ++ [annot])[p.annots.length]? = some annot := by simp
  have listed : (p.annots ++ [annot]).eraseIdx p.annots.length = p.annots := by
    rw [List.eraseIdx_append_of_length_le (Nat.le_refl _), Nat.sub_self]
    exact List.append_nil _
  have held : d'.annots.get? annot = some a := by rw [annots, Table.get?_insert_self]
  refine ⟨_, removeAnnot_eq_some.mpr ⟨_, annot, found, last, rfl⟩, ?_⟩
  simp only [releaseAnnot, held, listed]
  refine ⟨?_, same.objects, ?_, same.failing, same.removesQuads, same.issued, same.fonts⟩
  · have restored : d'.pages.insert page p = d.pages := by
      rw [pages, Table.insert_insert, Table.insert_self known]
    exact restored
  · have erased : d'.annots.erase annot = d.annots := by rw [annots, Table.erase_insert fresh]
    exact erased

end Document

namespace Annot

variable {d d' : Document} {annot : AnnotId}

theorem discard_ends {page : PageRef} {fail : Error → Document → Prop} (sound : d.Sound)
    (draft : Draft page.page annot d d') : Ends (discard annot page) d' (fun _ d'' => Same d d'') fail := by
  obtain ⟨p, known, found⟩ := draft.annotIndex sound
  have fresh : annot ∉ d.annots.keys := by
    intro mem
    have old := sound.annots_le annot mem
    have later := draft.later
    omega
  obtain ⟨d'', removed, same⟩ := draft.removeAnnot known fresh
  apply ends_bind.mpr
  apply ends_ask.mpr
  rw [found]
  apply ends_bind.mpr
  apply ends_ask.mpr
  have performed : Library.perform (.removeAnnot page.page p.annots.length) d' = (true, d'') := by
    rw [Document.perform_unfailing rfl]
    exact Document.tell_eq_true.mpr removed
  rw [performed]
  exact ends_pure.mpr same

/-- A new annotation is the last one of the page, and one that cannot be finished leaves nothing behind. -/
theorem create_ends (a : Annot) (page : PageRef) (config : EditConfig) (sound : d.Sound) :
    Ends (a.create page config) d (fun annot d' => d'.Sound ∧ Draft page.page annot d d')
      fun _ d' => Same d d' := by
  have created : Ends (demand .createAnnot (.createAnnot page.page a.kind)) d
      (fun annot d' => d'.Sound ∧ Draft page.page annot d d') fun _ d' => Same d d' := by
    have change := Document.perform_change d (.createAnnot page.page a.kind)
    refine ends_demand.mpr ⟨fun annot answered => ⟨sound.change change, ?_⟩, fun answered => ?_⟩
    · have ran := RefusingLibrary.ran (.createAnnot page.page a.kind) d (by rw [answered]; nofun)
      have issued : d.issue (d.createAnnot page.page a.kind) =
        (some annot, (Library.perform (.createAnnot page.page a.kind) d).2) :=
        Prod.ext (ran.1.symm.trans answered) ran.2.symm
      exact Document.draft_createAnnot (Document.issue_eq_some.mp issued)
    · have same := RefusingLibrary.refused (.createAnnot page.page a.kind) d nofun nofun answered
      have same : (Library.perform (.createAnnot page.page a.kind) d).2 = d := same
      rw [same]
      exact .refl d
  apply ends_bind.mpr
  refine created.mono (fun annot d' made => ?_) fun _ _ => id
  -- Whatever the update does before it fails, only the annotation it fills and what that holds are new.
  have kept := update_keeps (Document.draft_steady page.page annot d) a page config d' made
  apply ends_bind.mpr
  apply ends_orUndo.mpr
  refine kept.mono (fun _ d'' draft => ?_) fun _ d'' draft => ?_
  · exact ends_pure.mpr draft
  · exact discard_ends sound draft.2

end Annot

def Page.finished (p : Page) (config : EditConfig) : Page :=
  { p with generations := p.generations + if config.regenerateContent then 1 else 0 }

namespace Editor

variable {e : Editor} {d : Document} {p : Page} {fail : Error → Editor × Document → Prop}

def Leaves (e : Editor) (p' : Page) (d d' : Document) : Prop :=
  d'.pages = d.pages.insert e.page.page (p'.finished e.config)

theorem finish_ends {ok : Unit → Editor × Document → Prop} (known : d.pages.get? e.page.page = some p)
    (done : ok () (e, { d with pages := d.pages.insert e.page.page (p.finished e.config) })) :
    Ends finish (e, d) ok fail := by
  apply ends_onLibrary.mpr
  by_cases regenerates : e.config.regenerateContent = true
  · rw [if_pos regenerates]
    have changed : d.changePage e.page.page (fun p => some { p with generations := p.generations + 1 }) =
        some { d with pages := d.pages.insert e.page.page (p.finished e.config) } := by
      rw [Document.changePage_eq_some]
      exact ⟨p, _, known, rfl, by rw [Page.finished, if_pos regenerates]⟩
    have generated : Library.perform (.generateContent e.page.page) d =
        (true, { d with pages := d.pages.insert e.page.page (p.finished e.config) }) := by
      rw [Document.perform_unfailing rfl]
      exact Document.tell_eq_true.mpr changed
    apply ends_insist.mpr
    rw [generated]
    exact ⟨fun _ => done, nofun⟩
  · rw [if_neg regenerates]
    have unchanged : p.finished e.config = p := by rw [Page.finished, if_neg regenerates]; rfl
    rw [unchanged, Table.insert_self known] at done
    exact ends_pure.mpr done

theorem objectCount_ends {ok : Nat → Editor × Document → Prop} (known : d.pages.get? e.page.page = some p)
    (done : ok p.objects.length (e, d)) : Ends objectCount (e, d) ok fail := by
  apply ends_onLibrary.mpr
  apply ends_demand.mpr
  rw [Document.perform_unfailing rfl]
  simp only [Document.run, known, Option.map_some]
  constructor
  · rintro _ ⟨⟩
    exact done
  · intro absent
    cases absent

theorem annotCount_ends {ok : Nat → Editor × Document → Prop} (known : d.pages.get? e.page.page = some p)
    (done : ok p.annots.length (e, d)) : Ends annotCount (e, d) ok fail := by
  apply ends_onLibrary.mpr
  apply ends_demand.mpr
  rw [Document.perform_unfailing rfl]
  simp only [Document.run, known, Option.map_some]
  constructor
  · rintro _ ⟨⟩
    exact done
  · intro absent
    cases absent

theorem addObject_ends (o : PageObject) (sound : d.Sound) :
    Ends (addObject o) (e, d)
      (fun n s' => ∃ p, d.pages.get? e.page.page = some p ∧ n = p.objects.length ∧
        s'.1 = { e with cache := none } ∧
        ∃ object, d.issued < object.raw ∧ s'.2.isLive object = true ∧
          e.Leaves { p with objects := p.objects ++ [object] } d s'.2)
      fun _ s' => s'.1 = e ∧ Same d s'.2 := by
  have placed := ends_place (σ := Document) .insertObject (.insertObject e.page.page) o e.page sound
    (fun _ => rfl) nofun nofun
  apply ends_bind.mpr
  apply ends_onLibrary.mpr
  refine placed.mono (fun _ d' => ?_) fun _ d' failed => ⟨rfl, failed.2⟩
  rintro ⟨-, object, middle, -, adds, inserted⟩
  obtain ⟨live, -, p, known, rfl⟩ := Document.insertObject_eq_some.mp (Document.tell_eq_true.mp inserted)
  obtain ⟨o', same⟩ := adds.same
  have pages : (document middle).pages = d.pages := same.pages
  apply ends_bind.mpr
  apply ends_setCache.mpr
  apply ends_bind.mpr
  apply finish_ends (Table.get?_insert_self ..)
  apply ends_bind.mpr
  apply objectCount_ends (Table.get?_insert_self ..)
  apply ends_pure.mpr
  refine ⟨p, pages ▸ known, ?_, rfl, object, adds.later, live, ?_⟩
  · simp [Page.finished]
  · simp only [Leaves, Table.insert_insert, pages]

theorem addAnnot_ends (a : Annot) (sound : d.Sound) :
    Ends (addAnnot a) (e, d)
      (fun n s' => ∃ p, d.pages.get? e.page.page = some p ∧ n = p.annots.length ∧ s'.1 = e ∧
        ∃ annot, d.issued < annot.raw ∧ annot ∈ s'.2.annots.keys ∧
          e.Leaves { p with annots := p.annots ++ [annot] } d s'.2)
      fun _ s' => s'.1 = e ∧ Same d s'.2 := by
  have created := a.create_ends e.page e.config sound
  apply ends_bind.mpr
  apply ends_onLibrary.mpr
  refine created.mono (fun annot d' => ?_) fun _ d' same => ⟨rfl, same⟩
  rintro ⟨-, draft⟩
  obtain ⟨p, known, found⟩ := draft.annotIndex sound
  obtain ⟨p', a', known', same⟩ := draft.same
  cases known.symm.trans known'
  have pages : d'.pages = d.pages.insert e.page.page { p with annots := p.annots ++ [annot] } := same.pages
  have annots : d'.annots = d.annots.insert annot a' := same.annots
  apply ends_bind.mpr
  apply ends_onLibrary.mpr
  apply ends_ask.mpr
  rw [found]
  have page : d'.pages.get? e.page.page = some { p with annots := p.annots ++ [annot] } := by
    rw [pages, Table.get?_insert_self]
  apply ends_bind.mpr
  apply ends_pure.mpr
  apply ends_bind.mpr
  apply finish_ends page
  apply ends_pure.mpr
  refine ⟨p, known, rfl, rfl, annot, draft.later, ?_, ?_⟩
  · rw [annots]
    exact Table.mem_keys_insert.mpr (.inl rfl)
  · rw [Leaves, pages, Table.insert_insert]

end Editor

/-- A creation that fails, on its own or as an edit of a page, leaves the pages, the objects and the
annotations as they were, and the editor as well. -/
theorem creation_rolls_back {d : Document} (reachable : d.Reachable) (page : PageRef) (e : Editor)
    (o : PageObject) (a : Annot) (config : EditConfig) :
    (∀ error d', o.create page d = (.error error, d') → Same d d') ∧
    (∀ error d', a.create page config d = (.error error, d') → Same d d') ∧
    (∀ error e' d', Editor.addObject o (e, d) = (.error error, e', d') → e' = e ∧ Same d d') ∧
    ∀ error e' d', Editor.addAnnot a (e, d) = (.error error, e', d') → e' = e ∧ Same d d' := by
  have sound := reachable.sound
  have object : Ends (o.create page) d _ fun _ d' => Same d d' := o.create_ends (s := d) page sound
  have annot := a.create_ends page config sound
  have addObject := Editor.addObject_ends (e := e) o sound
  have addAnnot := Editor.addAnnot_ends (e := e) a sound
  refine ⟨?_, ?_, ?_, ?_⟩
  · intro error d' failed
    exact object.of_error failed
  · intro error d' failed
    exact annot.of_error failed
  · intro error e' d' failed
    exact addObject.of_error failed
  · intro error e' d' failed
    exact addAnnot.of_error failed

theorem unstyled_stamp_rolls_back :
    ∃ (d : Document) (o : PageObject), d.Reachable ∧
      (Annot.create (.stamp ⟨⟨0, 0, 10, 10⟩, [some o]⟩) ⟨⟨1⟩, ⟨2⟩⟩ {} d).1 = .error
        (.refused .setStrokeWidth) ∧
      Same d (Annot.create (.stamp ⟨⟨0, 0, 10, 10⟩, [some o]⟩) ⟨⟨1⟩, ⟨2⟩⟩ {} d).2 := by
  let d : Document := ((Document.empty false).createDocument.2.addPage 792).2.failOn .setStrokeWidth
  let o : PageObject := ⟨.path [⟨.move, 1, 1, false⟩] false true, .plain⟩
  let a : Annot := .stamp ⟨⟨0, 0, 10, 10⟩, [some o]⟩
  let page : PageRef := ⟨⟨1⟩, ⟨2⟩⟩
  have reachable : d.Reachable :=
    (((Document.reachable_empty false).step .createDocument).step (.addPage 792)).step
      (.failOn .setStrokeWidth)
  have fails : (a.create page {} d).1 = .error (.refused .setStrokeWidth) := by decide +kernel
  have rolls := (creation_rolls_back reachable page (Editor.openOn page {}) o a {}).2.1
  have same : Same d (a.create page {} d).2 := by
    generalize a.create page {} d = ended at fails rolls ⊢
    obtain ⟨result, d'⟩ := ended
    cases fails
    exact rolls _ d' rfl
  exact ⟨d, o, reachable, fails, same⟩

end PageContent
