import Mathlib.Data.Set.Basic
import PageContent.Library.Faults
import PageContent.Proofs.Creation
import PageContent.Proofs.Editing
import PageContent.Proofs.Run

namespace PageContent

open Document (Change Same Adds)

/-- What neither makes, moves nor destroys an object, unless an annotation takes it along. -/
def Effect.Quiet : Effect → Prop
  | .nothing | .object _ | .annot _ | .content _ | .newFont => True
  | .newAnnot _ | .removeAnnot .. | .removeEmbedded .. => True
  | .newObject | .insert .. | .detach .. | .destroy _ | .embed .. | .setup => False

namespace Document

variable {d d' d'' : Document} {effect : Effect} {object : ObjectId}

/-- The objects that nothing holds. -/
def detached (d : Document) : Set ObjectId := { object | object ∈ d.objects.keys ∧ object ∉ d.held }

theorem detached_drop (gone : List ObjectId) (less : d.held.Perm (gone ++ d'.held))
    (left : ∀ object, object ∈ d'.objects.keys ↔ object ∈ d.objects.keys ∧ object ∉ gone) :
    d'.detached = d.detached := by
  ext object
  have held : object ∈ d.held ↔ object ∈ gone ∨ object ∈ d'.held := less.mem_iff.trans List.mem_append
  simp only [detached, Set.mem_ofPred_eq, left, held, not_or, and_assoc]

theorem detached_keep (same : d'.held.Perm d.held)
    (keys : ∀ object, object ∈ d'.objects.keys ↔ object ∈ d.objects.keys) :
    d'.detached = d.detached := by
  apply detached_drop [] same.symm
  intro object
  rw [keys object]
  simp

theorem Change.detached_eq (sound : d.Sound) (change : d.Change effect d') (quiet : effect.Quiet) :
    d'.detached = d.detached := by
  cases change with
  | nothing | newFont => rfl
  | newObject | insert | detach | destroy | embed | newDocument | newPage | settings => exact quiet.elim
  | object object o o' known =>
      apply detached_keep
      · exact .refl _
      · intro other
        rw [Table.keys_insert_of_mem (Table.mem_keys_of_get? known)]
  | annot annot a a' known kind objects => exact detached_keep (held_setAnnot_same known a' objects) fun _ => .rfl
  | content page p known => exact detached_keep (held_setPage_same known _ rfl) fun _ => .rfl
  | newAnnot page kind p known => exact detached_keep (held_newAnnot sound.toNumbered known kind) fun _ => .rfl
  | removeAnnot page index p annot known listed =>
      obtain ⟨gone, less, objects⟩ := held_removeAnnot known index annot rfl
      apply detached_drop gone less
      intro object
      rw [objects]
      exact Table.mem_keys_foldl_erase
  | removeEmbedded annot index a object known held =>
      apply detached_drop [object]
      · exact held_removeEmbedded known held
      · intro other
        rw [List.mem_singleton]
        exact Table.mem_keys_erase

theorem Same.detached_eq (same : Same d d') : d'.detached = d.detached := by
  rw [detached, detached, same.held_eq, same.objects]

theorem Adds.detached_eq (sound : d.Sound) (adds : Adds object d d') (objects : d''.objects = d'.objects)
    (more : d''.held.Perm (object :: d'.held)) : d''.detached = d.detached := by
  obtain ⟨o, same⟩ := adds.same
  have fresh : object ∉ d.objects.keys := sound.not_mem_of_later adds.later
  ext other
  have keys : other ∈ d''.objects.keys ↔ other = object ∨ other ∈ d.objects.keys := by
    rw [objects, same.objects]
    exact Table.mem_keys_insert
  have held : other ∈ d''.held ↔ other = object ∨ other ∈ d.held := by
    rw [more.mem_iff, List.mem_cons, adds.held_eq]
  simp only [detached, Set.mem_ofPred_eq, keys, held, not_or]
  constructor
  · rintro ⟨isObject | mem, other, free⟩
    · exact absurd isObject other
    · exact ⟨mem, free⟩
  · rintro ⟨mem, free⟩
    refine ⟨.inr mem, ?_, free⟩
    rintro rfl
    exact fresh mem

def Loose (free : Set ObjectId) (d : Document) : Prop := d.Sound ∧ d.detached = free

variable {free : Set ObjectId}

theorem Loose.change (loose : Loose free d) (change : d.Change effect d') (quiet : effect.Quiet) :
    Loose free d' :=
  ⟨loose.1.change change, (change.detached_eq loose.1 quiet).trans loose.2⟩

theorem Loose.same (loose : Loose free d) (same : Same d d') (sound : d'.Sound) : Loose free d' :=
  ⟨sound, same.detached_eq.trans loose.2⟩

theorem Loose.insertObject {page : PageId} (loose : Loose free d) (adds : Adds object d d')
    (inserted : d'.insertObject page object = some d'') (sound : d''.Sound) : Loose free d'' := by
  obtain ⟨-, -, p, known, rfl⟩ := insertObject_eq_some.mp inserted
  refine ⟨sound, (adds.detached_eq loose.1 ?_ ?_).trans loose.2⟩
  · rfl
  · exact held_insertObject known object

theorem Loose.embed {annot : AnnotId} (loose : Loose free d) (embeds : Embeds annot d d') (sound : d'.Sound) :
    Loose free d' := by
  rcases embeds with same | ⟨object, middle, adds, embedded⟩
  · exact loose.same same sound
  · obtain ⟨-, -, a, known, rfl⟩ := embedObject_eq_some.mp embedded
    refine ⟨sound, (adds.detached_eq loose.1 ?_ ?_).trans loose.2⟩
    · rfl
    · exact held_embedObject known object

theorem loose_steady (annot : AnnotId) (free : Set ObjectId) : Steady annot (Loose free) where
  sound _ loose := loose.1
  edit effect d d' edits change loose := by
    rcases edits with rewrites | ⟨index, empties⟩
    · cases rewrites
      exact loose.change change trivial
    · cases empties
      exact loose.change change trivial
  same _ _ same sound loose := loose.same same sound
  embed _ _ embeds sound loose := loose.embed embeds sound

theorem Loose.remove {page : PageId} (loose : Loose free d)
    (detaches : d.detachObject page object = some d') :
    Loose free (d'.destroyObject object) := by
  have absent := loose.1.not_mem_of_detachObject detaches
  have sound : d'.Sound := by
    have change := run_change d (.detachObject page object)
    have ran : d.run (.detachObject page object) = (true, d') := tell_eq_true.mpr detaches
    rw [ran] at change
    exact loose.1.change change
  refine ⟨sound.change (run_change d' (.destroyObject object)), ?_⟩
  rw [destroyObject_eq absent]
  obtain ⟨p, known, mem, rfl⟩ := detachObject_eq_some.mp detaches
  refine Eq.trans (detached_drop [object] ?_ ?_) loose.2
  · exact held_detachObject known mem
  · intro other
    rw [List.mem_singleton]
    exact Table.mem_keys_erase

theorem Owned.liveCount_eq (owned : d.Owned) (none : d.detached = ∅) : d.liveCount = d.held.length := by
  have all : ∀ object, object ∈ d.objects.keys ↔ object ∈ d.held := by
    intro object
    constructor
    · intro live
      by_contra free
      have : object ∈ d.detached := ⟨live, free⟩
      rw [none] at this
      exact this
    · exact owned.held_live object
  have same : d.objects.keys.Perm d.held :=
    (List.perm_ext_iff_of_nodup d.objects.nodup owned.held_nodup).mpr all
  rw [liveCount, ← Table.length_keys]
  exact same.length_eq

end Document

open Document (Loose)

variable {σ α : Type} [RefusingLibrary σ] {free : Set ObjectId}

theorem Only.keeps_loose {edit : Edit σ α} (only : Only Effect.Quiet edit) : Keeps (Loose free) edit :=
  only.keeps fun _ _ _ quiet change loose => loose.change change quiet

theorem quiet_of_looks {effect : Effect} (looks : effect.Looks) : effect.Quiet := by
  obtain ⟨object, rfl⟩ := looks
  trivial

theorem Annot.create_keeps (a : Annot) (page : PageRef) (config : EditConfig) :
    Keeps (Loose free) (a.create page config : Edit σ AnnotId) := by
  have discarded : ∀ annot, Only Effect.Quiet (discard annot page : Edit σ Unit) := by
    intro annot
    refine only_bind (only_ask (.inl rfl)) fun found => ?_
    cases found with
    | none => exact only_pure
    | some index => exact only_bind (only_ask (.inr trivial)) fun _ => only_pure
  have created : Only Effect.Quiet (demand .createAnnot (.createAnnot page.page a.kind) : Edit σ AnnotId) :=
    only_demand (.inr trivial)
  apply keeps_bind created.keeps_loose
  intro annot
  have updated : Keeps (Loose free) (a.update annot page config : Edit σ Unit) :=
    update_keeps (Document.loose_steady annot free) a page config
  exact keeps_bind (keeps_orUndo updated (discarded annot).keeps_loose) fun _ => keeps_pure

namespace Editor

theorem finish_keeps : Keeps (Loose free) (finish : Editing σ Unit) := by
  apply keeps_onLibrary
  intro e
  split
  case isTrue =>
    have generated : Only Effect.Quiet
      (insist .generateContent (.generateContent e.page.page) : Edit σ Unit) :=
      only_insist (.inr trivial)
    exact generated.keeps_loose
  case isFalse => exact keeps_pure

theorem objectCount_keeps : Keeps (Loose free) (objectCount : Editing σ Nat) := by
  apply keeps_onLibrary
  intro e
  exact Only.keeps_loose (only_demand (.inl rfl))

theorem annotCount_keeps : Keeps (Loose free) (annotCount : Editing σ Nat) := by
  apply keeps_onLibrary
  intro e
  exact Only.keeps_loose (only_demand (.inl rfl))

theorem objectAt_keeps (index : Nat) : Keeps (Loose free) (objectAt index : Editing σ ObjectId) := by
  apply keeps_bind objectCount_keeps
  intro length
  apply keeps_guard
  apply keeps_onLibrary
  intro e
  exact Only.keeps_loose (only_demand (.inl rfl))

theorem checkAnnotIndex_keeps (index : Nat) : Keeps (Loose free) (checkAnnotIndex index : Editing σ Unit) := by
  apply keeps_bind annotCount_keeps
  intro length
  split
  case isTrue => exact keeps_throw
  case isFalse => exact keeps_pure

theorem objects_keeps (refetch : Bool) :
    Keeps (Loose free) (objects refetch : Editing σ (List (Option PageObject))) := by
  have read : Keeps (Loose free) (do
      let objects ← readObjects
      setCache (some objects)
      pure objects : Editing σ (List (Option PageObject))) := by
    refine keeps_bind (keeps_bind objectCount_keeps fun count => keeps_onLibrary fun e => ?_)
      fun objects => ?_
    · have slots : Only Effect.Looks ((List.range count).mapM (readSlot e.page) : Edit σ _) :=
        only_mapM _ (readSlot_only e.page)
      exact (slots.mono fun _ => quiet_of_looks).keeps_loose
    · exact keeps_bind (keeps_setCache _) fun _ => keeps_pure
  apply keeps_bind keeps_cached
  intro cached
  split
  · exact keeps_pure
  · exact read

theorem addObject_keeps (o : PageObject) : Keeps (Loose free) (addObject o : Editing σ Nat) := by
  have placed : ∀ e : Editor, Keeps (Loose free) (do
      let object ← o.create e.page
      unless ← ask (.insertObject e.page.page object) do
        ask (.destroyObject object)
        throw (.refused .insertObject) : Edit σ Unit) := by
    intro e s loose
    have ends := ends_place .insertObject (.insertObject e.page.page) o e.page loose.1
      (fun _ => rfl) nofun nofun
    refine ends.mono (fun _ s' => ?_) fun _ s' => ?_
    · rintro ⟨sound, object, middle, -, adds, inserted⟩
      exact loose.insertObject adds (Document.tell_eq_true.mp inserted) sound
    · rintro ⟨sound, same⟩
      exact loose.same same sound
  apply keeps_bind (keeps_onLibrary placed)
  intro _
  apply keeps_bind (keeps_setCache none)
  intro _
  exact keeps_bind finish_keeps fun _ => keeps_bind objectCount_keeps fun _ => keeps_pure

theorem updateObject_keeps (index : Nat) (o : PageObject) :
    Keeps (Loose free) (updateObject index o : Editing σ Unit) := by
  apply keeps_bind (objectAt_keeps index)
  intro object
  refine keeps_bind (keeps_onLibrary fun e => ?_) fun _ => ?_
  · have updated : Only (Effect.Rewrites object) (o.update object e.page : Edit σ Unit) :=
      o.update_only object e.page
    exact (updated.mono fun _ rewrites => quiet_of_looks ⟨object, rewrites⟩).keeps_loose
  · exact keeps_bind keeps_cached fun _ => keeps_bind (keeps_setCache _) fun _ => finish_keeps

theorem removeObject_keeps (index : Nat) : Keeps (Loose free) (removeObject index : Editing σ Unit) := by
  apply keeps_bind (objectAt_keeps index)
  intro object
  have removed : ∀ e : Editor, Keeps (Loose free) (do
      insist .removeObject (.detachObject e.page.page object)
      ask (.destroyObject object) : Edit σ Unit) := by
    intro e s loose
    apply ends_bind.mpr
    refine ends_insist.mpr ⟨fun answered => ?_, fun answered => ?_⟩
    · have ran := RefusingLibrary.ran (.detachObject e.page.page object) s (by rw [answered]; nofun)
      have detached := Document.tell_eq_true.mp (Prod.ext (ran.1.symm.trans answered) ran.2.symm)
      apply ends_ask.mpr
      rw [RefusingLibrary.destroys]
      exact loose.remove detached
    · have kept := RefusingLibrary.refused (.detachObject e.page.page object) s nofun nofun answered
      rw [kept]
      exact loose
  apply keeps_bind (keeps_onLibrary removed)
  intro _
  exact keeps_bind (keeps_setCache none) fun _ => finish_keeps

theorem annots_keeps : Keeps (Loose free) (annots : Editing σ (List (Option Annot))) := by
  apply keeps_bind annotCount_keeps
  intro count
  apply keeps_onLibrary
  intro e
  have slots : Only Effect.Looks ((List.range count).mapM (readAnnotSlot e.page) : Edit σ _) :=
    only_mapM _ (readAnnotSlot_only e.page)
  exact (slots.mono fun _ => quiet_of_looks).keeps_loose

theorem addAnnot_keeps (a : Annot) : Keeps (Loose free) (addAnnot a : Editing σ Nat) := by
  apply keeps_bind (keeps_onLibrary fun e => a.create_keeps e.page e.config)
  intro annot
  have asked : ∀ e : Editor, Keeps (Loose free) (ask (.annotIndex e.page.page annot) : Edit σ (Option Nat)) :=
    fun e => Only.keeps_loose (only_ask (.inl rfl))
  have done : ∀ index : Nat, Keeps (Loose free) (do finish; pure index : Editing σ Nat) :=
    fun index => keeps_bind finish_keeps fun _ => keeps_pure
  apply keeps_bind (keeps_onLibrary asked)
  intro found
  cases found with
  | some index => exact keeps_bind keeps_pure done
  | none => exact keeps_bind annotCount_keeps fun count => keeps_bind keeps_pure done

theorem updateAnnot_keeps (index : Nat) (a : Annot) :
    Keeps (Loose free) (updateAnnot index a : Editing σ Unit) := by
  apply keeps_bind (checkAnnotIndex_keeps index)
  intro _
  refine keeps_bind (keeps_onLibrary fun e => ?_) fun _ => finish_keeps
  have found : Only Effect.Quiet (demand .getAnnot (.annotAt e.page.page index) : Edit σ AnnotId) :=
    only_demand (.inl rfl)
  apply keeps_bind found.keeps_loose
  intro annot
  exact a.update_keeps (Document.loose_steady annot free) e.page e.config

theorem removeAnnot_keeps (index : Nat) : Keeps (Loose free) (removeAnnot index : Editing σ Unit) := by
  apply keeps_bind (checkAnnotIndex_keeps index)
  intro _
  refine keeps_bind (keeps_onLibrary fun e => ?_) fun _ => finish_keeps
  have removed : Only Effect.Quiet (insist .removeAnnot (.removeAnnot e.page.page index) : Edit σ Unit) :=
    only_insist (.inr trivial)
  exact removed.keeps_loose

theorem Action.run_keeps (action : Action) : Keeps (Loose free) (action.run : Editing σ Unit) := by
  cases action with
  | height => exact keeps_map (keeps_onLibrary fun e => Only.keeps_loose (readPageHeight_only e.page.page))
  | objects refetch => exact keeps_map (objects_keeps refetch)
  | object index => exact keeps_map (keeps_bind (objects_keeps false) fun _ => keeps_pure)
  | addObject o => exact keeps_map (addObject_keeps o)
  | updateObject index o => exact updateObject_keeps index o
  | removeObject index => exact removeObject_keeps index
  | annots => exact keeps_map annots_keeps
  | addAnnot a => exact keeps_map (addAnnot_keeps a)
  | updateAnnot index a => exact updateAnnot_keeps index a
  | removeAnnot index => exact removeAnnot_keeps index

inductive Edited (s : σ) : σ → Prop
  | start : Edited s s
  | act {s'} (edited : Edited s s') (e : Editor) (action : Action) : Edited s (action.run (e, s')).2.2

theorem Edited.loose {s s' : σ} (edited : Edited s s') (loose : Loose free (document s)) :
    Loose free (document s') := by
  -- An action is not one step of the document, so that its soundness has to go through the induction too.
  induction edited with
  | start => exact loose
  | act edited e action ih =>
      have keeps : Keeps (Loose free) (action.run : Editing σ Unit) := action.run_keeps
      exact (keeps (e, _) ih).after

/-- Whatever is refused, an action leaves the same objects detached, whether it fails or not. So where none
was detached at first, the objects that there are remain those that are held. -/
theorem edits_leak_nothing {s s' : σ} (reachable : (document s).Reachable) (edited : Edited s s') :
    (document s').detached = (document s).detached ∧
      (∀ e (action : Action), (document (action.run (e, s')).2.2).detached = (document s').detached) ∧
      ((document s).detached = ∅ → (document s').liveCount = (document s').held.length) := by
  have kept : Loose (document s).detached (document s') := edited.loose ⟨reachable.sound, rfl⟩
  refine ⟨kept.2, fun e action => ?_, fun none => ?_⟩
  · have next : Loose (document s).detached (document (action.run (e, s')).2.2) :=
      (edited.act e action).loose ⟨reachable.sound, rfl⟩
    exact next.2.trans kept.2.symm
  · have sound := kept.1
    exact sound.liveCount_eq (kept.2.trans none)

end Editor

namespace Faulty

/-- The faults refuse calls and tell nothing instead, and let every object be destroyed. -/
def Refuses (s : Faulty σ) : Prop := ∀ f ∈ s.faults, f.method ≠ .destroyObject ∧ f.value = none

theorem struck_none (s : Faulty Document) (call : Call α) : struck none s call = (call.refused, s) := by
  cases call <;> rfl

theorem Refuses.perform {s : Faulty Document} (refuses : s.Refuses) (call : Call α) :
    (perform call s).2.Refuses ∧
      (((perform call s).1 = (Document.perform call s.inner).1 ∧
        (perform call s).2.inner = (Document.perform call s.inner).2) ∨
        (call.method ≠ .destroyObject ∧ (perform call s).1 = call.refused ∧
          (perform call s).2.inner = s.inner)) := by
  rw [Faulty.perform]
  split
  case isTrue basic =>
    refine ⟨refuses, .inr ⟨?_, rfl, rfl⟩⟩
    rcases basic.2 with method | method <;> rw [method] <;> nofun
  case isFalse =>
    split
    case h_1 => exact ⟨refuses, .inl ⟨rfl, rfl⟩⟩
    case h_2 f found =>
      obtain ⟨method, calls, value, seen⟩ := f
      obtain ⟨spared, rfl⟩ : method ≠ .destroyObject ∧ value = none :=
        refuses _ (List.mem_of_find?_eq_some found)
      have struck : method = call.method := by simpa using List.find?_some found
      have refuses' : (s.setFault ⟨method, calls, none, seen + 1⟩).Refuses := by
        intro g mem
        rcases List.mem_cons.mp mem with rfl | mem
        · exact ⟨spared, rfl⟩
        · exact refuses g (List.mem_of_mem_filter mem)
      simp only [struck_none]
      split
      case isTrue => exact ⟨refuses', .inr ⟨struck ▸ spared, rfl, rfl⟩⟩
      case isFalse => exact ⟨refuses', .inl ⟨rfl, rfl⟩⟩

instance : RefusingLibrary { s : Faulty Document // s.Refuses } where
  perform call s := ((perform call s.1).1, ⟨(perform call s.1).2, (s.2.perform call).1⟩)
  document s := s.1.inner
  performs_or_refuses call s := (s.2.perform call).2

end Faulty

theorem Editor.refused_insertion_leaks_nothing :
    ∃ s : { s : Faulty Document // s.Refuses }, (document s).Reachable ∧ ∀ e (o : PageObject),
      (document ((Action.addObject o).run (e, s)).2.2).liveCount =
        (document ((Action.addObject o).run (e, s)).2.2).held.length := by
  let d : Document := ((Document.empty false).createDocument.2.addPage 792).2
  have reachable : d.Reachable := ((Document.reachable_empty false).step .createDocument).step (.addPage 792)
  have refuses : (⟨d, false, [⟨.insertObject, some [1], none, 0⟩]⟩ : Faulty Document).Refuses := by
    intro f mem
    rw [List.mem_singleton.mp mem]
    exact ⟨nofun, rfl⟩
  refine ⟨⟨_, refuses⟩, reachable, fun e o => ?_⟩
  have none : d.detached = ∅ := by
    ext object
    exact ⟨fun free => absurd free.1 List.not_mem_nil, False.elim⟩
  exact (edits_leak_nothing reachable (.act .start e (.addObject o))).2.2 none

end PageContent
