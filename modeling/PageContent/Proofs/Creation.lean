import PageContent.Proofs.Sound
import PageContent.Proofs.Touch

namespace PageContent

open Document (Change)
open Effect (Rewrites RewritesAnnot Empties)

namespace Document

variable {d d' d'' : Document}

theorem tell_false {result : Option Document} (refused : (d.tell result).1 = false) : (d.tell result).2 = d := by
  cases result with
  | none => rfl
  | some d' => cases refused

theorem issue_none {ι : Type} {result : Option (ι × Document)} (refused : (d.issue result).1 = none) :
    (d.issue result).2 = d := by
  cases result with
  | none => rfl
  | some issued => cases refused

theorem run_refused (d : Document) {α : Type} (call : Call α) (destroys : call.method ≠ .destroyObject)
    (transforms : call.method ≠ .transform) (refused : (d.run call).1 = call.refused) : (d.run call).2 = d := by
  cases call with
  | transform => exact absurd rfl transforms
  | destroyObject => exact absurd rfl destroys
  | createText | createAnnot => exact issue_none refused
  | createPath | createImage | loadFont => cases refused
  | insertObject | detachObject | generateContent | setMatrix | setColor | setStrokeWidth | addSegment | closePath
  | setDrawMode | setBitmap | setText | setRenderMode | removeAnnot | setAnnotRect | embed | removeEmbedded | setQuad
  | appendQuad | removeQuad | setAnnotString | setAnnotColor => exact tell_false refused
  | _ => rfl

/-- The document has the pages, objects and annotations that it had. Handles may have been given out, and
fonts loaded. -/
structure Same (d d' : Document) : Prop where
  pages : d'.pages = d.pages
  objects : d'.objects = d.objects
  annots : d'.annots = d.annots
  failing : d'.failing = d.failing
  removesQuads : d'.removesQuads = d.removesQuads
  issued : d.issued ≤ d'.issued
  fonts : d.fonts.entries <+: d'.fonts.entries

theorem Same.refl (d : Document) : Same d d := ⟨rfl, rfl, rfl, rfl, rfl, Nat.le_refl _, List.prefix_refl _⟩

theorem Same.trans (first : Same d d') (second : Same d' d'') : Same d d'' where
  pages := second.pages.trans first.pages
  objects := second.objects.trans first.objects
  annots := second.annots.trans first.annots
  failing := second.failing.trans first.failing
  removesQuads := second.removesQuads.trans first.removesQuads
  issued := first.issued.trans second.issued
  fonts := first.fonts.trans second.fonts

theorem Same.held_eq (same : Same d d') : d'.held = d.held := by
  rw [held, held, same.pages, same.annots]

/-- The document has one object more. It is new, and nothing holds it. -/
structure Adds (object : ObjectId) (d d' : Document) : Prop where
  later : d.issued < object.raw
  issued : object.raw ≤ d'.issued
  same : ∃ o, Same { d with objects := d.objects.insert object o } d'

variable {object : ObjectId}

theorem Same.adds (same : Same d d') (adds : Adds object d' d'') : Adds object d d'' := by
  obtain ⟨o, rest⟩ := adds.same
  have start : Same { d with objects := d.objects.insert object o }
    { d' with objects := d'.objects.insert object o } :=
    ⟨same.pages, congrArg (·.insert object o) same.objects, same.annots, same.failing, same.removesQuads,
      same.issued, same.fonts⟩
  exact ⟨same.issued.trans_lt adds.later, adds.issued, o, start.trans rest⟩

theorem adds_createObject (d : Document) (content : StoredContent) :
    Adds (d.createObject content).1 d (d.createObject content).2 :=
  ⟨Nat.lt_succ_self _, Nat.le_refl _, .new content, rfl, rfl, rfl, rfl, rfl, Nat.le_succ _,
    List.prefix_refl _⟩

theorem Adds.change (adds : Adds object d d') (change : d'.Change (.object object) d'') : Adds object d d'' := by
  obtain ⟨o, same⟩ := adds.same
  cases change with
  | nothing => exact adds
  | object _ _ o' =>
      refine ⟨adds.later, adds.issued, o', same.pages, ?_, same.annots, same.failing, same.removesQuads,
        same.issued, same.fonts⟩
      have objects : d'.objects.insert object o' = (d.objects.insert object o).insert object o' := by
        rw [same.objects]
      exact objects.trans (Table.insert_insert ..)

theorem Numbered.not_mem_of_later (numbered : d.Numbered) (later : d.issued < object.raw) :
    object ∉ d.objects.keys := by
  intro mem
  have := numbered.objects_le object mem
  omega

theorem Adds.held_eq (adds : Adds object d d') : d'.held = d.held := by
  obtain ⟨o, same⟩ := adds.same
  exact same.held_eq

theorem Adds.free (sound : d.Sound) (adds : Adds object d d') : object ∉ d'.held := by
  rw [adds.held_eq]
  intro held
  exact sound.not_mem_of_later adds.later (sound.held_live object held)

theorem Adds.destroy (sound : d.Sound) (adds : Adds object d d') : Same d (d'.destroyObject object) := by
  rw [destroyObject_eq (adds.free sound)]
  obtain ⟨o, same⟩ := adds.same
  refine ⟨same.pages, ?_, same.annots, same.failing, same.removesQuads, same.issued, same.fonts⟩
  have objects : d'.objects.erase object = (d.objects.insert object o).erase object := by rw [same.objects]
  exact objects.trans (Table.erase_insert (sound.not_mem_of_later adds.later) o)

theorem tell_eq_true {result : Option Document} : d.tell result = (true, d') ↔ result = some d' := by
  cases result with
  | none => exact ⟨nofun, nofun⟩
  | some d'' => simp [tell]

end Document

open Document (Same Adds)

inductive Call.Creates : Call (Option ObjectId) → Prop
  | path (x y) : Creates (.createPath x y)
  | image (document) : Creates (.createImage document)
  | text (document font size) : Creates (.createText document font size)

theorem Document.run_creates {d : Document} {call : Call (Option ObjectId)} (creates : call.Creates)
    {object : ObjectId} (answered : (d.run call).1 = some object) : Adds object d (d.run call).2 := by
  cases creates with
  | path | image =>
      cases answered
      exact adds_createObject d _
  | text document font size =>
      simp only [run] at answered ⊢
      split at answered
      case isTrue loaded =>
        cases answered
        rw [if_pos loaded]
        exact adds_createObject d _
      case isFalse => cases answered

theorem Document.loadFont_same {d d' : Document} (sound : d.Sound) (change : d.Change .newFont d') :
    Same d d' := by
  cases change with
  | nothing => exact .refl d
  | newFont name =>
      refine ⟨rfl, rfl, rfl, rfl, rfl, Nat.le_succ _, ?_⟩
      rw [Table.entries_insert_of_not_mem sound.font_fresh]
      exact List.prefix_append _ _

variable {σ α : Type} [RefusingLibrary σ]

namespace RefusingLibrary

theorem failPoint?_destroyObject (call : Call α) (destroys : call.method = .destroyObject) :
    call.failPoint? = none := by
  cases call with
  | destroyObject => rfl
  | _ => cases destroys

theorem runs_or_refuses (call : Call α) (s : σ) :
    ((Library.perform call s).1 = ((document s).run call).1 ∧
      document (Library.perform call s).2 = ((document s).run call).2) ∨
    (call.method ≠ .destroyObject ∧ (Library.perform call s).1 = call.refused ∧
      document (Library.perform call s).2 = document s) := by
  rcases performs_or_refuses call s with ⟨answer, after⟩ | refused
  · rw [Document.perform] at answer after
    split at answer
    case isTrue fails =>
      rw [if_pos fails] at after
      refine .inr ⟨fun destroys => ?_, answer, after⟩
      rw [failPoint?_destroyObject call destroys] at fails
      cases fails
    case isFalse works =>
      rw [if_neg works] at after
      exact .inl ⟨answer, after⟩
  · exact .inr refused

theorem destroys (object : ObjectId) (s : σ) :
    document (Library.perform (.destroyObject object) s).2 = (document s).destroyObject object := by
  rcases runs_or_refuses (.destroyObject object) s with ⟨-, after⟩ | ⟨kept, -, -⟩
  · exact after
  · exact absurd rfl kept

theorem ran (call : Call α) (s : σ) (heard : (Library.perform call s).1 ≠ call.refused) :
    (Library.perform call s).1 = ((document s).run call).1 ∧
      document (Library.perform call s).2 = ((document s).run call).2 := by
  rcases runs_or_refuses call s with ran | ⟨-, answer, -⟩
  · exact ran
  · exact absurd answer heard

theorem refused (call : Call α) (s : σ) (destroys : call.method ≠ .destroyObject)
    (transforms : call.method ≠ .transform) (refused : (Library.perform call s).1 = call.refused) :
    document (Library.perform call s).2 = document s := by
  rcases runs_or_refuses call s with ⟨answer, after⟩ | ⟨-, -, after⟩
  · rw [after]
    exact Document.run_refused _ call destroys transforms (answer.symm.trans refused)
  · exact after

end RefusingLibrary

variable {s : σ} {object : ObjectId}

theorem ends_destroy {d : Document} (sound : d.Sound) (adds : Adds object d (document s)) :
    Ends (ask (.destroyObject object)) s (fun _ s' => Same d (document s')) fun _ _ => False := by
  apply ends_ask.mpr
  rw [RefusingLibrary.destroys]
  exact adds.destroy sound

theorem ends_creates {operation : Operation} {call : Call (Option ObjectId)} (creates : call.Creates) :
    Ends (demand operation call) s (fun object s' => Adds object (document s) (document s')) fun _ s' =>
      Same (document s) (document s') := by
  have none : call.refused = none := by cases creates <;> rfl
  refine ends_demand.mpr ⟨fun object answered => ?_, fun answered => ?_⟩
  · obtain ⟨answer, after⟩ := RefusingLibrary.ran call s (by rw [answered, none]; nofun)
    rw [after]
    exact Document.run_creates creates (answer.symm.trans answered)
  · rw [RefusingLibrary.refused call s _ _ (answered.trans none.symm)]
    · exact .refl _
    · cases creates <;> nofun
    · cases creates <;> nofun

theorem ends_loadFont {operation : Operation} {target : DocumentId} {name : String}
    (sound : (document s).Sound) :
    Ends (demand operation (.loadFont target name)) s (fun _ s' => Same (document s) (document s')) fun _ s' =>
      Same (document s) (document s') :=
  have same := Document.loadFont_same sound (RefusingLibrary.change (.loadFont target name) s)
  ends_demand.mpr ⟨fun _ _ => same, fun _ => same⟩

theorem ends_create {make : Edit σ ObjectId} {finish : ObjectId → Edit σ Unit} (sound : (document s).Sound)
    (made : Ends make s (fun object s' => Adds object (document s) (document s')) fun _ s' =>
      Same (document s) (document s'))
    (only : ∀ object, Only (Rewrites object) (finish object)) :
    Ends (do let object ← make; orUndo (finish object) (ask (.destroyObject object)); pure object) s
      (fun object s' => Adds object (document s) (document s')) fun _ s' => Same (document s) (document s') := by
  apply ends_bind.mpr
  refine made.mono (fun object s' adds => ?_) fun _ _ => id
  -- However far `finish` gets, the document has one object more, and to destroy it undoes everything.
  have kept : ∀ s'' : σ, Changes (Rewrites object) (document s') (document s'') →
    Adds object (document s) (document s'') := by
    intro s'' changes
    refine changes.keeps (fun effect d d' rewrites change adds => ?_) adds
    cases rewrites
    exact adds.change change
  apply ends_bind.mpr
  apply ends_orUndo.mpr
  refine (only object s').mono (fun _ s'' changes => ?_) fun _ s'' changes => ?_
  · exact ends_pure.mpr (kept s'' changes)
  · exact (ends_destroy sound (kept s'' changes)).mono (fun _ _ => id) nofun

theorem Content.allocatePath_ends (segments : List Segment) (sound : (document s).Sound) :
    Ends (allocatePath segments) s (fun object s' => Adds object (document s) (document s')) fun _ s' =>
      Same (document s) (document s') := by
  cases segments with
  | nil => exact ends_throw.mpr (.refl _)
  | cons first rest => exact ends_create sound (ends_creates (.path _ _)) fun object => replay_only object first rest

theorem Content.allocate_ends (content : Content) (target : DocumentId) (sound : (document s).Sound) :
    Ends (content.allocate target) s (fun object s' => Adds object (document s) (document s')) fun _ s' =>
      Same (document s) (document s') := by
  cases content with
  | path segments => exact allocatePath_ends segments sound
  | image => exact ends_creates (.image _)
  | text string font size mode =>
      apply ends_bind.mpr
      refine (ends_loadFont sound).mono (fun id s' loaded => ?_) fun _ _ => id
      exact (ends_creates (.text ..)).mono (fun object s'' => loaded.adds) fun _ s'' => loaded.trans

/-- A creation gives a new object that nothing holds, or leaves nothing behind. -/
theorem PageObject.create_ends (o : PageObject) (page : PageRef) (sound : (document s).Sound) :
    Ends (o.create page) s (fun object s' => Adds object (document s) (document s')) fun _ s' =>
      Same (document s) (document s') :=
  ends_create sound (o.content.allocate_ends page.document sound) fun object => o.update_only object page

theorem ends_place (operation : Operation) (call : ObjectId → Call Bool) (o : PageObject) (page : PageRef)
    (sound : (document s).Sound) (told : ∀ object, (call object).refused = false)
    (destroys : ∀ object, (call object).method ≠ .destroyObject)
    (transforms : ∀ object, (call object).method ≠ .transform) :
    Ends (do
      let object ← o.create page
      unless ← ask (call object) do
        ask (.destroyObject object)
        throw (.refused operation)) s
      (fun _ s' => (document s').Sound ∧
        ∃ object s₁, o.create page s = (.ok object, s₁) ∧ Adds object (document s) (document s₁) ∧
          (document s₁).run (call object) = (true, document s'))
      fun _ s' => (document s').Sound ∧ Same (document s) (document s') := by
  have created := ((o.create_ends page sound).and ((o.create_only page).sound s sound)).and (ends_run _ s)
  apply ends_bind.mpr
  refine created.mono (fun object s' => ?_) fun _ s' ⟨⟨same, sound⟩, _⟩ => ⟨sound, same⟩
  rintro ⟨⟨adds, sound'⟩, ran⟩
  have placed : (document (Library.perform (call object) s').2).Sound :=
    sound'.change (RefusingLibrary.change _ s')
  apply ends_bind.mpr
  apply ends_ask.mpr
  cases answered : (Library.perform (call object) s').1 with
  | true =>
      obtain ⟨answer, after⟩ := RefusingLibrary.ran (call object) s' (by rw [answered, told]; nofun)
      refine ends_pure.mpr ⟨placed, object, s', ran, adds, ?_⟩
      exact Prod.ext (answer.symm.trans answered) after.symm
  | false =>
      have after := RefusingLibrary.refused (call object) s' (destroys object) (transforms object)
        (answered.trans (told object).symm)
      rw [← after] at adds
      have destroyed := (ends_destroy sound adds).and (ask_sound (.destroyObject object) _ placed)
      exact ends_bind.mpr (destroyed.mono (fun _ s'' ⟨same, sound⟩ => ends_throw.mpr ⟨sound, same⟩)
        fun _ _ never => never.1.elim)

def Embeds (annot : AnnotId) (d d' : Document) : Prop :=
  Same d d' ∨ ∃ object middle, Adds object d middle ∧ middle.embedObject annot object = some d'

theorem Stamp.appendSlot_ends (annot : AnnotId) (page : PageRef) (slot : Option PageObject)
    (sound : (document s).Sound) :
    Ends (appendSlot annot page slot) s
      (fun _ s' => (document s').Sound ∧ Embeds annot (document s) (document s'))
      fun _ s' => (document s').Sound ∧ Same (document s) (document s') := by
  cases slot with
  | none => exact ends_pure.mpr ⟨sound, .inl (.refl _)⟩
  | some o =>
      rw [appendSlot]
      split
      · exact ends_throw.mpr ⟨sound, .refl _⟩
      · have placed := ends_place .embedObject (.embed annot) o page sound (fun _ => rfl) nofun nofun
        refine placed.mono (fun _ s' => ?_) fun _ _ => id
        rintro ⟨sound, object, s₁, -, adds, embedded⟩
        exact ⟨sound, .inr ⟨object, document s₁, adds, Document.tell_eq_true.mp embedded⟩⟩

/-- What holds of a document is steady under all that the update of an annotation may do. -/
structure Steady (annot : AnnotId) (inv : Document → Prop) : Prop where
  sound : ∀ d, inv d → d.Sound
  edit : ∀ effect d d', effect.RewritesAnnot annot ∨ effect.Empties annot → d.Change effect d' → inv d →
    inv d'
  same : ∀ d d', Same d d' → d'.Sound → inv d → inv d'
  embed : ∀ d d', Embeds annot d d' → d'.Sound → inv d → inv d'

variable {annot : AnnotId} {inv : Document → Prop}

theorem Steady.rewrites (steady : Steady annot inv) {edit : Edit σ α}
    (only : Only (RewritesAnnot annot) edit) : Keeps inv edit :=
  only.keeps fun effect d d' rewrites => steady.edit effect d d' (.inl rewrites)

theorem Stamp.appendSlot_keeps (steady : Steady annot inv) (page : PageRef) (slot : Option PageObject) :
    Keeps inv (appendSlot annot page slot : Edit σ Unit) := by
  intro s start
  refine (appendSlot_ends annot page slot (steady.sound _ start)).mono (fun _ s' => ?_) fun _ s' => ?_
  · rintro ⟨sound, embeds⟩
    exact steady.embed _ _ embeds sound start
  · rintro ⟨sound, same⟩
    exact steady.same _ _ same sound start

theorem Stamp.update_keeps (steady : Steady annot inv) (stamp : Stamp) (page : PageRef) :
    Keeps inv (stamp.update annot page : Edit σ Unit) := by
  have kind : Keeps inv (expectAnnotKind annot .stamp : Edit σ Unit) :=
    steady.rewrites (expectAnnotKind_only annot .stamp)
  have rect : Keeps inv (writeAnnotRect annot stamp.bounds : Edit σ Unit) :=
    steady.rewrites (writeAnnotRect_only annot _)
  have count : Keeps inv (demand .getEmbeddedCount (.embeddedCount annot) : Edit σ Nat) :=
    steady.rewrites (only_demand (.inl rfl))
  have remove : ∀ index, Keeps inv (removeKnown annot index : Edit σ Unit) := fun index =>
    (removeKnown_only annot index).keeps fun effect d d' empties => steady.edit effect d d' (.inr empties)
  exact keeps_bind kind fun _ => keeps_bind rect fun _ => keeps_bind count fun _ =>
    keeps_bind (keeps_forM _ remove) fun _ => keeps_forM _ (appendSlot_keeps steady page)

theorem Annot.update_keeps (steady : Steady annot inv) (a : Annot) (page : PageRef) (config : EditConfig) :
    Keeps inv (a.update annot page config : Edit σ Unit) := by
  cases a with
  | stamp stamp => exact Stamp.update_keeps steady stamp page
  | highlight highlight => exact steady.rewrites (highlight.update_only annot config)
  | freeText note => exact steady.rewrites (note.update_only annot)

end PageContent
