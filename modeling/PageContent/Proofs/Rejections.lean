import PageContent.Proofs.Confinement
import PageContent.Proofs.Emptiness
import PageContent.Proofs.Lists
import PageContent.Proofs.Making

namespace PageContent

/-- The error says that the edit does not fit what it was to change. -/
def Error.isRejection : Error → Bool
  | .outOfRange .. | .kindMismatch .. | .annotMismatch .. | .emptyText => true
  | _ => false

section NeverRejects

variable {σ α β : Type}

/-- However the edit fails, it does not reject what it was given. -/
def NeverRejects (edit : Edit σ α) : Prop :=
  ∀ s, Ends edit s (fun _ _ => True) fun e _ => e.isRejection = false

theorem neverRejects_pure {a : α} : NeverRejects (pure a : Edit σ α) := fun _ => ends_pure.mpr trivial

theorem neverRejects_throw {e : Error} (other : e.isRejection = false) : NeverRejects (throw e : Edit σ α) :=
  fun _ => ends_throw.mpr other

theorem neverRejects_bind {edit : Edit σ β} {next : β → Edit σ α} (first : NeverRejects edit)
    (rest : ∀ b, NeverRejects (next b)) : NeverRejects (edit >>= next) :=
  fun s => ends_bind.mpr ((first s).mono (fun b s' _ => rest b s') fun _ _ => id)

theorem neverRejects_orUndo {edit : Edit σ α} {undo : Edit σ Unit} (never : NeverRejects edit)
    (undone : NeverRejects undo) : NeverRejects (orUndo edit undo) :=
  fun s => ends_orUndo.mpr ((never s).mono (fun _ _ => id) fun _ s' other =>
    (undone s').mono (fun _ _ _ => other) fun _ _ => id)

theorem neverRejects_forM {f : β → Edit σ Unit} (l : List β) (step : ∀ x, NeverRejects (f x)) :
    NeverRejects (l.forM f) :=
  fun _ => ends_forM (fun _ => True) trivial fun x _ s _ => step x s

theorem NeverRejects.ends {edit : Edit σ α} {s : σ} {inv : σ → Prop} (never : NeverRejects edit) :
    Ends edit s (fun _ _ => True) fun e s' => e.isRejection = true → inv s' :=
  (never s).mono (fun _ _ => id) fun _ _ other rejected => nomatch other.symm.trans rejected

/-- If the edit rejects what it was given, it has not changed anything before. -/
def RejectsFirst (edit : Edit σ α) (s : σ) : Prop :=
  Ends edit s (fun _ _ => True) fun e s' => e.isRejection = true → s' = s

theorem rejectsFirst_bind {edit : Edit σ β} {next : β → Edit σ α} {s : σ} (first : RejectsFirst edit s)
    (rest : ∀ b, NeverRejects (next b)) : RejectsFirst (edit >>= next) s :=
  ends_bind.mpr (first.mono (fun b _ _ => (rest b).ends) fun _ _ => id)

theorem neverRejects_onLibrary {edit : Editor → Edit σ α} (never : ∀ e, NeverRejects (edit e)) :
    NeverRejects (Editor.onLibrary edit) :=
  fun s => ends_onLibrary.mpr (never s.1 s.2)

theorem rejectsFirst_onLibrary {edit : Editor → Edit σ α} {e : Editor} {s : σ} (first : RejectsFirst (edit e) s) :
    RejectsFirst (Editor.onLibrary edit) (e, s) :=
  ends_onLibrary.mpr (first.mono (fun _ _ => id) fun _ _ same rejected => congrArg (e, ·) (same rejected))

variable [Library σ]

theorem neverRejects_ask {call : Call α} : NeverRejects (ask call : Edit σ α) := fun _ => ends_ask.mpr trivial

theorem neverRejects_demand {operation : Operation} {call : Call (Option α)} :
    NeverRejects (demand operation call : Edit σ α) :=
  fun _ => ends_demand.mpr ⟨fun _ _ => trivial, fun _ => rfl⟩

theorem neverRejects_insist {operation : Operation} {call : Call Bool} :
    NeverRejects (insist operation call : Edit σ Unit) :=
  fun _ => ends_insist.mpr ⟨fun _ => trivial, fun _ => rfl⟩

end NeverRejects

section Library

variable {σ : Type} [Library σ]

theorem writeDeviceMatrix_neverRejects {object : ObjectId} {page : PageId} {device : Matrix Float32} :
    NeverRejects (writeDeviceMatrix object page device : Edit σ Unit) := by
  refine neverRejects_bind neverRejects_demand fun height => neverRejects_bind neverRejects_demand fun raw =>
    neverRejects_bind neverRejects_insist fun _ => neverRejects_bind neverRejects_ask fun bounds => ?_
  cases bounds with
  | some bounds => exact neverRejects_forM _ fun step => neverRejects_ask
  | none => exact neverRejects_bind neverRejects_ask fun _ => neverRejects_throw rfl

theorem Attributes.write_neverRejects (a : Attributes) (object : ObjectId) (page : PageId) :
    NeverRejects (do
      a.writeStyle object
      writeDeviceMatrix object page a.deviceMatrix : Edit σ Unit) := by
  have styled : NeverRejects (a.writeStyle object : Edit σ Unit) :=
    neverRejects_bind neverRejects_insist fun _ => neverRejects_bind neverRejects_insist fun _ => neverRejects_insist
  exact neverRejects_bind styled fun _ => writeDeviceMatrix_neverRejects

namespace Content

theorem closeIf_neverRejects {object : ObjectId} {s : Segment} : NeverRejects (closeIf object s : Edit σ Unit) := by
  rw [closeIf]
  split
  case isTrue => exact neverRejects_insist
  case isFalse => exact neverRejects_pure

theorem allocate_neverRejects (content : Content) (target : DocumentId) :
    NeverRejects (content.allocate target : Edit σ ObjectId) := by
  cases content with
  | path segments fill stroke =>
      cases segments with
      | nil => exact neverRejects_throw rfl
      | cons first rest =>
          refine neverRejects_bind neverRejects_demand fun object => neverRejects_bind ?_ fun _ => neverRejects_pure
          refine neverRejects_orUndo ?_ neverRejects_ask
          refine neverRejects_bind closeIf_neverRejects fun _ => neverRejects_forM rest fun s => ?_
          exact neverRejects_bind neverRejects_insist fun _ => closeIf_neverRejects
  | image bitmap => exact neverRejects_demand
  | text string font size mode => exact neverRejects_bind neverRejects_demand fun _ => neverRejects_demand

theorem write_rejectsFirst (content : Content) (object : ObjectId) (s : σ) :
    RejectsFirst (content.write object) s := by
  cases content with
  | path | image => exact neverRejects_insist.ends
  | text string font size mode =>
      rw [RejectsFirst, write]
      refine ends_guard.mpr ⟨fun _ _ => rfl, fun _ => ?_⟩
      exact (neverRejects_bind neverRejects_insist fun _ => neverRejects_insist).ends

theorem write_neverRejects {content : Content} (admitted : Stamp.admits content.kind = true) (object : ObjectId) :
    NeverRejects (content.write object : Edit σ Unit) := by
  cases content with
  | path | image => exact neverRejects_insist
  | text => cases admitted

end Content

namespace Highlight

theorem shrink_neverRejects {annot : AnnotId} {keep existing : Nat} {policy : QuadShrink} :
    NeverRejects (shrink annot keep existing policy : Edit σ Unit) := by
  have disposed (removable : Bool) : NeverRejects (if removable then
      ((List.range existing).drop keep).reverse.forM fun index => insist .removeQuad (.removeQuad annot index)
    else ((List.range existing).drop keep).forM fun index => insist .clearQuad (.setQuad annot index .zero) :
      Edit σ Unit) := by
    split
    case isTrue => exact neverRejects_forM _ fun _ => neverRejects_insist
    case isFalse => exact neverRejects_forM _ fun _ => neverRejects_insist
  cases policy with
  | zeroFill => exact neverRejects_bind neverRejects_pure disposed
  | removeWhenSupported => exact neverRejects_bind neverRejects_ask disposed

end Highlight

namespace Stamp

theorem removeKnown_neverRejects (annot : AnnotId) (index : Nat) :
    NeverRejects (removeKnown annot index : Edit σ Unit) := by
  refine neverRejects_bind neverRejects_ask fun found => ?_
  cases found with
  | none => exact neverRejects_pure
  | some object =>
      refine neverRejects_bind neverRejects_ask fun kind => ?_
      split
      case isTrue => exact neverRejects_insist
      case isFalse => exact neverRejects_pure

end Stamp

theorem Editor.finish_neverRejects : NeverRejects (finish : Editing σ Unit) := by
  refine neverRejects_onLibrary fun e => ?_
  split
  case isTrue => exact neverRejects_insist
  case isFalse => exact neverRejects_pure

end Library

section Documents

variable {d d' : Document} {object : ObjectId} {page : PageRef} {annot : AnnotId}

theorem rejectsFirst_bind_still {α β : Type} {edit : Edit Document β} {next : β → Edit Document α}
    (still : Keeps (· = d) edit) (rest : ∀ b, RejectsFirst (next b) d) : RejectsFirst (edit >>= next) d :=
  ends_bind.mpr (still.ends_still rest fun _ _ => rfl)

theorem Content.Begins.kind_eq {content : Content} {before : StoredContent} {failing : List FailPoint}
    (begins : content.Begins failing before) : before.kind = content.kind := by
  cases begins <;> rfl

namespace PageObject

theorem update_rejectsFirst (o : PageObject) (object : ObjectId) (page : PageRef) (d : Document) :
    RejectsFirst (o.update object page) d := by
  -- The kind is only asked for, and an empty text is the first thing that is looked at after it.
  refine rejectsFirst_bind_still (expectKind_only object o.kind).keeps_still fun _ => ?_
  exact rejectsFirst_bind (o.content.write_rejectsFirst object d) fun _ =>
    o.attributes.write_neverRejects object page.page

theorem create_neverRejects {o : PageObject} (admitted : Stamp.admits o.kind = true) (page : PageRef) :
    NeverRejects (o.create page : Edit Document ObjectId) := by
  intro d
  apply ends_bind.mpr
  refine ((Content.allocate_begins page.document admitted).and
    (o.content.allocate_neverRejects page.document d)).mono ?_ fun _ _ failed => failed.2
  rintro object d₁ ⟨⟨before, begins, -, -, known⟩, -⟩
  have checked : expectKind object o.kind d₁ = (.ok (), d₁) :=
    expectKind_ok ((objectKind_eq known).trans begins.kind_eq)
  have written : NeverRejects (do
      o.content.write object
      o.attributes.writeStyle object
      writeDeviceMatrix object page.page o.attributes.deviceMatrix : Edit Document Unit) :=
    neverRejects_bind (Content.write_neverRejects admitted object) fun _ =>
      o.attributes.write_neverRejects object page.page
  apply ends_bind.mpr
  apply ends_orUndo.mpr
  apply (ends_congr (bind_ok checked)).mpr
  exact (written d₁).mono (fun _ _ _ => ends_pure.mpr trivial) fun _ _ other => ends_ask.mpr other

end PageObject

theorem Stamp.appendSlot_neverRejects (annot : AnnotId) (page : PageRef) (slot : Option PageObject) :
    NeverRejects (appendSlot annot page slot : Edit Document Unit) := by
  cases slot with
  | none => exact neverRejects_pure
  | some o =>
      rw [appendSlot]
      cases admitted : admits o.kind with
      | false => exact neverRejects_throw rfl
      | true =>
          refine neverRejects_bind (PageObject.create_neverRejects admitted page) fun object => ?_
          refine neverRejects_bind neverRejects_ask fun embedded => ?_
          cases embedded with
          | false => exact neverRejects_bind neverRejects_ask fun _ => neverRejects_throw rfl
          | true => exact neverRejects_pure

theorem Annot.update_rejectsFirst (a : Annot) (annot : AnnotId) (page : PageRef) (config : EditConfig) (d : Document) :
    RejectsFirst (a.update annot page config) d := by
  -- Each kind checks the annotation first. What a stamp creates later has the kind that it is checked for.
  cases a with
  | stamp s =>
      refine rejectsFirst_bind_still (expectAnnotKind_only annot .stamp).keeps_still fun _ => NeverRejects.ends ?_
      refine neverRejects_bind neverRejects_insist fun _ => neverRejects_bind neverRejects_demand fun count => ?_
      refine neverRejects_bind (neverRejects_forM _ (Stamp.removeKnown_neverRejects annot)) fun _ => ?_
      exact neverRejects_forM _ (Stamp.appendSlot_neverRejects annot page)
  | highlight h =>
      refine rejectsFirst_bind_still (expectAnnotKind_only annot .highlight).keeps_still fun _ => NeverRejects.ends ?_
      refine neverRejects_bind neverRejects_ask fun existing => ?_
      refine neverRejects_bind (neverRejects_forM _ fun _ => neverRejects_insist) fun _ => ?_
      refine neverRejects_bind (neverRejects_forM _ fun _ => neverRejects_insist) fun _ => ?_
      split
      case isTrue =>
        exact neverRejects_bind Highlight.shrink_neverRejects fun _ => neverRejects_insist
      case isFalse => exact neverRejects_insist
  | freeText note =>
      refine rejectsFirst_bind_still (expectAnnotKind_only annot .freeText).keeps_still fun _ => NeverRejects.ends ?_
      exact neverRejects_bind neverRejects_insist fun _ => neverRejects_bind neverRejects_insist fun _ =>
        neverRejects_bind neverRejects_insist fun _ => neverRejects_insist

namespace Editor

variable {e : Editor} {index : Nat}

theorem updateObject_rejectsFirst (o : PageObject) : RejectsFirst (updateObject index o) (e, d) := by
  apply ends_bind.mpr
  refine objectAt_finds.mono ?_ fun _ _ same _ => same
  rintro object _ ⟨rfl, -⟩
  refine rejectsFirst_bind (rejectsFirst_onLibrary (o.update_rejectsFirst object e.page d)) fun _ => ?_
  refine neverRejects_bind (fun _ => ends_cached.mpr trivial) fun cache => ?_
  exact neverRejects_bind (fun _ => ends_setCache.mpr trivial) fun _ => finish_neverRejects

theorem updateAnnot_rejectsFirst (a : Annot) : RejectsFirst (updateAnnot index a) (e, d) := by
  apply ends_bind.mpr
  refine checkAnnotIndex_still.mono ?_ fun _ _ same _ => same
  rintro - _ rfl
  refine rejectsFirst_bind (rejectsFirst_onLibrary ?_) fun _ => finish_neverRejects
  exact rejectsFirst_bind_still (only_demand (.inl rfl)).keeps_still fun annot =>
    a.update_rejectsFirst annot e.page e.config d

variable {p : Page}

theorem updateObject_mismatched {stored : StoredObject} {o : PageObject} (known : d.pages.get? e.page.page = some p)
    (listed : p.objects[index]? = some object) (found : d.objects.get? object = some stored)
    (differ : stored.content.kind ≠ o.kind) :
    updateObject index o (e, d) = (.error (.kindMismatch o.kind stored.content.kind), e, d) := by
  have refused : o.update object e.page d = (.error (.kindMismatch o.kind stored.content.kind), d) :=
    bind_error (expectKind_error (objectKind_eq found) differ)
  apply Ends.eq_error
  apply ends_bind.mpr
  refine objectAt_ends known (fun object' listed' => ?_) fun outside => ?_
  · cases listed.symm.trans listed'
    apply ends_bind.mpr
    apply ends_onLibrary.mpr
    exact (ends_of_eq_error refused).mpr ⟨rfl, rfl⟩
  · exact absurd (List.getElem?_eq_some_iff.mp listed).1 (Nat.not_lt.mpr outside)

theorem updateAnnot_mismatched {stored : StoredAnnot} {a : Annot} (known : d.pages.get? e.page.page = some p)
    (listed : p.annots[index]? = some annot) (found : d.annots.get? annot = some stored)
    (differ : stored.kind ≠ a.kind) :
    updateAnnot index a (e, d) = (.error (.annotMismatch a.kind stored.kind), e, d) := by
  have refused : a.update annot e.page e.config d = (.error (.annotMismatch a.kind stored.kind), d) := by
    cases a with
    | stamp | highlight | freeText => exact bind_error (expectAnnotKind_error (annotKind_eq found) differ)
  have placed : d.run (.annotAt e.page.page index) = (some annot, d) := by
    simp [Document.run, known, listed]
  apply Ends.eq_error
  apply ends_bind.mpr
  refine checkAnnotIndex_ends known (fun _ => ?_) fun outside => ?_
  · apply ends_bind.mpr
    apply ends_onLibrary.mpr
    exact (ends_of_eq_error ((bind_ok (demand_eq rfl placed)).trans refused)).mpr ⟨rfl, rfl⟩
  · exact absurd (List.getElem?_eq_some_iff.mp listed).1 (Nat.not_lt.mpr outside)

end Editor

/-- The object lies where it lay, with the points and the font that it had. -/
structure StoredObject.LiesAs (after before : StoredObject) : Prop where
  matrix : after.matrix = before.matrix
  kind : after.content.kind = before.content.kind
  segments : after.content.segments? = before.content.segments?
  font : after.content.font? = before.content.font?
  fontSize : after.content.fontSize? = before.content.fontSize?

theorem Content.written_keeps {content : Content} {before stored : StoredContent}
    (written : content.written before = some stored) :
    stored.kind = before.kind ∧ stored.segments? = before.segments? ∧ stored.font? = before.font? ∧
      stored.fontSize? = before.fontSize? := by
  cases before with
  | path | image =>
      cases content with
      | path | image => cases written <;> exact ⟨rfl, rfl, rfl, rfl⟩
      | text => cases written
  | text =>
      cases content with
      | text =>
          rw [Content.written] at written
          split at written <;> cases written
          exact ⟨rfl, rfl, rfl, rfl⟩
      | path | image => cases written
  | shading => cases content <;> cases written

theorem Document.HalfWritten.lies {o : PageObject} {page : PageId} (half : d.HalfWritten object page o d') :
    d' = d ∨ ∃ before after, d.objects.get? object = some before ∧ after.LiesAs before ∧ d' = d.put object after := by
  have lies {before after : StoredObject} (matrix : after.matrix = before.matrix)
      (written : o.content.written before.content = some after.content) : after.LiesAs before := by
    obtain ⟨kind, segments, font, fontSize⟩ := Content.written_keeps written
    exact ⟨matrix, kind, segments, font, fontSize⟩
  cases half with
  | nothing => exact .inl rfl
  | content takes =>
      refine .inr ⟨_, _, takes.object, ?_, rfl⟩
      exact lies rfl takes.written
  | style takes _ same =>
      refine .inr ⟨_, _, takes.object, ?_, same⟩
      exact lies rfl takes.written

end Documents

/-- An update that fails leaves the object where it lay, and all others as they were. If it rejects the object or the
annotation that it was given, for its kind, its place in the list or its lack of text, then it leaves all as it was,
the editor included. -/
theorem rejected_updates_change_nothing (d : Document) :
    (∀ (o : PageObject) object page error d', o.update object page d = (.error error, d') →
      (d' = d ∨ ∃ before after, d.objects.get? object = some before ∧ after.LiesAs before ∧
        d' = d.put object after) ∧
      (error.isRejection = true → d' = d)) ∧
    (∀ (e : Editor) index (o : PageObject) error s',
      Editor.updateObject index o (e, d) = (.error error, s') → error.isRejection = true → s' = (e, d)) ∧
    (∀ (e : Editor) index (a : Annot) error s', Editor.updateAnnot index a (e, d) = (.error error, s') →
      error.isRejection = true → s' = (e, d)) ∧
    (∀ (e : Editor) index (o : PageObject) p object stored, d.pages.get? e.page.page = some p →
      p.objects[index]? = some object → d.objects.get? object = some stored → stored.content.kind ≠ o.kind →
        Editor.updateObject index o (e, d) = (.error (.kindMismatch o.kind stored.content.kind), e, d)) ∧
    ∀ (e : Editor) index (a : Annot) p annot stored, d.pages.get? e.page.page = some p →
      p.annots[index]? = some annot → d.annots.get? annot = some stored → stored.kind ≠ a.kind →
        Editor.updateAnnot index a (e, d) = (.error (.annotMismatch a.kind stored.kind), e, d) := by
  refine ⟨fun o object page error d' failed => ⟨?_, ?_⟩, fun e index o error s' failed => ?_,
    fun e index a error s' failed => ?_, fun e index o p object stored => Editor.updateObject_mismatched,
    fun e index a p annot stored => Editor.updateAnnot_mismatched⟩
  · exact (PageObject.update_ends.of_error failed).lies
  · exact (o.update_rejectsFirst object page d).of_error failed
  · exact (Editor.updateObject_rejectsFirst o).of_error failed
  · exact (Editor.updateAnnot_rejectsFirst a).of_error failed

theorem refused_stroke_width_changes_fill :
    ∃ (d d' : Document) (e : Editor) (path text : PageObject) (stamp : Stamp), d.Reachable ∧
      path.update ⟨3⟩ e.page d = (.error (.refused .setStrokeWidth), d') ∧
      ((d.content? ⟨3⟩).bind (·.drawMode?)).map (·.fill) = some .none ∧
      ((d'.content? ⟨3⟩).bind (·.drawMode?)).map (·.fill) = some .winding ∧
      (∃ before after, d.objects.get? ⟨3⟩ = some before ∧ after.LiesAs before ∧ d' = d.put ⟨3⟩ after) ∧
      Editor.updateObject 7 path (e, d) = (.error (.outOfRange 7 1), e, d) ∧
      Editor.updateObject 0 text (e, d) = (.error (.kindMismatch .text .path), e, d) ∧
      Editor.updateAnnot 0 (.stamp stamp) (e, d) = (.error (.annotMismatch .stamp .highlight), e, d) := by
  let path : PageObject := ⟨.path [] true false, ⟨.identity, .black, .black, -1⟩⟩
  let text : PageObject := ⟨.text "a" .regular 12 .fill, .plain⟩
  let e : Editor := .openOn ⟨⟨1⟩, ⟨2⟩⟩ {}
  have page := ((Document.reachable_empty false).step .createDocument).step (.addPage 792)
  have listed := (page.step (.call (.createPath 0 0))).step (.call (.insertObject ⟨2⟩ ⟨3⟩))
  have reachable := listed.step (.call (.createAnnot ⟨2⟩ .highlight))
  generalize same : (Document.perform (.createAnnot ⟨2⟩ .highlight) _).2 = d at reachable
  obtain ⟨leaves, outside, -, mismatched, mismatchedAnnot⟩ := rejected_updates_change_nothing d
  have known : d.pages.get? ⟨2⟩ = some ⟨792, [⟨3⟩], [⟨4⟩], 0⟩ := by rw [← same]; rfl
  have refused : (path.update ⟨3⟩ e.page d).1 = .error (.refused .setStrokeWidth) := by rw [← same]; decide +kernel
  have unfilled : ((d.content? ⟨3⟩).bind (·.drawMode?)).map (·.fill) = some .none := by rw [← same]; rfl
  have far : (Editor.updateObject 7 path (e, d)).1 = .error (.outOfRange 7 1) := by rw [← same]; decide +kernel
  obtain ⟨d', failed⟩ : ∃ d', path.update ⟨3⟩ e.page d = (.error (.refused .setStrokeWidth), d') :=
    ⟨_, Prod.ext refused rfl⟩
  have filled : ((d'.content? ⟨3⟩).bind (·.drawMode?)).map (·.fill) = some .winding := by
    have left : d' = (path.update ⟨3⟩ e.page d).2 := by rw [failed]
    rw [left, ← same]
    decide +kernel
  have half := (leaves path ⟨3⟩ e.page _ d' failed).1.resolve_left fun unchanged => by
    rw [unchanged, unfilled] at filled
    cases filled
  refine ⟨d, d', e, path, text, .empty ⟨0, 0, 0, 0⟩, reachable, failed, unfilled, filled, half,
    Prod.ext far (outside e 7 path _ _ (Prod.ext far rfl) rfl), ?_, ?_⟩
  · exact mismatched e 0 text _ ⟨3⟩ (.new (.path [⟨.moveTo, 0, 0, false⟩] ⟨.none, false⟩)) known rfl
      (by rw [← same]; rfl) (by decide)
  · exact mismatchedAnnot e 0 _ _ ⟨4⟩ (.new .highlight) known rfl (by rw [← same]; rfl) (by decide)

end PageContent
