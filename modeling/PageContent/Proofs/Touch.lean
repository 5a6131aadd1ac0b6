import PageContent.Proofs.Footprint

namespace PageContent

variable {σ : Type} [RefusingLibrary σ] {allowed : Effect → Prop}

namespace Effect

def Rewrites (object : ObjectId) (effect : Effect) : Prop := effect = .object object

def RewritesAnnot (annot : AnnotId) (effect : Effect) : Prop := effect = .annot annot

/-- A look at an object rewrites it, and then rewrites it back. -/
def Looks (effect : Effect) : Prop := ∃ object, effect.Rewrites object

def Makes (effect : Effect) : Prop :=
  effect = .newObject ∨ effect = .newFont ∨ effect.Looks ∨ ∃ object, effect = .destroy object

def Empties (annot : AnnotId) (effect : Effect) : Prop := ∃ index, effect = .removeEmbedded annot index

theorem Makes.of_rewrites {object : ObjectId} {effect : Effect} (rewrites : effect.Rewrites object) :
    effect.Makes :=
  .inr (.inr (.inl ⟨object, rewrites⟩))

end Effect

open Effect (Rewrites RewritesAnnot Looks Makes Empties)

theorem readPageHeight_only (page : PageId) : Only allowed (readPageHeight page : Edit σ Float32) :=
  only_demand (.inl rfl)

theorem readDeviceMatrix_only (object : ObjectId) (page : PageId) :
    Only (Rewrites object) (readDeviceMatrix object page : Edit σ (Matrix Float32)) := by
  refine only_bind (readPageHeight_only page) fun height => only_bind (only_demand (.inl rfl)) fun raw => ?_
  refine only_bind (only_insist (.inr rfl)) fun _ => only_bind (only_ask (.inl rfl)) fun bounds => ?_
  refine only_bind (only_insist (.inr rfl)) fun _ => ?_
  cases bounds with
  | none => exact only_throw
  | some bounds => exact only_pure

theorem writeDeviceMatrix_only (object : ObjectId) (page : PageId) (device : Matrix Float32) :
    Only (Rewrites object) (writeDeviceMatrix object page device : Edit σ Unit) := by
  refine only_bind (readPageHeight_only page) fun height => only_bind (only_demand (.inl rfl)) fun raw => ?_
  refine only_bind (only_insist (.inr rfl)) fun _ => only_bind (only_ask (.inl rfl)) fun bounds => ?_
  cases bounds with
  | none => exact only_bind (only_ask (.inr rfl)) fun _ => only_throw
  | some bounds => exact only_forM _ fun step => only_ask (.inr rfl)

theorem readUnits_only {call : List UInt16 → Call (Nat × List UInt16)}
    (reads : ∀ buffer, (call buffer).effect = .nothing)
    (absent refused : Error) : Only allowed (readUnits call absent refused : Edit σ (List UInt16)) := by
  refine only_bind (only_ask (.inl (reads _))) fun probe => only_guard ?_
  exact only_bind (only_ask (.inl (reads _))) fun copied => only_guard only_pure

theorem expectKind_only (object : ObjectId) (expected : ObjectKind) :
    Only allowed (expectKind object expected : Edit σ Unit) := by
  refine only_bind (only_ask (.inl rfl)) fun found => ?_
  split
  case isTrue => exact only_throw
  case isFalse => exact only_pure

theorem Attributes.read_only (object : ObjectId) (page : PageRef) :
    Only (Rewrites object) (Attributes.read object page : Edit σ Attributes) :=
  only_bind (readDeviceMatrix_only object page.page) fun _ => only_bind (only_demand (.inl rfl)) fun _ =>
    only_bind (only_demand (.inl rfl)) fun _ => only_bind (only_demand (.inl rfl)) fun _ => only_pure

theorem Segment.read_only (object : ObjectId) (index : Nat) :
    Only allowed (Segment.read object index : Edit σ Segment) := by
  refine only_bind (only_demand (.inl rfl)) fun stored => ?_
  split
  · exact only_pure
  · exact only_throw

namespace Content

theorem readPath_only (object : ObjectId) : Only allowed (readPath object : Edit σ Content) := by
  refine only_bind (only_demand (.inl rfl)) fun count => only_guard ?_
  exact only_bind (only_mapM _ (Segment.read_only object)) fun _ => only_bind (only_demand (.inl rfl))
    fun _ => only_pure

theorem readImage_only (object : ObjectId) : Only allowed (readImage object : Edit σ Content) := by
  refine only_bind (only_demand (.inl rfl)) fun raw => ?_
  split
  · exact only_throw
  · exact only_bind only_liftExcept fun _ => only_pure

theorem readText_only (object : ObjectId) (page : PageRef) :
    Only allowed (readText object page : Edit σ Content) := by
  refine only_bind (only_demand (.inl rfl)) fun id => only_bind (only_demand (.inl rfl)) fun name => ?_
  refine only_bind only_liftExcept fun font => only_bind (only_demand (.inl rfl)) fun size => ?_
  refine only_bind (readUnits_only (fun _ => rfl) _ _) fun units => only_bind (only_demand (.inl rfl))
    fun code => ?_
  split
  · exact only_pure
  · exact only_throw

theorem write_only (content : Content) (object : ObjectId) :
    Only (Rewrites object) (content.write object : Edit σ Unit) := by
  cases content with
  | path | image => exact only_insist (.inr rfl)
  | text =>
      rw [write]
      refine only_guard ?_
      exact only_bind (only_insist (.inr rfl)) fun _ => only_insist (.inr rfl)

theorem closeIf_only (object : ObjectId) (s : Segment) :
    Only (Rewrites object) (closeIf object s : Edit σ Unit) := by
  rw [closeIf]
  split
  case isTrue => exact only_insist (.inr rfl)
  case isFalse => exact only_pure

theorem addSegment_only (object : ObjectId) (s : Segment) :
    Only (Rewrites object) (addSegment object s : Edit σ Unit) :=
  only_bind (only_insist (.inr rfl)) fun _ => closeIf_only object s

theorem replay_only (object : ObjectId) (first : Segment) (rest : List Segment) :
    Only (Rewrites object) (do closeIf object first; rest.forM (addSegment object) : Edit σ Unit) :=
  only_bind (closeIf_only object first) fun _ => only_forM rest (addSegment_only object)

theorem allocatePath_only (segments : List Segment) : Only Makes (allocatePath segments : Edit σ ObjectId) := by
  cases segments with
  | nil => exact only_throw
  | cons first rest =>
      refine only_bind (only_demand (.inr (.inl rfl))) fun object => only_bind (only_orUndo ?_ ?_)
        fun _ => only_pure
      · exact (replay_only object first rest).mono fun _ => Effect.Makes.of_rewrites
      · exact only_ask (.inr (.inr (.inr (.inr ⟨object, rfl⟩))))

theorem allocate_only (content : Content) (document : DocumentId) :
    Only Makes (content.allocate document : Edit σ ObjectId) := by
  cases content with
  | path segments => exact allocatePath_only segments
  | image => exact only_demand (.inr (.inl rfl))
  | text => exact only_bind (only_demand (.inr (.inr (.inl rfl)))) fun _ => only_demand (.inr (.inl rfl))

end Content

theorem Attributes.writeStyle_only (a : Attributes) (object : ObjectId) :
    Only (Rewrites object) (a.writeStyle object : Edit σ Unit) :=
  only_bind (only_insist (.inr rfl)) fun _ => only_bind (only_insist (.inr rfl))
    fun _ => only_insist (.inr rfl)

namespace PageObject

theorem readAs_only (kind : ObjectKind) (object : ObjectId) (page : PageRef) :
    Only (Rewrites object) (readAs kind object page : Edit σ PageObject) := by
  have finish : ∀ content, Only (Rewrites object)
      (do pure ⟨content, ← Attributes.read object page⟩ : Edit σ PageObject) :=
    fun content => only_bind (Attributes.read_only object page) fun _ => only_pure
  refine only_bind (expectKind_only object kind) fun _ => ?_
  split
  · exact only_bind (Content.readPath_only object) finish
  · exact only_bind (Content.readImage_only object) finish
  · exact only_bind (Content.readText_only object page) finish
  · exact only_bind only_throw finish

theorem read_only (object : ObjectId) (page : PageRef) :
    Only (Rewrites object) (read object page : Edit σ PageObject) := by
  refine only_bind (only_ask (.inl rfl)) fun kind => ?_
  split
  · exact readAs_only _ object page
  · exact readAs_only _ object page
  · exact readAs_only _ object page
  · exact only_throw

theorem update_only (o : PageObject) (object : ObjectId) (page : PageRef) :
    Only (Rewrites object) (o.update object page : Edit σ Unit) :=
  only_bind (expectKind_only object o.kind) fun _ => only_bind (o.content.write_only object) fun _ =>
    only_bind (o.attributes.writeStyle_only object) fun _ => writeDeviceMatrix_only object page.page _

theorem create_only (o : PageObject) (page : PageRef) : Only Makes (o.create page : Edit σ ObjectId) := by
  refine only_bind (o.content.allocate_only page.document) fun object => only_bind (only_orUndo ?_ ?_)
    fun _ => only_pure
  · exact (o.update_only object page).mono fun _ => Effect.Makes.of_rewrites
  · exact only_ask (.inr (.inr (.inr (.inr ⟨object, rfl⟩))))

end PageObject

theorem expectAnnotKind_only (annot : AnnotId) (expected : AnnotKind) :
    Only allowed (expectAnnotKind annot expected : Edit σ Unit) := by
  refine only_bind (only_ask (.inl rfl)) fun found => ?_
  split
  case isTrue => exact only_throw
  case isFalse => exact only_pure

theorem readAnnotRect_only (annot : AnnotId) :
    Only allowed (readAnnotRect annot : Edit σ (Rect .page Float32)) :=
  only_demand (.inl rfl)

theorem writeAnnotRect_only (annot : AnnotId) (rect : Rect .page Float32) :
    Only (RewritesAnnot annot) (writeAnnotRect annot rect : Edit σ Unit) :=
  only_insist (.inr rfl)

theorem slotOf_only (object : ObjectId) (page : PageRef) :
    Only Looks (slot? (PageObject.read object page) : Edit σ (Option PageObject)) :=
  only_slot? ((PageObject.read_only object page).mono fun _ rewrites => ⟨object, rewrites⟩)

namespace Stamp

theorem readSlot_only (annot : AnnotId) (page : PageRef) (index : Nat) :
    Only Looks (readSlot annot page index : Edit σ (Option PageObject)) := by
  refine only_bind (only_ask (.inl rfl)) fun found => ?_
  cases found with
  | none => exact only_pure
  | some object =>
      refine only_bind (only_ask (.inl rfl)) fun kind => ?_
      split
      · exact slotOf_only object page
      · exact only_pure

theorem read_only (annot : AnnotId) (page : PageRef) : Only Looks (read annot page : Edit σ Stamp) :=
  only_bind (expectAnnotKind_only annot .stamp) fun _ => only_bind (readAnnotRect_only annot) fun _ =>
    only_bind (only_demand (.inl rfl)) fun _ => only_bind (only_mapM _ (readSlot_only annot page))
      fun _ => only_pure

theorem removeKnown_only (annot : AnnotId) (index : Nat) :
    Only (Empties annot) (removeKnown annot index : Edit σ Unit) := by
  refine only_bind (only_ask (.inl rfl)) fun found => ?_
  cases found with
  | none => exact only_pure
  | some object =>
      refine only_bind (only_ask (.inl rfl)) fun kind => ?_
      split
      · exact only_insist (.inr ⟨index, rfl⟩)
      · exact only_pure

end Stamp

namespace Highlight

theorem read_only (annot : AnnotId) : Only allowed (read annot : Edit σ Highlight) := by
  refine only_bind (expectAnnotKind_only annot .highlight) fun _ => only_bind (only_ask (.inl rfl))
    fun count => ?_
  refine only_bind (only_mapM _ fun index => only_map (only_demand (.inl rfl))) fun bounds => ?_
  exact only_bind (only_demand (.inl rfl)) fun _ => only_pure

theorem shrink_only (annot : AnnotId) (keep existing : Nat) (policy : QuadShrink) :
    Only (RewritesAnnot annot) (shrink annot keep existing policy : Edit σ Unit) := by
  have dispose : ∀ removable : Bool, Only (RewritesAnnot annot)
      (if removable then ((List.range existing).drop keep).reverse.forM
        fun index => insist .removeQuad (.removeQuad annot index)
        else ((List.range existing).drop keep).forM
          fun index => insist .clearQuad (.setQuad annot index .zero) :
        Edit σ Unit) := by
    intro removable
    cases removable with
    | true => exact only_forM _ fun _ => only_insist (.inr rfl)
    | false => exact only_forM _ fun _ => only_insist (.inr rfl)
  cases policy with
  | zeroFill => exact only_bind only_pure dispose
  | removeWhenSupported => exact only_bind (only_ask (.inl rfl)) dispose

theorem update_only (h : Highlight) (annot : AnnotId) (config : EditConfig) :
    Only (RewritesAnnot annot) (h.update annot config : Edit σ Unit) := by
  refine only_bind (expectAnnotKind_only annot .highlight) fun _ => only_bind (only_ask (.inl rfl))
    fun existing => ?_
  refine only_bind (only_forM _ fun _ => only_insist (.inr rfl)) fun _ => ?_
  refine only_bind (only_forM _ fun _ => only_insist (.inr rfl)) fun _ => ?_
  have color : Only (RewritesAnnot annot)
    (insist .setAnnotColor (.setAnnotColor annot .color h.color) : Edit σ Unit) :=
    only_insist (.inr rfl)
  split
  · exact only_bind (shrink_only annot _ existing config.quadShrink) fun _ => color
  · exact color

end Highlight

namespace FreeText

theorem read_only (annot : AnnotId) : Only allowed (read annot : Edit σ FreeText) :=
  only_bind (expectAnnotKind_only annot .freeText) fun _ => only_bind (readAnnotRect_only annot) fun _ =>
    only_bind (readUnits_only (fun _ => rfl) _ _) fun _ => only_bind (only_demand (.inl rfl)) fun _ =>
      only_bind (only_demand (.inl rfl)) fun _ => only_pure

theorem update_only (note : FreeText) (annot : AnnotId) :
    Only (RewritesAnnot annot) (note.update annot : Edit σ Unit) :=
  only_bind (expectAnnotKind_only annot .freeText) fun _ => only_bind (writeAnnotRect_only annot note.bounds)
    fun _ =>
    only_bind (only_insist (.inr rfl)) fun _ => only_bind (only_insist (.inr rfl))
      fun _ => only_insist (.inr rfl)

end FreeText

namespace Annot

theorem readAs_only (kind : AnnotKind) (annot : AnnotId) (page : PageRef) :
    Only Looks (readAs kind annot page : Edit σ Annot) := by
  unfold readAs
  split
  · exact only_map (Stamp.read_only annot page)
  · exact only_map (Highlight.read_only annot)
  · exact only_map (FreeText.read_only annot)
  · exact only_throw

theorem read_only (annot : AnnotId) (page : PageRef) : Only Looks (read annot page : Edit σ Annot) :=
  only_bind (only_ask (.inl rfl)) fun kind => readAs_only kind annot page

end Annot

namespace Editor

theorem readSlot_only (page : PageRef) (index : Nat) :
    Only Looks (readSlot page index : Edit σ (Option PageObject)) := by
  refine only_bind (only_ask (.inl rfl)) fun found => ?_
  cases found with
  | none => exact only_pure
  | some object => exact slotOf_only object page

theorem readAnnotSlot_only (page : PageRef) (index : Nat) :
    Only Looks (readAnnotSlot page index : Edit σ (Option Annot)) := by
  refine only_bind (only_ask (.inl rfl)) fun found => ?_
  cases found with
  | none => exact only_pure
  | some annot => exact only_slot? (Annot.read_only annot page)

end Editor

end PageContent
