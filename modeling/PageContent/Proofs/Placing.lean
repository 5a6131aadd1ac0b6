import PageContent.Proofs.Rollback

namespace PageContent

def StoredObject.localBounds? (o : StoredObject) : Option (Rect .page Float32) :=
  { o with matrix := .identity }.bounds?

theorem StoredContent.Sound.localPoints_ne_nil {fonts : Table FontId String} {content : StoredContent}
    (sound : content.Sound fonts) : content.localPoints ≠ [] := by
  cases content with
  | path segments mode =>
      cases segments with
      | nil => cases sound
      | cons first rest => exact List.cons_ne_nil _ _
  | image | text | shading => exact List.cons_ne_nil _ _

theorem StoredObject.localBounds?_of_point {o : StoredObject} (point : o.content.localPoints ≠ []) :
    ∃ bounds, o.localBounds? = some bounds := by
  obtain ⟨first, rest, points⟩ := List.exists_cons_of_ne_nil point
  have bounds : o.localBounds? =
      Rect.hull? ((first :: rest).map fun p => .ofPoint (Matrix.identity.apply p.1 p.2)) := by
    rw [← points]
    rfl
  exact ⟨_, bounds⟩

namespace Document

variable {d : Document} {object : ObjectId} {o o' : StoredObject}

def put (d : Document) (object : ObjectId) (o : StoredObject) : Document :=
  { d with objects := d.objects.insert object o }

@[simp] theorem get?_put_self : (d.put object o).objects.get? object = some o := Table.get?_insert_self ..

theorem get?_put_of_ne {other : ObjectId} (different : other ≠ object) :
    (d.put object o).objects.get? other = d.objects.get? other :=
  Table.get?_insert_of_ne o different

@[simp] theorem put_put : (d.put object o).put object o' = d.put object o' := by
  simp only [put, Table.insert_insert]

theorem put_self (known : d.objects.get? object = some o) : d.put object o = d := by
  simp only [put, Table.insert_self known]

theorem tell_changeObject {f : StoredObject → Option StoredObject} (known : d.objects.get? object = some o)
    (next : f o = some o') : d.tell (d.changeObject object f) = (true, d.put object o') :=
  tell_eq_true.mpr (changeObject_eq_some.mpr ⟨o, o', known, next, rfl⟩)

def putAnnot (d : Document) (annot : AnnotId) (a : StoredAnnot) : Document :=
  { d with annots := d.annots.insert annot a }

@[simp] theorem get?_putAnnot_self {annot : AnnotId} {a : StoredAnnot} :
    (d.putAnnot annot a).annots.get? annot = some a :=
  Table.get?_insert_self ..

@[simp] theorem putAnnot_putAnnot {annot : AnnotId} {a a' : StoredAnnot} :
    (d.putAnnot annot a).putAnnot annot a' = d.putAnnot annot a' := by
  simp only [putAnnot, Table.insert_insert]

theorem putAnnot_self {annot : AnnotId} {a : StoredAnnot} (known : d.annots.get? annot = some a) :
    d.putAnnot annot a = d := by
  simp only [putAnnot, Table.insert_self known]

theorem tell_changeAnnot {annot : AnnotId} {a a' : StoredAnnot} {f : StoredAnnot → Option StoredAnnot}
    (known : d.annots.get? annot = some a) (next : f a = some a') :
    d.tell (d.changeAnnot annot f) = (true, d.putAnnot annot a') :=
  tell_eq_true.mpr (changeAnnot_eq_some.mpr ⟨a, a', known, next, rfl⟩)

theorem not_mem_failing (works : d.failing = []) (point : FailPoint) : point ∉ d.failing := by
  rw [works]
  exact List.not_mem_nil

theorem perform_working {α : Type} {call : Call α} {point : FailPoint} (named : call.failPoint? = some point)
    (works : point ∉ d.failing) : Library.perform call d = d.run call := by
  have performed : Document.perform call d = d.run call := by
    rw [Document.perform, named]
    exact if_neg (by simpa using works)
  exact performed

theorem perform_failing {α : Type} {call : Call α} {point : FailPoint} (named : call.failPoint? = some point)
    (fails : point ∈ d.failing) : Library.perform call d = (call.refused, d) := by
  have performed : Document.perform call d = (call.refused, d) := by
    rw [Document.perform, named]
    exact if_pos (by simpa using fails)
  exact performed

theorem ends_demand_reads {α : Type} {operation : Operation} {call : Call (Option α)} {answer : Option α}
    {ok : α → Document → Prop} {fail : Error → Document → Prop} (never : call.failPoint? = none)
    (reads : d.run call = (answer, d)) :
    Ends (demand operation call) d ok fail ↔
      (∀ a, answer = some a → ok a d) ∧ (answer = none → fail (.refused operation) d) := by
  rw [ends_demand, perform_unfailing never, reads]

theorem perform_setMatrix (known : d.objects.get? object = some o) (works : .setMatrix ∉ d.failing)
    (m : Matrix Float32) :
    Library.perform (.setMatrix object m) d = (true, d.put object { o with matrix := m }) := by
  rw [perform_working rfl works]
  exact tell_changeObject known rfl

theorem perform_transform (known : d.objects.get? object = some o) (m : Matrix Float32) :
    Library.perform (.transform object m) d = ((), d.put object { o with matrix := o.matrix.multiply m }) := by
  have next : d.tell (d.changeObject object fun o => some { o with matrix := o.matrix.multiply m }) =
      (true, d.put object { o with matrix := o.matrix.multiply m }) :=
    tell_changeObject known rfl
  rw [perform_unfailing rfl, run, next]

theorem perform_bounds_unplaced (works : .getBounds ∉ d.failing) :
    Library.perform (.bounds object) (d.put object { o with matrix := .identity }) =
      (o.localBounds?, d.put object { o with matrix := .identity }) := by
  have works' : .getBounds ∉ (d.put object { o with matrix := .identity }).failing := works
  rw [perform_working rfl works']
  simp only [run, object?, get?_put_self]
  rfl

/-- All that it takes for an object to be placed on a page: with the transform out of the way, the
document tells the bounds by which the flip is anchored. -/
structure Placeable (d : Document) (object : ObjectId) (page : PageId) (o : StoredObject) (p : Page)
    (bounds : Rect .page Float32) : Prop where
  object : d.objects.get? object = some o
  page : d.pages.get? page = some p
  setMatrix : .setMatrix ∉ d.failing
  getBounds : .getBounds ∉ d.failing
  bounds : o.localBounds? = some bounds

theorem Placeable.unique {page : PageId} {p p' : Page} {bounds bounds' : Rect .page Float32}
    (placeable : d.Placeable object page o p bounds) (placeable' : d.Placeable object page o' p' bounds') :
    o' = o ∧ p' = p ∧ bounds' = bounds := by
  cases placeable.object.symm.trans placeable'.object
  cases placeable.page.symm.trans placeable'.page
  cases placeable.bounds.symm.trans placeable'.bounds
  exact ⟨rfl, rfl, rfl⟩

end Document

theorem insist_changeAnnot {d : Document} {annot : AnnotId} {a a' : StoredAnnot} {operation : Operation}
    {call : Call Bool} {f : StoredAnnot → Option StoredAnnot}
    (performed : Library.perform call d = d.tell (d.changeAnnot annot f)) (known : d.annots.get? annot = some a)
    (next : f a = some a') : insist operation call d = (.ok (), d.putAnnot annot a') :=
  insist_ok (performed.trans (Document.tell_changeAnnot known next))

variable {α : Type} {d : Document} {object : ObjectId} {page : PageId}

theorem ends_unplaced {next : Float32 → Matrix Float32 → Option (Rect .page Float32) → Edit Document α}
    {ok : α → Document → Prop} {fail : Error → Document → Prop}
    (told : ∀ o p bounds, d.Placeable object page o p bounds →
      Ends (next p.height o.matrix (some bounds)) (d.put object { o with matrix := .identity }) ok fail)
    (untold : ∀ (o : StoredObject) (p : Page), d.objects.get? object = some o → .setMatrix ∉ d.failing →
      (∀ o p bounds, ¬d.Placeable object page o p bounds) →
      Ends (next p.height o.matrix none) (d.put object { o with matrix := .identity }) ok fail)
    (refused : ∀ error, (∀ o p bounds, ¬d.Placeable object page o p bounds) → fail error d) :
    Ends (do
      let height ← readPageHeight page
      let raw ← demand .getMatrix (.matrix object)
      insist .resetMatrix (.setMatrix object .identity)
      next height raw (← ask (.bounds object))) d ok fail := by
  apply ends_bind.mpr
  apply (Document.ends_demand_reads rfl rfl).mpr
  refine ⟨fun height answered => ?_, fun unknown => refused _ fun o p bounds placeable => ?_⟩
  swap
  · simp [placeable.page] at unknown
  obtain ⟨p, page_known, rfl⟩ := Option.map_eq_some_iff.mp answered
  apply ends_bind.mpr
  apply (Document.ends_demand_reads rfl rfl).mpr
  refine ⟨fun raw answered => ?_, fun unknown => refused _ fun o p bounds placeable => ?_⟩
  swap
  · simp [Document.object?, placeable.object] at unknown
  obtain ⟨o, known, rfl⟩ := Option.map_eq_some_iff.mp answered
  apply ends_bind.mpr
  by_cases works : .setMatrix ∈ d.failing
  · apply (ends_of_eq_error (insist_refused (Document.perform_failing rfl works))).mpr
    exact refused _ fun o p bounds placeable => placeable.setMatrix works
  apply (ends_of_eq_ok (insist_ok (Document.perform_setMatrix known works .identity))).mpr
  apply ends_bind.mpr
  apply ends_ask.mpr
  by_cases measures : .getBounds ∈ d.failing
  · have silent : Library.perform (.bounds object) (d.put object { o with matrix := .identity }) =
        (none, d.put object { o with matrix := .identity }) :=
      Document.perform_failing rfl measures
    rw [silent]
    exact untold o p known works fun o p bounds placeable => placeable.getBounds measures
  rw [Document.perform_bounds_unplaced measures]
  cases bounded : o.localBounds? with
  | some bounds => exact told o p bounds ⟨known, page_known, works, measures, bounded⟩
  | none =>
      refine untold o p known works fun o' p' bounds placeable => ?_
      cases known.symm.trans placeable.object
      cases bounded.symm.trans placeable.bounds

theorem readDeviceMatrix_ends :
    Ends (readDeviceMatrix object page) d
      (fun m d' => d' = d ∧ ∃ o p bounds, d.Placeable object page o p bounds ∧
        m = deviceMatrix o.matrix bounds p.height)
      (fun _ d' => d' = d ∧ ∀ o p bounds, ¬d.Placeable object page o p bounds) := by
  have restored : ∀ {o : StoredObject}, d.objects.get? object = some o → .setMatrix ∉ d.failing →
      Library.perform (.setMatrix object o.matrix) (d.put object { o with matrix := .identity }) = (true, d) := by
    intro o known works
    rw [Document.perform_setMatrix Document.get?_put_self works, Document.put_put, Document.put_self known]
  refine ends_unplaced (fun o p bounds placeable => ?_) (fun o p known works unplaceable => ?_)
    fun _ unplaceable => ⟨rfl, unplaceable⟩
  · apply ends_bind.mpr
    apply (ends_of_eq_ok (insist_ok (restored placeable.object placeable.setMatrix))).mpr
    exact ends_pure.mpr ⟨rfl, o, p, bounds, placeable, rfl⟩
  · apply ends_bind.mpr
    apply (ends_of_eq_ok (insist_ok (restored known works))).mpr
    exact ends_throw.mpr ⟨rfl, unplaceable⟩

theorem ends_transforms {steps : List (Matrix Float32)} {o : StoredObject} {fail : Error → Document → Prop}
    (known : d.objects.get? object = some o) :
    Ends (steps.forM fun step => ask (.transform object step)) d
      (fun _ d' => d' = d.put object { o with matrix := steps.foldl Matrix.multiply o.matrix }) fail := by
  induction steps generalizing d o with
  | nil => exact (Document.put_self known).symm
  | cons step steps ih =>
      apply ends_bind.mpr
      apply ends_ask.mpr
      rw [Document.perform_transform known]
      refine (ih Document.get?_put_self).mono (fun _ d' ended => ?_) fun _ _ => id
      rw [ended, Document.put_put]
      rfl

theorem writeDeviceMatrix_ends {device : Matrix Float32} :
    Ends (writeDeviceMatrix object page device) d
      (fun _ d' => ∃ o p bounds, d.Placeable object page o p bounds ∧ d' = d.put object
        { o with matrix := (placement device bounds p.height).foldl Matrix.multiply .identity })
      (fun _ d' => d' = d ∧ ∀ o p bounds, ¬d.Placeable object page o p bounds) := by
  refine ends_unplaced (fun o p bounds placeable => ?_) (fun o p known works unplaceable => ?_)
    fun _ unplaceable => ⟨rfl, unplaceable⟩
  · refine (ends_transforms Document.get?_put_self).mono (fun _ d' ended => ?_) fun _ _ => id
    exact ⟨o, p, bounds, placeable, ended.trans Document.put_put⟩
  · apply ends_bind.mpr
    apply ends_ask.mpr
    rw [Document.perform_setMatrix Document.get?_put_self works, Document.put_put, Document.put_self known]
    exact ends_throw.mpr ⟨rfl, unplaceable⟩

namespace Document.Placeable

variable {o : StoredObject} {p : Page} {bounds : Rect .page Float32}

theorem readDeviceMatrix_eq (placeable : d.Placeable object page o p bounds) :
    readDeviceMatrix object page d = (.ok (deviceMatrix o.matrix bounds p.height), d) := by
  refine (readDeviceMatrix_ends.mono ?_ fun _ _ failed => failed.2 o p bounds placeable).eq_ok
  rintro m d' ⟨rfl, o', p', bounds', placeable', rfl⟩
  obtain ⟨rfl, rfl, rfl⟩ := placeable.unique placeable'
  exact ⟨rfl, rfl⟩

theorem writeDeviceMatrix_eq (placeable : d.Placeable object page o p bounds) (device : Matrix Float32) :
    writeDeviceMatrix object page device d = (.ok (), d.put object
      { o with matrix := (placement device bounds p.height).foldl Matrix.multiply .identity }) := by
  refine (writeDeviceMatrix_ends.mono ?_ fun _ _ failed => failed.2 o p bounds placeable).eq_ok
  rintro - d' ⟨o', p', bounds', placeable', rfl⟩
  obtain ⟨rfl, rfl, rfl⟩ := placeable.unique placeable'
  exact ⟨rfl, rfl⟩

theorem put (placeable : d.Placeable object page o p bounds) (raw : Matrix Float32) :
    (d.put object { o with matrix := raw }).Placeable object page { o with matrix := raw } p bounds :=
  ⟨get?_put_self, placeable.page, placeable.setMatrix, placeable.getBounds, placeable.bounds⟩

end Document.Placeable

theorem Document.Sound.bounded {o : StoredObject} (sound : d.Sound) (known : d.objects.get? object = some o) :
    ∃ bounds, o.localBounds? = some bounds :=
  StoredObject.localBounds?_of_point (sound.contents object o known).localPoints_ne_nil

/-- Writing a device matrix replaces the transform of an object by three transforms appended to the
identity, whatever it was before, and touches nothing else; what is read back is computed from the same
bounds and the same height. A call that fails leaves the document as it was. -/
theorem transform_written_and_read {d : Document} (reachable : d.Reachable) :
    (∀ object o page p device, d.objects.get? object = some o → d.pages.get? page = some p →
      .setMatrix ∉ d.failing → .getBounds ∉ d.failing →
      ∃ bounds s₀ s₁ s₂, o.localBounds? = some bounds ∧ placement device bounds p.height = [s₀, s₁, s₂] ∧
        let written := ((Matrix.identity.multiply s₀).multiply s₁).multiply s₂
        (∀ raw, writeDeviceMatrix object page device (d.put object { o with matrix := raw }) =
          (.ok (), d.put object { o with matrix := written })) ∧
        writeDeviceMatrix object page device d = (.ok (), d.put object { o with matrix := written }) ∧
        readDeviceMatrix object page (d.put object { o with matrix := written }) =
          (.ok (deviceMatrix written bounds p.height), d.put object { o with matrix := written })) ∧
    ∀ object page,
      (∀ device error d', writeDeviceMatrix object page device d = (.error error, d') → d' = d) ∧
      ∀ error d', readDeviceMatrix object page d = (.error error, d') → d' = d := by
  refine ⟨fun object o page p device known page_known moves measures => ?_, fun object page => ⟨?_, ?_⟩⟩
  · obtain ⟨bounds, bounded⟩ := reachable.sound.bounded known
    have placeable : d.Placeable object page o p bounds := ⟨known, page_known, moves, measures, bounded⟩
    refine ⟨bounds, _, _, _, bounded, rfl, fun raw => ?_, placeable.writeDeviceMatrix_eq device,
      (placeable.put _).readDeviceMatrix_eq⟩
    rw [(placeable.put raw).writeDeviceMatrix_eq device, Document.put_put]
    rfl
  · intro device error d' failed
    exact (writeDeviceMatrix_ends.of_error failed).1
  · intro error d' failed
    exact (readDeviceMatrix_ends.of_error failed).1

theorem transform_of_nans_written_and_read :
    ∃ (d d' : Document) (o : StoredObject), d.Reachable ∧ d.objects.get? ⟨3⟩ = some o ∧ o.matrix.a.isNaN = true ∧
      writeDeviceMatrix ⟨3⟩ ⟨2⟩ ⟨2, 0, 0, 3, 5, 7⟩ d = (.ok (), d') ∧
      readDeviceMatrix ⟨3⟩ ⟨2⟩ d' = (.ok ⟨2, 0, 0, 3, 5, 7⟩, d') := by
  let nans : Matrix Float32 := ⟨0 / 0, 0 / 0, 0 / 0, 0 / 0, 0 / 0, 0 / 0⟩
  let o : StoredObject := ⟨.path [⟨.moveTo, 1, 2, false⟩] ⟨.none, false⟩, nans, .black, .black, 1⟩
  have path := (((Document.reachable_empty false).step .createDocument).step (.addPage 792)).step
    (.call (.createPath 1 2))
  have reachable := path.step (.call (.setMatrix ⟨3⟩ nans))
  obtain ⟨bounds, s₀, s₁, s₂, bounded, steps, -, writes, reads⟩ :=
    (transform_written_and_read reachable).1 ⟨3⟩ o ⟨2⟩ ⟨792, [], [], 0⟩ ⟨2, 0, 0, 3, 5, 7⟩ rfl rfl nofun nofun
  have same : bounds = ⟨1, 2, 1, 2⟩ := Option.some.inj (bounded.symm.trans (by decide +kernel))
  subst same
  have told : deviceMatrix (((Matrix.identity.multiply s₀).multiply s₁).multiply s₂) ⟨1, 2, 1, 2⟩ 792 =
      ⟨2, 0, 0, 3, 5, 7⟩ := by
    obtain ⟨rfl, rfl, rfl⟩ : _ ∧ _ ∧ _ := by simpa [placement] using steps.symm
    decide +kernel
  exact ⟨_, _, o, reachable, rfl, by decide +kernel, writes, by rw [← told]; exact reads⟩

end PageContent
