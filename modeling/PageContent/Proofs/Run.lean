import PageContent.Proofs.Sound

namespace PageContent

def Call.issues : {α : Type} → Call α → α → List Nat
  | _, .createPath .., answer => (answer.map (·.raw)).toList
  | _, .createImage .., answer => (answer.map (·.raw)).toList
  | _, .createText .., answer => (answer.map (·.raw)).toList
  | _, .loadFont .., answer => (answer.map (·.raw)).toList
  | _, .createAnnot .., answer => (answer.map (·.raw)).toList
  | _, _, _ => []

namespace Document

inductive Step (d : Document) : List Nat → Document → Prop
  | call {α : Type} (call : Call α) : Step d (call.issues (perform call d).1) (perform call d).2
  | createDocument : Step d [d.createDocument.1.raw] d.createDocument.2
  | addPage (height) : Step d [(d.addPage height).1.raw] (d.addPage height).2
  | createShading : Step d [d.createShading.1.raw] d.createShading.2
  | addBezier (object) (points) : Step d [] (d.tell (d.addBezier object points)).2
  | replaceBitmap (object) (bitmap) : Step d [] (d.tell (d.replaceBitmap object bitmap)).2
  | clearString (annot) (key) : Step d [] (d.tell (d.clearString annot key)).2
  | failOn (point) : Step d [] (d.failOn point)
  | clearFailures : Step d [] d.clearFailures
  | allowQuadRemoval (removesQuads) : Step d [] { d with removesQuads }

inductive Run (d : Document) : List Nat → Document → Prop
  | start : Run d [] d
  | step {ids middle more d'} (run : Run d ids middle) (step : Step middle more d') : Run d (ids ++ more) d'

def Reachable (d : Document) : Prop := ∃ removesQuads ids, Run (empty removesQuads) ids d

variable {d d' : Document} {ids more : List Nat}

theorem Step.change (step : Step d ids d') : ∃ effect, d.Change effect d' := by
  cases step with
  | call call => exact ⟨_, perform_change d call⟩
  | createDocument => exact ⟨_, .newDocument⟩
  | addPage height => exact ⟨_, .newPage height⟩
  | createShading => exact ⟨_, .newObject .shading trivial⟩
  | addBezier object points => exact ⟨_, change_addBezier d object points⟩
  | replaceBitmap object bitmap => exact ⟨_, change_replaceBitmap d object bitmap⟩
  | clearString annot key => exact ⟨_, change_clearString d annot key⟩
  | failOn | clearFailures | allowQuadRemoval => exact ⟨_, .settings _ _⟩

theorem Change.issued_eq {effect : Effect} (change : d.Change effect d')
    (old : effect ≠ .newObject ∧ effect ≠ .newFont ∧ (∀ page, effect ≠ .newAnnot page) ∧ effect ≠ .setup) :
    d'.issued = d.issued := by
  cases change with
  | removeAnnot => rw [issued_releaseAnnot]
  | newFont | newObject | newAnnot | newDocument | newPage | settings => simp at old
  | nothing | object | annot | content | insert | detach | destroy | embed | removeEmbedded => rfl

/-- A document which gives out the handles `ids`, the next ones in order, and no other. -/
def Issues (d : Document) (ids : List Nat) (d' : Document) : Prop :=
  ids = List.range' (d.issued + 1) ids.length ∧ d'.issued = d.issued + ids.length

theorem Issues.none (same : d'.issued = d.issued) : Issues d [] d' := ⟨rfl, same⟩

theorem Issues.one (next : d'.issued = d.issued + 1) : Issues d [d.issued + 1] d' := ⟨rfl, next⟩

theorem Issues.trans {d'' : Document} (first : Issues d ids d') (second : Issues d' more d'') :
    Issues d (ids ++ more) d'' := by
  refine ⟨?_, ?_⟩
  · rw [List.length_append, ← List.range'_append_1, ← first.1]
    conv_lhs => rw [second.1, first.2]
    rw [Nat.add_right_comm]
  · rw [second.2, first.2, List.length_append, Nat.add_assoc]

theorem run_issues (d : Document) {α : Type} (call : Call α) :
    Issues d (call.issues (d.run call).1) (d.run call).2 := by
  cases call with
  | createPath | createImage | loadFont => exact .one rfl
  | createText document font size =>
      simp only [run]
      split
      case isTrue => exact .one rfl
      case isFalse => exact .none rfl
  | createAnnot page kind =>
      simp only [run, createAnnot]
      cases changed : d.changePage page fun p => some { p with annots := p.annots ++ [⟨d.issued + 1⟩] } with
      | none => exact .none rfl
      | some d' => exact .one rfl
  | _ => exact .none ((run_change d _).issued_eq (by simp [Call.effect]))

theorem issues_refused {α : Type} (call : Call α) : call.issues call.refused = [] := by
  cases call <;> rfl

theorem perform_issues (d : Document) {α : Type} (call : Call α) :
    Issues d (call.issues (perform call d).1) (perform call d).2 := by
  rw [perform]
  split
  case isTrue =>
    rw [issues_refused]
    exact .none rfl
  case isFalse => exact run_issues d call

theorem Step.issues (step : Step d ids d') : Issues d ids d' := by
  cases step with
  | call call => exact perform_issues d call
  | createDocument | addPage | createShading => exact .one rfl
  | addBezier object points => exact .none ((change_addBezier d object points).issued_eq (by simp))
  | replaceBitmap object bitmap => exact .none ((change_replaceBitmap d object bitmap).issued_eq (by simp))
  | clearString annot key => exact .none ((change_clearString d annot key).issued_eq (by simp))
  | failOn | clearFailures | allowQuadRemoval => exact .none rfl

theorem Run.sound (run : Run d ids d') (sound : d.Sound) : d'.Sound := by
  induction run with
  | start => exact sound
  | step run step ih =>
      obtain ⟨effect, change⟩ := step.change
      exact ih.change change

theorem Run.issues (run : Run d ids d') : Issues d ids d' := by
  induction run with
  | start => exact .none rfl
  | step run step ih => exact ih.trans step.issues

theorem Reachable.sound (reachable : Reachable d) : d.Sound := by
  obtain ⟨removesQuads, ids, run⟩ := reachable
  exact run.sound (sound_empty removesQuads)

theorem reachable_empty (removesQuads : Bool) : Reachable (empty removesQuads) := ⟨removesQuads, [], .start⟩

theorem Reachable.step (reachable : Reachable d) (step : Step d more d') : Reachable d' := by
  obtain ⟨removesQuads, ids, run⟩ := reachable
  exact ⟨removesQuads, ids ++ more, run.step step⟩

theorem Run.absent (run : Run d ids d') :
    (∀ object : ObjectId, object.raw ≤ d.issued → object ∉ d.objects.keys → object ∉ d'.objects.keys) ∧
      ∀ annot : AnnotId, annot.raw ≤ d.issued → annot ∉ d.annots.keys → annot ∉ d'.annots.keys := by
  induction run with
  | start => exact ⟨fun _ _ => id, fun _ _ => id⟩
  | step run step ih =>
      obtain ⟨effect, change⟩ := step.change
      have later := run.issues.2
      refine ⟨fun object old absent => ?_, fun annot old absent => ?_⟩
      · exact change.grows.objects.absent (by omega) (ih.1 object old absent)
      · exact change.grows.annots.absent (by omega) (ih.2 annot old absent)

theorem issues_empty {removesQuads : Bool} (run : Run (empty removesQuads) ids d) :
    ids.Nodup ∧ ∀ id, id ∈ ids ↔ 0 < id ∧ id ≤ d.issued := by
  obtain ⟨numbers, count⟩ := run.issues
  refine ⟨numbers ▸ List.nodup_range', fun id => ?_⟩
  rw [numbers, List.mem_range'_1, count]
  simp only [empty]
  omega

/-- In every state that a run of operations can reach, objects and annotations are owned, listed and
formed as they should be, and a handle names one thing for ever. -/
theorem run_keeps_sound {removesQuads : Bool} (run : Run (empty removesQuads) ids d) :
    d.Sound ∧ ids.Nodup ∧ (∀ id ∈ ids, id ≤ d.issued) ∧
      ∀ more d', Run d more d' →
        (∀ id ∈ more, id ∉ ids) ∧
        (∀ object : ObjectId, object.raw ∈ ids → d.isLive object = false → d'.isLive object = false) ∧
        ∀ annot : AnnotId, annot.raw ∈ ids → annot ∉ d.annots.keys → annot ∉ d'.annots.keys := by
  obtain ⟨nodup, issued⟩ := issues_empty run
  refine ⟨run.sound (sound_empty removesQuads), nodup, fun id mem => ((issued id).mp mem).2,
    fun more d' later => ?_⟩
  have gone := later.absent
  refine ⟨fun id new old => ?_, fun object old dead => ?_, fun annot old =>
    gone.2 annot ((issued _).mp old).2⟩
  · have after : d.issued + 1 ≤ id := by
      rw [later.issues.1] at new
      exact (List.mem_range'_1.mp new).1
    have before := ((issued id).mp old).2
    omega
  · rw [← Bool.not_eq_true, isLive_iff] at dead ⊢
    exact gone.1 object ((issued _).mp old).2 dead

theorem run_keeps_destroyed_path :
    ∃ d, Run (empty false) [1, 2, 3] d ∧ d.Sound ∧ ∀ more d', Run d more d' → 3 ∉ more ∧
      d'.isLive ⟨3⟩ = false := by
  have page : Run (empty false) [1, 2] _ := (Run.start.step .createDocument).step (.addPage 792)
  have path : Run (empty false) [1, 2, 3] _ := page.step (.call (.createPath 0 0))
  have destroyed : Run (empty false) [1, 2, 3] _ := path.step (.call (.destroyObject ⟨3⟩))
  obtain ⟨sound, -, -, later⟩ := run_keeps_sound destroyed
  refine ⟨_, destroyed, sound, fun more d' run => ⟨fun new => ?_, (later more d' run).2.1 ⟨3⟩ (by simp) rfl⟩⟩
  exact (later more d' run).1 3 new (by simp)

end Document

end PageContent
