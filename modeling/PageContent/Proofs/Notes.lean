import PageContent.Proofs.Overwriting
import PageContent.Proofs.RoundTrip

namespace PageContent.FreeText

variable {d : Document} {annot : AnnotId} {a : StoredAnnot} {rect : Rect .page Float32} {note : FreeText}

def told (a : StoredAnnot) (rect : Rect .page Float32) : Except Error FreeText :=
  match a.strings.get? contentsKey, a.color, a.interior with
  | none, _, _ => .error .missingContents
  | some units, some textColor, some backgroundColor =>
    .ok ⟨rect, Utf16.toText units, textColor, backgroundColor⟩
  | some _, _, _ => .error (.refused .getAnnotColor)

theorem told_eq_missing_iff : told a rect = .error .missingContents ↔ a.strings.get? contentsKey = none := by
  unfold told
  split <;> simp_all

theorem told_of_contents {units : List UInt16} {textColor backgroundColor : Color}
    (contents : a.strings.get? contentsKey = some units) (color : a.color = some textColor)
    (interior : a.interior = some backgroundColor) :
    told a rect = .ok ⟨rect, Utf16.toText units, textColor, backgroundColor⟩ := by
  rw [told, contents, color, interior]

theorem perform_annotColor {role : ColorRole} {color : Option Color} (known : d.annots.get? annot = some a)
    (colored : a.colorOf role = color) : Library.perform (.annotColor annot role) d = (color, d) := by
  rw [Document.perform_unfailing rfl, Document.run, Document.annot?, known, ← colored]
  rfl

theorem readContents_eq (known : d.annots.get? annot = some a) (sound : a.Sound) :
    readUnits (.annotString annot contentsKey) .missingContents (.refused .getContents) d =
      ((a.strings.get? contentsKey).elim (.error .missingContents) .ok, d) := by
  have ends : Ends (readUnits (.annotString annot contentsKey) .missingContents (.refused .getContents)) d
      (fun units d' => d' = d ∧ a.strings.get? contentsKey = some units ∧ units ≠ [])
      (fun e d' => e = .missingContents ∧ d' = d ∧ ∀ units, a.strings.get? contentsKey = some units → units = []) :=
    readUnits_ends (fun _ => rfl) fun buffer => by simp [Document.run, Document.annot?, known]
  cases contents : a.strings.get? contentsKey with
  | none =>
      rw [contents] at ends
      refine (ends.mono ?_ ?_).eq_error
      · rintro _ _ ⟨-, ⟨⟩, -⟩
      · rintro _ _ ⟨rfl, rfl, -⟩
        exact ⟨rfl, rfl⟩
  | some units =>
      obtain ⟨body, -, rfl⟩ := sound contentsKey units contents
      rw [contents] at ends
      refine (ends.mono ?_ ?_).eq_ok
      · rintro _ _ ⟨rfl, ⟨⟩, -⟩
        exact ⟨rfl, rfl⟩
      · rintro _ _ ⟨-, -, empty⟩
        exact List.append_ne_nil_of_right_ne_nil body (List.cons_ne_nil _ _) (empty _ rfl)

theorem read_eq (known : d.annots.get? annot = some a) (kind : a.kind = .freeText) (placed : a.rect = some rect)
    (sound : a.Sound) : read annot d = (told a rect, d) := by
  have bounds : (readAnnotRect annot : Edit Document _) d = (.ok rect, d) := by
    refine demand_eq rfl ?_
    rw [Document.run, Document.annot?, known, ← placed]
    rfl
  rw [read, bind_ok (expectAnnotKind_ok known kind), bind_ok bounds, told]
  cases contents : a.strings.get? contentsKey with
  | none => exact bind_error ((readContents_eq known sound).trans (by rw [contents]; rfl))
  | some units =>
      rw [bind_ok ((readContents_eq known sound).trans (by rw [contents]; rfl))]
      cases color : a.color with
      | none => exact bind_error (demand_refused (perform_annotColor known color))
      | some textColor =>
          have first : demand .getAnnotColor (.annotColor annot .color) d = (.ok textColor, d) :=
            demand_ok (perform_annotColor known color)
          rw [bind_ok first]
          cases interior : a.interior with
          | none => exact bind_error (demand_refused (perform_annotColor known interior))
          | some backgroundColor => exact bind_ok (demand_ok (perform_annotColor known interior))

theorem read_onto (known : d.annots.get? annot = some (note.onto a)) (kind : a.kind = .freeText) (sound : a.Sound) :
    read annot d = (.ok { note with text := Utf16.beforeZero note.text }, d) := by
  have contents : (note.onto a).strings.get? contentsKey = some (Utf16.terminated (Utf16.ofText note.text)) :=
    Table.get?_insert_self ..
  rw [read_eq known kind rfl (sound.setString _ _), told_of_contents contents rfl rfl,
    Utf16.toText_terminated_ofText]

theorem update_read (known : d.annots.get? annot = some a) (kind : a.kind = .freeText) (sound : a.Sound)
    (works : .setAnnotColor ∉ d.failing) (note : FreeText) :
    ∃ d', note.update annot d = (.ok (), d') ∧
      read annot d' = (.ok { note with text := Utf16.beforeZero note.text }, d') := by
  refine ⟨_, (update_eq known kind).trans (if_neg works), ?_⟩
  exact read_onto Document.get?_putAnnot_self kind sound

theorem create_read {page : PageRef} {p : Page} (known : d.pages.get? page.page = some p)
    (creates : .createAnnot ∉ d.failing) (works : .setAnnotColor ∉ d.failing) (config : EditConfig) (note : FreeText) :
    ∃ annot d', (Annot.freeText note).create page config d = (.ok annot, d') ∧
      read annot d' = (.ok { note with text := Utf16.beforeZero note.text }, d') := by
  let annot : AnnotId := ⟨d.issued + 1⟩
  let d₁ : Document := { d with
    issued := d.issued + 1
    pages := d.pages.insert page.page { p with annots := p.annots ++ [annot] }
    annots := d.annots.insert annot (.new .freeText) }
  have added : d.createAnnot page.page .freeText = some (annot, d₁) :=
    Document.createAnnot_eq_some.mpr ⟨rfl, p, known, rfl⟩
  have created : demand .createAnnot (.createAnnot page.page .freeText) d = (.ok annot, d₁) := by
    refine demand_ok ((Document.perform_working rfl creates).trans ?_)
    rw [Document.run, added]
    rfl
  have sound : (StoredAnnot.new .freeText).Sound := by
    intro key units found
    cases found
  obtain ⟨d', updated, shown⟩ := update_read (Table.get?_insert_self ..) rfl sound (d := d₁) works note
  refine ⟨annot, d', ?_, shown⟩
  rw [Annot.create]
  exact (bind_ok created).trans (bind_ok (orUndo_ok updated))

/-- A note can be put on a page and written over another note, and is read back with its text up to the first zero.
A reader fails where there are no contents, whereas contents without characters are an empty text. -/
theorem notes_are_read_back (reachable : d.Reachable) :
    (∀ (page : PageRef) p config (note : FreeText), d.pages.get? page.page = some p → .createAnnot ∉ d.failing →
      .setAnnotColor ∉ d.failing → ∃ annot d', (Annot.freeText note).create page config d = (.ok annot, d') ∧
        read annot d' = (.ok { note with text := Utf16.beforeZero note.text }, d')) ∧
    (∀ annot a (note : FreeText), d.annots.get? annot = some a → a.kind = .freeText → .setAnnotColor ∉ d.failing →
      ∃ d', note.update annot d = (.ok (), d') ∧
        read annot d' = (.ok { note with text := Utf16.beforeZero note.text }, d')) ∧
    ∀ annot a rect, d.annots.get? annot = some a → a.kind = .freeText → a.rect = some rect →
      ((read annot d).1 = .error .missingContents ↔ a.strings.get? contentsKey = none) ∧
      ∀ units textColor backgroundColor, a.strings.get? contentsKey = some units → a.color = some textColor →
        a.interior = some backgroundColor →
          read annot d = (.ok ⟨rect, Utf16.toText units, textColor, backgroundColor⟩, d) ∧
            (Utf16.toText units = "" ↔ units = [0]) := by
  have strings := reachable.sound.strings
  refine ⟨fun page p config note known creates works => create_read known creates works config note,
    fun annot a note known kind works => update_read known kind (strings annot a known) works note,
    fun annot a rect known kind placed => ?_⟩
  have read := read_eq known kind placed (strings annot a known)
  refine ⟨by rw [read, told_eq_missing_iff], fun units textColor backgroundColor contents color interior => ⟨?_, ?_⟩⟩
  · rw [read, told_of_contents contents color interior]
  · rw [Utf16.toText_eq_empty_iff, (strings annot a known contentsKey units contents).body_eq_nil_iff]

theorem cut_note_is_read_back :
    let note : FreeText := ⟨⟨0, 10, 10, 0⟩, "𝄞\x00b", .black, .white⟩
    let cut : FreeText := { note with text := "𝄞" }
    ∃ (d d₁ d₂ : Document) (page : PageRef) (annot : AnnotId), d.Reachable ∧
      (Annot.freeText note).create page {} d = (.ok annot, d₁) ∧ read annot d₁ = (.ok cut, d₁) ∧
      note.update ⟨3⟩ d = (.ok (), d₂) ∧ read ⟨3⟩ d₂ = (.ok cut, d₂) ∧
      read ⟨3⟩ d = (.ok ⟨⟨1, 2, 3, 0⟩, "", .white, .black⟩, d) ∧ (read ⟨4⟩ d).1 = .error .missingContents := by
  intro note cut
  have page := ((Document.reachable_empty false).step .createDocument).step (.addPage 792)
  have empty := ((page.step (.call (.createAnnot ⟨2⟩ .freeText))).step (.call (.setAnnotRect ⟨3⟩ ⟨1, 2, 3, 0⟩))).step
    (.call (.setAnnotString ⟨3⟩ contentsKey [0]))
  have colored := (empty.step (.call (.setAnnotColor ⟨3⟩ .color .white))).step
    (.call (.setAnnotColor ⟨3⟩ .interior .black))
  have reachable := (colored.step (.call (.createAnnot ⟨2⟩ .freeText))).step (.call (.setAnnotRect ⟨4⟩ ⟨0, 1, 1, 0⟩))
  obtain ⟨creates, updates, reads⟩ := notes_are_read_back reachable
  have works : ∀ point : FailPoint, point ∉ ([] : List FailPoint) := fun _ => List.not_mem_nil
  have same : { note with text := Utf16.beforeZero note.text } = cut := by decide +kernel
  obtain ⟨annot, d₁, created, shown⟩ := creates ⟨⟨1⟩, ⟨2⟩⟩ _ {} note rfl (works _) (works _)
  obtain ⟨d₂, updated, shown'⟩ := updates ⟨3⟩ _ note rfl rfl (works _)
  rw [same] at shown shown'
  obtain ⟨blank, -⟩ := (reads ⟨3⟩ _ _ rfl rfl rfl).2 _ _ _ rfl rfl rfl
  have absent := (reads ⟨4⟩ _ _ rfl rfl rfl).1.mpr rfl
  exact ⟨_, d₁, d₂, _, annot, reachable, created, shown, updated, shown', blank, absent⟩

end PageContent.FreeText
