import PageContent.Proofs.RoundTrip

namespace PageContent

theorem Utf16.beforeZero_eq_empty_iff {text : String} :
    beforeZero text = "" ↔ text = "" ∨ text.toList.head? = some '\x00' := by
  rw [beforeZero, ← String.toList_inj, String.toList_ofList, ← String.toList_inj]
  cases text.toList with
  | nil => simp
  | cons c rest => by_cases zero : c = '\x00' <;> simp [zero]

variable {d d' : Document} {object : ObjectId} {page : PageRef} {stored : StoredObject} {string : String} {font : Font}
  {size : Float32} {mode : RenderMode} {attributes : Attributes}

namespace PageObject

theorem update_of_create {o : PageObject} (created : o.create page d = (.ok object, d')) :
    ∃ d₁, o.update object page d₁ = (.ok (), d') := by
  have ends : Ends (o.create page) d (fun object d' => ∃ d₁, o.update object page d₁ = (.ok (), d'))
      fun _ _ => True := by
    apply ends_bind.mpr
    refine (ends_run _ d).mono (fun object d₁ _ => ?_) fun _ _ _ => trivial
    apply ends_bind.mpr
    refine ends_orUndo.mpr ((ends_run _ d₁).mono (fun _ d' updated => ?_) fun _ _ _ => ends_ask.mpr trivial)
    exact ends_pure.mpr ⟨d₁, updated⟩
  exact (ends_of_eq_ok created).mp ends

theorem update_text (updated : update ⟨.text string font size mode, attributes⟩ object page d = (.ok (), d')) :
    string ≠ "" ∧ ∃ id size',
      d'.content? object = some (.text id size' (Utf16.terminated (Utf16.ofText string)) mode.code) := by
  obtain ⟨before, after, p, bounds, writable, rfl⟩ := update_eq_ok_iff.mp updated
  have written : (Content.text string font size mode).written before.content = some after := writable.takes.written
  rw [Document.content?, Document.object?, Document.get?_put_self]
  cases content : before.content with
  | text id size' units code =>
      rw [content, Content.written] at written
      split at written
      case isTrue => cases written
      case isFalse filled =>
        cases written
        exact ⟨fun empty => filled (String.isEmpty_iff.mpr empty), id, size', rfl⟩
  | path | image | shading => rw [content] at written; cases written

theorem update_emptyText (known : d.objects.get? object = some stored) (kind : stored.content.kind = .text)
    (empty : string = "") :
    update ⟨.text string font size mode, attributes⟩ object page d = (.error .emptyText, d) := by
  have checked : expectKind object .text d = (.ok (), d) := expectKind_ok ((objectKind_eq known).trans kind)
  subst empty
  exact (bind_ok checked).trans (bind_error rfl)

theorem create_emptyText (sound : d.Sound) (empty : string = "") :
    ∃ e d', create ⟨.text string font size mode, attributes⟩ page d = (.error e, d') ∧ d.Same d' ∧
      (.loadFont ∉ d.failing → .createText ∉ d.failing → e = .emptyText) := by
  rcases created : create ⟨.text string font size mode, attributes⟩ page d with ⟨e | object, d'⟩
  · have same := (ends_of_eq_error created).mp (create_ends _ page sound)
    refine ⟨e, d', rfl, same, fun loads creates => ?_⟩
    have ends : Ends (create ⟨.text string font size mode, attributes⟩ page) d (fun _ _ => False)
        fun e _ => e = .emptyText := by
      apply ends_bind.mpr
      apply (ends_of_eq_ok (Content.allocateText_eq loads creates ..)).mpr
      apply ends_bind.mpr
      apply ends_orUndo.mpr
      apply (ends_of_eq_error (update_emptyText Document.get?_put_self rfl empty)).mpr
      exact ends_ask.mpr rfl
    exact (ends_of_eq_error created).mp ends
  · obtain ⟨d₁, updated⟩ := update_of_create created
    exact absurd empty (update_text updated).1

theorem readAs_text {id : FontId} {units : List UInt16} {code : Int} {shown : PageObject}
    (stored : d.content? object = some (.text id size units code))
    (told : (readAs .text object page d).1 = .ok shown) :
    ∃ font mode', shown.content = .text (Utf16.toText units) font size mode' ∧
      RenderMode.ofCode? code = some mode' := by
  obtain ⟨o, known, content⟩ := Option.map_eq_some_iff.mp stored
  have kind : d.run (.objectKind object) = (.text, d) :=
    congrArg (·, d) ((objectKind_eq known).trans (congrArg StoredContent.kind content))
  have asked : read object page d = readAs .text object page d := by rw [read, bind_ok (ask_eq rfl kind)]
  obtain ⟨o', p, bounds, placeable, shows, -⟩ := read_eq_ok_iff.mp (asked ▸ told)
  cases known.symm.trans placeable.object
  rw [content] at shows
  cases same : shown.content with
  | text =>
      rw [same] at shows
      cases shows with
      | text _ _ _ coded => exact ⟨_, _, rfl, coded⟩
  | path | image => rw [same] at shows; cases shows

end PageObject

/-- A text that was written, to an old object or to a new one, has no characters if and only if its string starts with
a zero, since what is stored ends there. A string without characters is refused, and nothing is written of it. -/
theorem text_is_written_empty_iff (reachable : d.Reachable) (page : PageRef) (string : String) (font : Font)
    (size : Float32) (mode : RenderMode) (attributes : Attributes) :
    let o : PageObject := ⟨.text string font size mode, attributes⟩
    (∀ object d', o.update object page d = (.ok (), d') ∨ o.create page d = (.ok object, d') →
      string ≠ "" ∧
      ∃ units, (d'.content? object).bind (·.units?) = some units ∧
        (Utf16.body units = [] ↔ string.toList.head? = some '\x00') ∧
        ∀ page' shown, (PageObject.readAs .text object page' d').1 = .ok shown →
          ∃ text font' size', shown.content = .text text font' size' mode ∧
            (text = "" ↔ string.toList.head? = some '\x00')) ∧
    (string = "" →
      (∀ object stored, d.objects.get? object = some stored → stored.content.kind = .text →
        o.update object page d = (.error .emptyText, d)) ∧
      ∃ e d', o.create page d = (.error e, d') ∧ d.Same d' ∧
        (.loadFont ∉ d.failing → .createText ∉ d.failing → e = .emptyText)) := by
  intro o
  refine ⟨fun object d' written => ?_, fun empty => ⟨fun object stored known kind => ?_, ?_⟩⟩
  · have updated : ∃ d₁, o.update object page d₁ = (.ok (), d') :=
      written.elim (fun updated => ⟨d, updated⟩) PageObject.update_of_create
    obtain ⟨d₁, updated⟩ := updated
    obtain ⟨filled, id, size', stored⟩ := PageObject.update_text updated
    have starts : Utf16.toText (Utf16.terminated (Utf16.ofText string)) = "" ↔
        string.toList.head? = some '\x00' := by
      rw [Utf16.toText_terminated_ofText, Utf16.beforeZero_eq_empty_iff, or_iff_right filled]
    refine ⟨filled, _, by rw [stored]; rfl, Utf16.toText_eq_empty_iff.symm.trans starts, fun page' shown told => ?_⟩
    obtain ⟨font', mode', same, coded⟩ := PageObject.readAs_text stored told
    cases (RenderMode.ofCode?_code mode).symm.trans coded
    exact ⟨_, font', size', same, starts⟩
  · exact PageObject.update_emptyText known kind empty
  · exact PageObject.create_emptyText reachable.sound empty

theorem text_before_zero_is_written :
    ∃ (d d' : Document) (page : PageRef) (o empty : PageObject), d.Reachable ∧
      o.content = .text "a\x00b" .regular 12 .fill ∧ empty.content = .text "" .regular 12 .fill ∧
      o.update ⟨4⟩ page d = (.ok (), d') ∧
      (∃ units, (d'.content? ⟨4⟩).bind (·.units?) = some units ∧ Utf16.body units ≠ []) ∧
      empty.update ⟨4⟩ page d = (.error .emptyText, d) := by
  have page := ((Document.reachable_empty false).step .createDocument).step (.addPage 792)
  have reachable := (page.step (.call (.loadFont ⟨1⟩ "Helvetica"))).step (.call (.createText ⟨1⟩ ⟨3⟩ 12))
  generalize same : (Document.perform (.createText ⟨1⟩ ⟨3⟩ 12) _).2 = d at reachable
  have written := text_is_written_empty_iff reachable ⟨⟨1⟩, ⟨2⟩⟩ "a\x00b" .regular 12 .fill .plain
  have refused := text_is_written_empty_iff reachable ⟨⟨1⟩, ⟨2⟩⟩ "" .regular 12 .fill .plain
  have updated : (PageObject.update ⟨.text "a\x00b" .regular 12 .fill, .plain⟩ ⟨4⟩ ⟨⟨1⟩, ⟨2⟩⟩ d).1 = .ok () := by
    rw [← same]
    decide +kernel
  obtain ⟨-, units, stored, empty_iff, -⟩ := written.1 ⟨4⟩ _ (.inl (Prod.ext updated rfl))
  have filled : Utf16.body units ≠ [] := fun empty => absurd (empty_iff.mp empty) (by decide)
  have empty := (refused.2 rfl).1 ⟨4⟩ _ (by rw [← same]; rfl) rfl
  exact ⟨d, _, _, _, _, reachable, rfl, rfl, Prod.ext updated rfl, ⟨units, stored, filled⟩, empty⟩

/-- The string is not empty, but the text that is stored of it is. -/
theorem text_after_zero_is_written_empty :
    ∃ (d d' : Document) (page : PageRef) (o shown : PageObject), d.Reachable ∧
      (d.content? ⟨4⟩).bind (·.units?) = some [97, 0] ∧ o.content = .text "\x00x" .regular 12 .fill ∧
      o.update ⟨4⟩ page d = (.ok (), d') ∧ (d'.content? ⟨4⟩).bind (·.units?) = some [0] ∧
      (PageObject.readAs .text ⟨4⟩ page d').1 = .ok shown ∧ shown.content = .text "" .regular 12 .fill := by
  have page := ((Document.reachable_empty false).step .createDocument).step (.addPage 792)
  have text := (page.step (.call (.loadFont ⟨1⟩ "Helvetica"))).step (.call (.createText ⟨1⟩ ⟨3⟩ 12))
  have reachable := text.step (.call (.setText ⟨4⟩ [97, 0]))
  generalize same : (Document.perform (.setText ⟨4⟩ [97, 0]) _).2 = d at reachable
  let o : PageObject := ⟨.text "\x00x" .regular 12 .fill, .plain⟩
  have updated : (o.update ⟨4⟩ ⟨⟨1⟩, ⟨2⟩⟩ d).1 = .ok () := by rw [← same]; decide +kernel
  refine ⟨d, _, ⟨⟨1⟩, ⟨2⟩⟩, o, ⟨.text "" .regular 12 .fill, .plain⟩, reachable, ?_, rfl, Prod.ext updated rfl,
    ?_, ?_, rfl⟩
  · rw [← same]; rfl
  · rw [← same]; decide +kernel
  · rw [← same]; decide +kernel

end PageContent
