import PageContent.Proofs.Run
import PageContent.Proofs.Reading
import PageContent.Proofs.Writing

namespace PageContent

namespace Document

section Attempts

variable {β : Type} {update : β → Edit Document Unit}

/-- What attempts at an update leave, each made while other calls are refused. Each begins with what the one
before it left, however that ended. -/
def attempted (update : β → Edit Document Unit) (attempts : List (List FailPoint × β)) (d : Document) : Document :=
  attempts.foldl (fun d attempt => (update attempt.2 { d with failing := attempt.1 }).2) d

/-- What an update achieves does not depend on what another attempt left. -/
structure Absorbs (update : β → Edit Document Unit) : Prop where
  failing : ∀ x d, (update x d).2.failing = d.failing
  forgets : ∀ x y (d : Document) before now d',
    update y { (update x { d with failing := before }).2 with failing := now } = (.ok (), d') ↔
      update y { d with failing := now } = (.ok (), d')

namespace Absorbs

variable {attempts : List (List FailPoint × β)} {x : β} {d d' : Document} {failing : List FailPoint}

theorem attempted (absorbs : Absorbs update) : update x { d.attempted update attempts with failing } = (.ok (), d') ↔
    update x { d with failing } = (.ok (), d') := by
  induction attempts generalizing d with
  | nil => rfl
  | cons attempt attempts ih => exact ih.trans (absorbs.forgets attempt.2 x d attempt.1 failing d')

theorem idempotent (absorbs : Absorbs update) (updated : update x d = (.ok (), d')) : update x d' = (.ok (), d') := by
  have left : (update x d).2 = d' := congrArg Prod.snd updated
  have failing : d'.failing = d.failing := left ▸ absorbs.failing x d
  have again := (absorbs.forgets x x d d.failing d.failing d').mpr updated
  rw [left, ← failing] at again
  exact again

end Absorbs

end Attempts

end Document

section Objects

variable {d d' : Document} {object : ObjectId} {page : PageRef} {before after : StoredObject} {o : PageObject}

theorem Content.written_of_written {content next : Content} {before stored : StoredContent}
    (written : content.written before = some stored) : next.written stored = next.written before := by
  cases before with
  | path segments mode =>
      cases content with
      | path => cases written; cases next <;> rfl
      | image | text => cases written
  | image raw =>
      cases content with
      | image => cases written; cases next <;> rfl
      | path | text => cases written
  | text id size units code =>
      cases content with
      | text string =>
          rw [Content.written] at written
          split at written
          · cases written
          · cases written; cases next <;> rfl
      | path | image => cases written
  | shading => cases content <;> cases written

def StoredObject.TakesLike (after before : StoredObject) : Prop :=
  ∀ next : Content, next.written after.content = next.written before.content

namespace PageObject

theorem update_leaves (o : PageObject) (object : ObjectId) (page : PageRef) (d : Document) :
    (o.update object page d).2 = d ∨ ∃ before after, d.objects.get? object = some before ∧
      after.TakesLike before ∧ (o.update object page d).2 = d.put object after := by
  let left (d' : Document) : Prop := d' = d ∨ ∃ before after, d.objects.get? object = some before ∧
    after.TakesLike before ∧ d' = d.put object after
  have ends : Ends (o.update object page) d (fun _ => left) fun _ => left := by
    refine update_ends.mono ?_ fun _ d' half => ?_
    · rintro - d' ⟨before, stored, p, bounds, writable, same⟩
      exact .inr ⟨before, _, writable.takes.object, fun _ => Content.written_of_written writable.takes.written, same⟩
    · cases half with
      | nothing => exact .inl rfl
      | content takes => exact .inr ⟨_, _, takes.object, fun _ => Content.written_of_written takes.written, rfl⟩
      | style takes _ same =>
          exact .inr ⟨_, _, takes.object, fun _ => Content.written_of_written takes.written, same⟩
  exact ends.after

theorem update_of_put (known : d.objects.get? object = some before) (alike : after.TakesLike before)
    (updated : o.update object page (d.put object after) = (.ok (), d')) :
    o.update object page d = (.ok (), d') := by
  obtain ⟨_, stored, p, bounds, ⟨⟨found, written, setBitmap⟩, width, listed, setMatrix, getBounds, bounded⟩, rfl⟩ :=
    update_eq_ok_iff.mp updated
  cases Document.get?_put_self.symm.trans found
  rw [alike] at written
  exact update_eq_ok_iff.mpr ⟨before, stored, p, bounds,
    ⟨⟨known, written, setBitmap⟩, width, listed, setMatrix, getBounds, bounded⟩, Document.put_put⟩

theorem update_put_iff (known : d.objects.get? object = some before) (alike : after.TakesLike before) :
    o.update object page (d.put object after) = (.ok (), d') ↔ o.update object page d = (.ok (), d') := by
  have back : (d.put object after).put object before = d := by rw [Document.put_put, Document.put_self known]
  refine ⟨update_of_put known alike, fun updated => ?_⟩
  apply update_of_put Document.get?_put_self fun next => (alike next).symm
  rw [back]
  exact updated

theorem update_absorbs (object : ObjectId) :
    Document.Absorbs fun x : PageRef × PageObject => x.2.update object x.1 where
  failing x d := by
    rcases x.2.update_leaves object x.1 d with same | ⟨before, after, known, alike, left⟩
    · simp only [same]
    · simp only [left, Document.put]
  forgets x y d before now d' := by
    rcases x.2.update_leaves object x.1 { d with failing := before } with same | ⟨o, o', known, alike, left⟩
    · simp only [same]
    · simp only [left]
      have known' : { d with failing := now : Document }.objects.get? object = some o := known
      exact update_put_iff known' alike

end PageObject

end Objects

namespace FreeText

variable {d d' : Document} {annot : AnnotId} {a : StoredAnnot} {note : FreeText}

def begun (note : FreeText) (a : StoredAnnot) : StoredAnnot :=
  { a with
    rect := some note.bounds
    strings := a.strings.insert contentsKey (Utf16.terminated (Utf16.ofText note.text)) }

def onto (note : FreeText) (a : StoredAnnot) : StoredAnnot :=
  { note.begun a with color := some note.textColor, interior := some note.backgroundColor }

theorem update_eq (known : d.annots.get? annot = some a) (kind : a.kind = .freeText) :
    note.update annot d =
      if .setAnnotColor ∈ d.failing then (.error (.refused .setTextColor), d.putAnnot annot (note.begun a))
      else (.ok (), d.putAnnot annot (note.onto a)) := by
  let placed : StoredAnnot := { a with rect := some note.bounds }
  let worded : StoredAnnot := { note.begun a with color := some note.textColor }
  have places : (writeAnnotRect annot note.bounds : Edit Document Unit) d = (.ok (), d.putAnnot annot placed) :=
    insist_changeAnnot (Document.perform_unfailing rfl d) known rfl
  have words : insist .setContents (.setAnnotString annot contentsKey (Utf16.ofText note.text))
      (d.putAnnot annot placed) = (.ok (), (d.putAnnot annot placed).putAnnot annot (note.begun a)) :=
    insist_changeAnnot (Document.perform_unfailing rfl _) Document.get?_putAnnot_self rfl
  rw [Document.putAnnot_putAnnot] at words
  rw [update, bind_ok (expectAnnotKind_ok known kind), bind_ok places, bind_ok words]
  by_cases fails : .setAnnotColor ∈ d.failing
  · have fails' : .setAnnotColor ∈ (d.putAnnot annot (note.begun a)).failing := fails
    rw [if_pos fails]
    exact bind_error (insist_refused (Document.perform_failing rfl fails'))
  · have works : ∀ a', .setAnnotColor ∉ (d.putAnnot annot a').failing := fun _ => fails
    have colors : insist .setTextColor (.setAnnotColor annot .color note.textColor) (d.putAnnot annot (note.begun a)) =
        (.ok (), (d.putAnnot annot (note.begun a)).putAnnot annot worded) :=
      insist_changeAnnot (Document.perform_working rfl (works _)) Document.get?_putAnnot_self rfl
    have fills : insist .setBackgroundColor (.setAnnotColor annot .interior note.backgroundColor)
        (d.putAnnot annot worded) = (.ok (), (d.putAnnot annot worded).putAnnot annot (note.onto a)) :=
      insist_changeAnnot (Document.perform_working rfl (works _)) Document.get?_putAnnot_self rfl
    rw [Document.putAnnot_putAnnot] at colors fills
    rw [if_neg fails, bind_ok colors, fills]

theorem update_mismatched (note : FreeText) (mismatched : ∀ a, d.annots.get? annot = some a → a.kind ≠ .freeText) :
    ∃ e, note.update annot d = (.error e, d) := by
  have differ : (d.annot? annot).elim .unknown (·.kind) ≠ AnnotKind.freeText := by
    rw [Document.annot?]
    cases known : d.annots.get? annot with
    | none => simp
    | some a => exact mismatched a known
  exact ⟨_, bind_error (expectAnnotKind_error rfl differ)⟩

theorem update_eq_ok_iff : note.update annot d = (.ok (), d') ↔ ∃ a, d.annots.get? annot = some a ∧
    a.kind = .freeText ∧ .setAnnotColor ∉ d.failing ∧ d' = d.putAnnot annot (note.onto a) := by
  constructor
  · intro updated
    by_cases noted : ∃ a, d.annots.get? annot = some a ∧ a.kind = .freeText
    · obtain ⟨a, known, kind⟩ := noted
      rw [update_eq known kind] at updated
      split at updated
      case isTrue => cases updated
      case isFalse works => cases updated; exact ⟨a, known, kind, works, rfl⟩
    · obtain ⟨e, failed⟩ := update_mismatched note fun a known kind => noted ⟨a, known, kind⟩
      cases failed.symm.trans updated
  · rintro ⟨a, known, kind, works, rfl⟩
    rw [update_eq known kind, if_neg works]

theorem update_leaves (note : FreeText) (annot : AnnotId) (d : Document) :
    (note.update annot d).2 = d ∨ ∃ a a', d.annots.get? annot = some a ∧ a'.kind = a.kind ∧
      (∀ next : FreeText, next.onto a' = next.onto a) ∧ (note.update annot d).2 = d.putAnnot annot a' := by
  by_cases noted : ∃ a, d.annots.get? annot = some a ∧ a.kind = .freeText
  · obtain ⟨a, known, kind⟩ := noted
    right
    rw [update_eq known kind]
    split
    case isTrue =>
      exact ⟨a, note.begun a, known, rfl, fun next => by simp [onto, begun, Table.insert_insert], rfl⟩
    case isFalse =>
      exact ⟨a, note.onto a, known, rfl, fun next => by simp [onto, begun, Table.insert_insert], rfl⟩
  · obtain ⟨e, failed⟩ := update_mismatched note fun a known kind => noted ⟨a, known, kind⟩
    rw [failed]
    exact .inl rfl

theorem update_putAnnot_iff {a' : StoredAnnot} (known : d.annots.get? annot = some a) (kind : a'.kind = a.kind)
    (alike : ∀ next : FreeText, next.onto a' = next.onto a) :
    note.update annot (d.putAnnot annot a') = (.ok (), d') ↔ note.update annot d = (.ok (), d') := by
  have failing : (d.putAnnot annot a').failing = d.failing := rfl
  simp [update_eq_ok_iff, known, kind, alike, failing]

theorem update_absorbs (annot : AnnotId) : Document.Absorbs fun note : FreeText => note.update annot where
  failing note d := by
    rcases note.update_leaves annot d with same | ⟨a, a', known, kind, alike, left⟩
    · simp only [same]
    · simp only [left, Document.putAnnot]
  forgets note next d before now d' := by
    rcases note.update_leaves annot { d with failing := before } with same | ⟨a, a', known, kind, alike, left⟩
    · simp only [same]
    · simp only [left]
      have known' : { d with failing := now : Document }.annots.get? annot = some a := known
      exact update_putAnnot_iff known' kind alike

end FreeText

/-- The last update that succeeds decides what an object or a note is: in any document, after any attempts at other
updates, made while any calls are refused and ended in any way, it gives the document that it gives without them. To
update twice is to update once. -/
theorem last_update_wins (d : Document) :
    (∀ object (attempts : List (List FailPoint × PageRef × PageObject)) failing page (o : PageObject) d',
      o.update object page { d.attempted (fun x => x.2.update object x.1) attempts with failing } = (.ok (), d') ↔
        o.update object page { d with failing } = (.ok (), d')) ∧
    (∀ annot (attempts : List (List FailPoint × FreeText)) failing (note : FreeText) d',
      note.update annot { d.attempted (·.update annot) attempts with failing } = (.ok (), d') ↔
        note.update annot { d with failing } = (.ok (), d')) ∧
    (∀ object page (o : PageObject) d', o.update object page d = (.ok (), d') →
      o.update object page d' = (.ok (), d')) ∧
    ∀ annot (note : FreeText) d', note.update annot d = (.ok (), d') → note.update annot d' = (.ok (), d') := by
  refine ⟨fun object attempts failing page o d' => ?_, fun annot attempts failing note d' => ?_,
    fun object page o d' => ?_, fun annot note d' => ?_⟩
  · exact (PageObject.update_absorbs object).attempted (x := (page, o))
  · exact (FreeText.update_absorbs annot).attempted
  · exact (PageObject.update_absorbs object).idempotent (x := (page, o))
  · exact (FreeText.update_absorbs annot).idempotent

/-- One attempt at a text stops before its style, one before its transform, and one is made with an image. -/
theorem text_update_wins :
    ∃ (d left d' : Document) (page : PageRef) (o early late image : PageObject), d.Reachable ∧
      left = d.attempted (fun x => x.2.update ⟨4⟩ x.1)
        [([.setStrokeWidth], page, early), ([.getBounds], page, late), ([], page, image)] ∧
      (left.content? ⟨4⟩).bind (·.units?) = some [98, 0] ∧ (left.object? ⟨4⟩).map (·.fill) = some .white ∧
      o.update ⟨4⟩ page { left with failing := [] } = (.ok (), d') ∧
      o.update ⟨4⟩ page { d with failing := [] } = (.ok (), d') ∧ o.update ⟨4⟩ page d' = (.ok (), d') := by
  have page := ((Document.reachable_empty false).step .createDocument).step (.addPage 792)
  have reachable := (page.step (.call (.loadFont ⟨1⟩ "Helvetica"))).step (.call (.createText ⟨1⟩ ⟨3⟩ 12))
  let text (string : String) (color : Color) : PageObject :=
    ⟨.text string ⟨.helvetica, false, false⟩ 12 .fill, ⟨.identity, color, .black, 2⟩⟩
  let image : PageObject := ⟨.image ⟨0, 0, 0, .bgra, []⟩, ⟨.identity, .black, .black, 1⟩⟩
  let o := text "c" .black
  generalize same : (Document.perform (.createText ⟨1⟩ ⟨3⟩ 12) _).2 = d at reachable
  have updated : (o.update ⟨4⟩ ⟨⟨1⟩, ⟨2⟩⟩ { d with failing := [] }).1 = .ok () := by rw [← same]; decide +kernel
  have wins := (last_update_wins d).1
  have again := (last_update_wins { d with failing := [] }).2.2.1
  have alone : o.update ⟨4⟩ ⟨⟨1⟩, ⟨2⟩⟩ { d with failing := [] } = (.ok (), _) := Prod.ext updated rfl
  refine ⟨d, _, _, ⟨⟨1⟩, ⟨2⟩⟩, o, text "a" .black, text "b" .white, image, reachable, rfl, ?_, ?_,
    (wins ⟨4⟩ _ [] _ o _).mpr alone, alone, again ⟨4⟩ _ o _ alone⟩
  · rw [← same]; decide +kernel
  · rw [← same]; decide +kernel

end PageContent
