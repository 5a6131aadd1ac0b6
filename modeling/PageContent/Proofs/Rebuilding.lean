import Mathlib.Data.List.Forall2
import Mathlib.Data.List.Induction
import PageContent.Proofs.Making

namespace PageContent

namespace Document

variable {d d' : Document} {annot : AnnotId} {a : StoredAnnot} {front back : List ObjectId} {object : ObjectId}

/-- Stamps hold objects of this kind, and replace them. -/
def replaced (d : Document) (object : ObjectId) : Bool :=
  Stamp.admits ((d.object? object).elim .unknown (·.content.kind))

def emptied (d : Document) (annot : AnnotId) (a : StoredAnnot) (front back : List ObjectId) : Document :=
  { d with
    annots := d.annots.insert annot { a with objects := front ++ back.filter (!d.replaced ·) }
    objects := (back.filter d.replaced).foldl Table.erase d.objects }

theorem emptied_nil (known : d.annots.get? annot = some a) : d.emptied annot a a.objects [] = d := by
  simp [emptied, Table.insert_self known]

theorem get?_emptied : (d.emptied annot a front back).objects.get? object =
    if object ∈ back ∧ d.replaced object = true then none else d.objects.get? object := by
  simp [emptied, Table.get?_foldl_erase]

theorem replaced_emptied (kept : object ∉ back) :
    (d.emptied annot a front back).replaced object = d.replaced object := by
  rw [replaced, object?, get?_emptied, if_neg fun gone => kept gone.1]
  rfl

end Document

open Document (emptied)

namespace Stamp

variable {d d' : Document} {annot : AnnotId} {a : StoredAnnot} {front back : List ObjectId} {object : ObjectId}

theorem removeKnown_eq (fresh : object ∉ back) :
    removeKnown annot front.length (d.emptied annot a (front ++ [object]) back) =
      (.ok (), d.emptied annot a front (object :: back)) := by
  let d' := d.emptied annot a (front ++ [object]) back
  have known : d'.annots.get? annot =
      some { a with objects := (front ++ [object]) ++ back.filter (!d.replaced ·) } :=
    Table.get?_insert_self ..
  have found : ((front ++ [object]) ++ back.filter (!d.replaced ·))[front.length]? = some object := by simp
  have embedded : d'.run (.embeddedAt annot front.length) = (some object, d') := by
    simp only [Document.run, Document.annot?, known, Option.bind_some, found]
  apply (bind_ok (ask_eq rfl embedded)).trans
  apply (bind_ok (ask_eq rfl rfl)).trans
  have same : d'.replaced object = d.replaced object := Document.replaced_emptied fresh
  rw [Document.replaced] at same
  rw [same]
  cases admitted : d.replaced object with
  | true =>
      have removed : d'.removeEmbedded annot front.length = some (d.emptied annot a front (object :: back)) := by
        have left : ((front ++ [object]) ++ back.filter (!d.replaced ·)).eraseIdx front.length =
            front ++ back.filter (!d.replaced ·) := by
          simp [List.eraseIdx_append_of_length_le]
        have last : (object :: back.filter d.replaced).foldl Table.erase d.objects =
            ((back.filter d.replaced).foldl Table.erase d.objects).erase object := by
          rw [Table.foldl_erase_perm (List.perm_append_singleton object _).symm, List.foldl_concat]
        refine Document.removeEmbedded_eq_some.mpr ⟨_, object, known, found, ?_⟩
        rw [left]
        simp [d', emptied, admitted, Table.insert_insert, ← last]
      apply insist_ok
      rw [Document.perform_unfailing rfl]
      exact Document.tell_eq_true.mpr removed
  | false =>
      have kept : d' = d.emptied annot a front (object :: back) := by simp [d', emptied, admitted]
      rw [← kept]
      rfl

/-- The last object is looked at first, so that those still to be looked at stay where they are. -/
theorem removeKnown_all (nodup : (front ++ back).Nodup) :
    (List.range front.length).reverse.forM (removeKnown annot) (d.emptied annot a front back) =
      (.ok (), d.emptied annot a [] (front ++ back)) := by
  induction front using List.reverseRecOn generalizing back with
  | nil => rfl
  | append_singleton front object ih =>
      have places : (List.range (front ++ [object]).length).reverse =
          front.length :: (List.range front.length).reverse := by
        rw [List.length_append, List.length_singleton, List.range_succ, List.reverse_append]
        rfl
      rw [List.append_assoc] at nodup
      have fresh : object ∉ back := (List.nodup_cons.mp (List.nodup_append.mp nodup).2.1).1
      rw [places, List.append_assoc]
      exact (bind_ok (removeKnown_eq fresh)).trans (ih nodup)

end Stamp

namespace Document

variable {d d' d'' : Document} {annot : AnnotId} {page : PageRef} {a : StoredAnnot} {made made' : List PageObject}
  {new new' : List ObjectId}

/-- An object for each of `made` was put at the end of an annotation's list, and nothing else happened to what
there was. -/
structure Appends (annot : AnnotId) (page : PageRef) (d : Document) (made : List PageObject) (new : List ObjectId)
    (d' : Document) : Prop where
  pages : d'.pages = d.pages
  failing : d'.failing = d.failing
  removesQuads : d'.removesQuads = d.removesQuads
  issued : d.issued ≤ d'.issued
  annots : ∀ a, d.annots.get? annot = some a →
    d'.annots = d.annots.insert annot { a with objects := a.objects ++ new }
  others : ∀ object ∉ new, d'.objects.get? object = d.objects.get? object
  fresh : ∀ object ∈ new, d.issued < object.raw ∧ object.raw ≤ d'.issued
  nodup : new.Nodup
  made : List.Forall₂ (fun object o => Stamp.admits o.kind = true ∧
    ∃ st, d.Makes page o st ∧ d'.objects.get? object = some st) new made

theorem Same.appends (same : Same d d') : Appends annot page d [] [] d' where
  pages := same.pages
  failing := same.failing
  removesQuads := same.removesQuads
  issued := same.issued
  annots a known := by simp [same.annots, Table.insert_self known]
  others object _ := by rw [same.objects]
  fresh := nofun
  nodup := .nil
  made := .nil

theorem Appends.not_mem_of_mem (first : Appends annot page d made new d')
    (second : Appends annot page d' made' new' d'') {object : ObjectId} (mem : object ∈ new) : object ∉ new' := by
  intro mem'
  have before := first.fresh object mem
  have after := second.fresh object mem'
  omega

theorem Appends.trans (first : Appends annot page d made new d') (second : Appends annot page d' made' new' d'') :
    Appends annot page d (made ++ made') (new ++ new') d'' where
  pages := second.pages.trans first.pages
  failing := second.failing.trans first.failing
  removesQuads := second.removesQuads.trans first.removesQuads
  issued := first.issued.trans second.issued
  annots a known := by
    have known' : d'.annots.get? annot = some { a with objects := a.objects ++ new } := by
      rw [first.annots a known, Table.get?_insert_self]
    rw [second.annots _ known', first.annots a known, Table.insert_insert, List.append_assoc]
  others object kept := by
    rw [List.mem_append, not_or] at kept
    rw [second.others object kept.2, first.others object kept.1]
  fresh object mem := by
    have before := first.issued
    have after := second.issued
    rcases List.mem_append.mp mem with mem | mem
    · have within := first.fresh object mem
      omega
    · have within := second.fresh object mem
      omega
  nodup := by
    refine List.nodup_append.mpr ⟨first.nodup, second.nodup, fun object mem object' mem' same => ?_⟩
    subst same
    exact first.not_mem_of_mem second mem mem'
  made := by
    have kept : ∀ object ∈ new, d''.objects.get? object = d'.objects.get? object :=
      fun object mem => second.others object (first.not_mem_of_mem second mem)
    refine List.rel_append (.imp ?_ ((List.forall₂_and_left ..).mpr ⟨kept, first.made⟩)) (second.made.imp ?_)
    · rintro object o ⟨same, admitted, st, makes, found⟩
      exact ⟨admitted, st, makes, same.trans found⟩
    · rintro object o ⟨admitted, st, makes, found⟩
      exact ⟨admitted, st, makes.elsewhere admitted first.pages.symm first.failing.symm, found⟩

theorem Appends.of_embedObject {o : PageObject} {object : ObjectId} (created : o.create page d = (.ok object, d'))
    (adds : Adds object d d') (admitted : Stamp.admits o.kind = true)
    (embedded : d'.embedObject annot object = some d'') : Appends annot page d [o] [object] d'' := by
  obtain ⟨st, same⟩ := adds.same
  obtain ⟨-, -, a', known', rfl⟩ := embedObject_eq_some.mp embedded
  have found : d'.objects.get? object = some st := by rw [same.objects, Table.get?_insert_self]
  refine ⟨same.pages, same.failing, same.removesQuads, same.issued, fun a known => ?_, fun other kept => ?_, ?_,
    List.nodup_singleton object, .cons ⟨admitted, st, ⟨object, d', created, found⟩, found⟩ .nil⟩
  · have annots : d'.annots = d.annots := same.annots
    rw [annots] at known' ⊢
    cases known.symm.trans known'
    rfl
  · rw [same.objects]
    exact Table.get?_insert_of_ne st (by simpa using kept)
  · intro other mem
    cases List.mem_singleton.mp mem
    exact ⟨adds.later, adds.issued⟩

end Document

namespace Stamp

open Document (Appends)

variable {d : Document} {annot : AnnotId} {page : PageRef}

theorem appendSlot_appends (o : PageObject) (sound : d.Sound) :
    Ends (appendSlot annot page (some o)) d (fun _ d' => d'.Sound ∧ ∃ object, Appends annot page d [o] [object] d')
      fun _ d' => Appends annot page d [] [] d' := by
  rw [appendSlot]
  split
  case isTrue => exact ends_throw.mpr (Document.Same.refl d).appends
  case isFalse admitted =>
    have placed := ends_place (σ := Document) .embedObject (.embed annot) o page sound (fun _ => rfl)
      (fun _ same => by cases same) (fun _ same => by cases same)
    refine placed.mono ?_ fun _ d' failed => failed.2.appends
    rintro - d' ⟨sound', object, d₁, created, adds, embedded⟩
    refine ⟨sound', object, .of_embedObject created adds ?_ (Document.tell_eq_true.mp embedded)⟩
    simpa using admitted

theorem appendSlots_appends (slots : List (Option PageObject)) (sound : d.Sound) :
    Ends (slots.forM (appendSlot annot page)) d
      (fun _ d' => ∃ new, Appends annot page d (slots.filterMap id) new d')
      fun _ d' => ∃ made new, made <+: slots.filterMap id ∧ made ≠ slots.filterMap id ∧
        Appends annot page d made new d' := by
  induction slots generalizing d with
  | nil => exact ends_pure.mpr ⟨[], (Document.Same.refl d).appends⟩
  | cons slot slots ih =>
      apply ends_bind.mpr
      cases slot with
      | none => exact ends_pure.mpr (ih sound)
      | some o =>
          refine (appendSlot_appends o sound).mono ?_ fun _ d' failed => ⟨[], [], List.nil_prefix, nofun, failed⟩
          rintro - d₁ ⟨sound₁, object, first⟩
          refine (ih sound₁).mono ?_ ?_
          · rintro - d' ⟨new, rest⟩
            exact ⟨object :: new, first.trans rest⟩
          · rintro - d' ⟨made, new, shorter, differ, rest⟩
            refine ⟨o :: made, object :: new, ?_, ?_, first.trans rest⟩
            · exact List.cons_prefix_cons.mpr ⟨rfl, shorter⟩
            · simpa using differ

/-- The document after an update of the stamp `a`, which has a new rectangle and holds, after the objects that are
not replaced, one new object for each of `made`. -/
structure Rebuilt (s : Stamp) (annot : AnnotId) (page : PageRef) (d : Document) (a : StoredAnnot)
    (made : List PageObject) (new : List ObjectId) (d' : Document) : Prop where
  annots : d'.annots = d.annots.insert annot
    { a with rect := some s.bounds, objects := a.objects.filter (!d.replaced ·) ++ new }
  made : List.Forall₂ (fun object o => ∃ st, d.Makes page o st ∧ d'.objects.get? object = some st) new made
  fresh : ∀ object ∈ new, d.issued < object.raw ∧ d.isLive object = false
  nodup : new.Nodup
  kept : ∀ object ∈ a.objects, d.replaced object = false → d'.objects.get? object = d.objects.get? object
  gone : ∀ object ∈ a.objects, d.replaced object = true → d'.isLive object = false
  others : ∀ object ∉ a.objects, object ∉ new → d'.objects.get? object = d.objects.get? object
  pages : d'.pages = d.pages
  failing : d'.failing = d.failing
  removesQuads : d'.removesQuads = d.removesQuads

variable {a : StoredAnnot} {made : List PageObject} {new : List ObjectId} {d' : Document} {s : Stamp}

theorem Rebuilt.of_appends (sound : d.Sound) (known : d.annots.get? annot = some a)
    (appends : Appends annot page ((d.putAnnot annot { a with rect := some s.bounds }).emptied annot
      { a with rect := some s.bounds } [] a.objects) made new d') : s.Rebuilt annot page d a made new d' := by
  let d₁ : Document := d.putAnnot annot { a with rect := some s.bounds }
  have later : ∀ object ∈ new, d.issued < object.raw := fun object mem => (appends.fresh object mem).1
  have old : ∀ object ∈ a.objects, object ∉ new := fun object mem mem' =>
    sound.not_mem_of_later (later object mem') (sound.annot_live known mem)
  have after : ∀ object ∉ new, d'.objects.get? object =
      if object ∈ a.objects ∧ d.replaced object = true then none else d.objects.get? object :=
    fun object kept => (appends.others object kept).trans (Document.get?_emptied (d := d₁))
  refine ⟨?_, ?_, fun object mem => ?_, appends.nodup, fun object mem keeps => ?_, fun object mem goes => ?_,
    fun object absent kept => ?_, appends.pages, appends.failing, appends.removesQuads⟩
  · rw [appends.annots _ (Table.get?_insert_self ..)]
    simp only [emptied, Document.putAnnot, Table.insert_insert, List.nil_append]
    rfl
  · refine appends.made.imp ?_
    rintro object o ⟨admitted, st, makes, found⟩
    exact ⟨st, makes.elsewhere admitted rfl rfl, found⟩
  · exact ⟨later object mem, Document.isLive_of_erased (sound.not_mem_of_later (later object mem)) rfl⟩
  · rw [after object (old object mem), if_neg (by simp [keeps])]
  · have none : d'.objects.get? object = none := by
      rw [after object (old object mem), if_pos ⟨mem, goes⟩]
    exact Document.isLive_of_erased (Table.get?_eq_none_iff.mp none) rfl
  · rw [after object kept, if_neg fun both => absent both.1]

theorem removeAll_eq (sound : d.Sound) (known : d.annots.get? annot = some a) :
    (List.range a.objects.length).reverse.forM (removeKnown annot) d =
      (.ok (), d.emptied annot a [] a.objects) := by
  have nodup : (a.objects ++ []).Nodup := by
    rw [List.append_nil]
    exact sound.annot_nodup known
  have removed : (List.range a.objects.length).reverse.forM (removeKnown annot) (d.emptied annot a a.objects []) =
      (.ok (), d.emptied annot a [] (a.objects ++ [])) :=
    removeKnown_all nodup
  rw [Document.emptied_nil known, List.append_nil] at removed
  exact removed

theorem update_eq (sound : d.Sound) (known : d.annots.get? annot = some a) (kind : a.kind = .stamp) (s : Stamp)
    (page : PageRef) :
    let a₁ : StoredAnnot := { a with rect := some s.bounds }
    let d₁ : Document := (d.putAnnot annot a₁).emptied annot a₁ [] a.objects
    d₁.Sound ∧ s.update annot page d = s.slots.forM (appendSlot annot page) d₁ := by
  intro a₁ d₁
  have known₁ : (d.putAnnot annot a₁).annots.get? annot = some a₁ := Document.get?_putAnnot_self
  have written : (writeAnnotRect annot s.bounds : Edit Document Unit) d = (.ok (), d.putAnnot annot a₁) :=
    insist_changeAnnot (Document.perform_unfailing rfl d) known rfl
  have counted : (d.putAnnot annot a₁).run (.embeddedCount annot) = (some a.objects.length, d.putAnnot annot a₁) := by
    simp only [Document.run, Document.annot?, known₁, Option.map_some]
    rfl
  have sound₁ : (d.putAnnot annot a₁).Sound :=
    (ends_of_eq_ok written).mp ((writeAnnotRect_only annot s.bounds).sound d sound)
  have removed := removeAll_eq sound₁ known₁
  refine ⟨(ends_of_eq_ok removed).mp (keeps_forM _ (fun index => (removeKnown_only annot index).sound) _ sound₁), ?_⟩
  rw [update, bind_ok (expectAnnotKind_ok known kind), bind_ok written, bind_ok (demand_eq rfl counted)]
  exact bind_ok removed

/-- However far an update gets, all that it replaces is gone and nothing else is touched. It makes an object for each
filled slot, or fails and has made one for each of the first of them. -/
theorem update_rebuilds (reachable : d.Reachable) (s : Stamp) (annot : AnnotId) (page : PageRef) :
    (∀ a, d.annots.get? annot = some a → a.kind = .stamp → Ends (s.update annot page) d
      (fun _ d' => ∃ new, s.Rebuilt annot page d a (s.slots.filterMap id) new d')
      fun _ d' => ∃ made new, made <+: s.slots.filterMap id ∧ made ≠ s.slots.filterMap id ∧
        s.Rebuilt annot page d a made new d') ∧
    ∀ kind, (d.annot? annot).elim .unknown (·.kind) = kind → kind ≠ .stamp →
      s.update annot page d = (.error (.annotMismatch .stamp kind), d) := by
  have sound := reachable.sound
  refine ⟨fun a known kind => ?_, fun kind known differ => bind_error (expectAnnotKind_error known differ)⟩
  obtain ⟨sound₁, updated⟩ := update_eq sound known kind s page
  refine (ends_congr updated).mpr ((appendSlots_appends s.slots sound₁).mono ?_ ?_)
  · rintro - d' ⟨new, appends⟩
    exact ⟨new, .of_appends sound known appends⟩
  · rintro - d' ⟨made, new, shorter, differ, appends⟩
    exact ⟨made, new, shorter, differ, .of_appends sound known appends⟩

theorem updates_rebuild_around_shading :
    let path : PageObject := ⟨.path [⟨.move, 1, 1, false⟩] false true, .plain⟩
    let image : PageObject := ⟨.image ⟨1, 1, 4, .bgra, [0, 0, 0, 0]⟩, .plain⟩
    let whole : Stamp := ⟨⟨0, 1, 1, 0⟩, [none, some path]⟩
    let broken : Stamp := ⟨⟨0, 1, 1, 0⟩, [some path, none, some image]⟩
    ∃ (d : Document) (a : StoredAnnot), d.Reachable ∧ d.annots.get? ⟨3⟩ = some a ∧ a.kind = .stamp ∧
      a.objects = [⟨4⟩, ⟨5⟩] ∧
      (∃ d' new, whole.update ⟨3⟩ ⟨⟨1⟩, ⟨2⟩⟩ d = (.ok (), d') ∧
        whole.Rebuilt ⟨3⟩ ⟨⟨1⟩, ⟨2⟩⟩ d a [path] new d') ∧
      ∃ d' made new, broken.update ⟨3⟩ ⟨⟨1⟩, ⟨2⟩⟩ d = (.error (.refused .createImage), d') ∧
        made <+: [path, image] ∧ made ≠ [path, image] ∧ broken.Rebuilt ⟨3⟩ ⟨⟨1⟩, ⟨2⟩⟩ d a made new d' := by
  intro path image whole broken
  have page := ((Document.reachable_empty false).step .createDocument).step (.addPage 792)
  have stamp := page.step (.call (.createAnnot ⟨2⟩ .stamp))
  have withPath := (stamp.step (.call (.createPath 0 0))).step (.call (.embed ⟨3⟩ ⟨4⟩))
  have withShading := (withPath.step .createShading).step (.call (.embed ⟨3⟩ ⟨5⟩))
  have reachable := withShading.step (.failOn .createImage)
  generalize same : Document.failOn _ .createImage = d at reachable
  have told : (d.annots.get? ⟨3⟩).map (fun a => (a.kind, a.objects)) = some (.stamp, [⟨4⟩, ⟨5⟩]) := by
    rw [← same]
    decide +kernel
  have works : (whole.update ⟨3⟩ ⟨⟨1⟩, ⟨2⟩⟩ d).1 = .ok () := by
    rw [← same]
    decide +kernel
  have fails : (broken.update ⟨3⟩ ⟨⟨1⟩, ⟨2⟩⟩ d).1 = .error (.refused .createImage) := by
    rw [← same]
    decide +kernel
  obtain ⟨a, known, both⟩ := Option.map_eq_some_iff.mp told
  obtain ⟨kind, objects⟩ := Prod.mk.inj both
  refine ⟨d, a, reachable, known, kind, objects, ?_, ?_⟩
  · have rebuilds := (update_rebuilds reachable whole ⟨3⟩ ⟨⟨1⟩, ⟨2⟩⟩).1 a known kind
    have ran : whole.update ⟨3⟩ ⟨⟨1⟩, ⟨2⟩⟩ d = (.ok (), _) := Prod.ext works rfl
    obtain ⟨new, rebuilt⟩ := (ends_of_eq_ok ran).mp rebuilds
    exact ⟨_, new, ran, rebuilt⟩
  · have rebuilds := (update_rebuilds reachable broken ⟨3⟩ ⟨⟨1⟩, ⟨2⟩⟩).1 a known kind
    have ran : broken.update ⟨3⟩ ⟨⟨1⟩, ⟨2⟩⟩ d = (.error (.refused .createImage), _) := Prod.ext fails rfl
    obtain ⟨made, new, shorter, differ, rebuilt⟩ := (ends_of_eq_error ran).mp rebuilds
    exact ⟨_, made, new, ran, shorter, differ, rebuilt⟩

end Stamp

end PageContent
