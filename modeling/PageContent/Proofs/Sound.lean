import PageContent.Proofs.Change

namespace PageContent.Document

/-- The objects that pages and annotations hold, one page or annotation after the other. -/
def held (d : Document) : List ObjectId :=
  d.pages.values.flatMap (·.objects) ++ d.annots.values.flatMap (·.objects)

def listed (d : Document) : List AnnotId := d.pages.values.flatMap (·.annots)

/-- An object that is held is there, and is held once. -/
structure Owned (d : Document) : Prop where
  held_live : ∀ object ∈ d.held, object ∈ d.objects.keys
  held_nodup : d.held.Nodup

/-- The annotations that are there are those on the pages, each on one page and once. -/
structure Listed (d : Document) : Prop where
  listed_iff : ∀ annot, annot ∈ d.listed ↔ annot ∈ d.annots.keys
  listed_nodup : d.listed.Nodup

structure Formed (d : Document) : Prop where
  contents : ∀ object o, d.objects.get? object = some o → o.content.Sound d.fonts
  strings : ∀ annot a, d.annots.get? annot = some a → a.Sound

/-- Every handle was given out, so the next one is new. -/
structure Numbered (d : Document) : Prop where
  pages_le : ∀ page ∈ d.pages.keys, page.raw ≤ d.issued
  objects_le : ∀ object ∈ d.objects.keys, object.raw ≤ d.issued
  annots_le : ∀ annot ∈ d.annots.keys, annot.raw ≤ d.issued
  fonts_le : ∀ font ∈ d.fonts.keys, font.raw ≤ d.issued

structure Sound (d : Document) : Prop extends Owned d, Listed d, Formed d, Numbered d

variable {d d' : Document} {effect : Effect}

theorem isLive_iff {object : ObjectId} :
    d.isLive object = true ↔ object ∈ d.objects.keys := Table.contains_iff

theorem isAttached_iff {object : ObjectId} : d.isAttached object = true ↔ object ∈ d.held := by
  simp [isAttached, held]

theorem isAttached_eq_false_iff {object : ObjectId} : d.isAttached object = false ↔ object ∉ d.held := by
  rw [← isAttached_iff, Bool.not_eq_true]

theorem mem_listed_of_mem_page {page : PageId} {p : Page} (known : d.pages.get? page = some p)
    {annot : AnnotId}
    (mem : annot ∈ p.annots) : annot ∈ d.listed :=
  List.mem_flatMap.mpr ⟨p, Table.mem_values_iff.mpr ⟨page, known⟩, mem⟩

theorem held_setPage {page : PageId} {p : Page} (known : d.pages.get? page = some p) :
    ∃ rest, d.held.Perm (p.objects ++ rest) ∧
      ∀ p', (held { d with pages := d.pages.insert page p' }).Perm (p'.objects ++ rest) := by
  obtain ⟨rest, before, after, -⟩ := Table.flatMap_values_perm known (·.objects)
  refine ⟨rest ++ d.annots.values.flatMap (·.objects), ?_, fun p' => ?_⟩
  · exact (before.append_right _).trans (.of_eq (List.append_assoc ..))
  · exact ((after p').append_right _).trans (.of_eq (List.append_assoc ..))

theorem held_setAnnot {annot : AnnotId} {a : StoredAnnot} (known : d.annots.get? annot = some a) :
    ∃ rest, d.held.Perm (a.objects ++ rest) ∧
      (∀ a', (held { d with annots := d.annots.insert annot a' }).Perm (a'.objects ++ rest)) ∧
      (held { d with annots := d.annots.erase annot }).Perm rest := by
  obtain ⟨rest, before, after, erased⟩ := Table.flatMap_values_perm known (·.objects)
  refine ⟨d.pages.values.flatMap (·.objects) ++ rest, ?_, fun a' => ?_, erased.append_left _⟩
  · exact (before.append_left _).trans (List.perm_append_comm_assoc _ _ _)
  · exact ((after a').append_left _).trans (List.perm_append_comm_assoc _ _ _)

theorem listed_setPage {page : PageId} {p : Page} (known : d.pages.get? page = some p) :
    ∃ rest, d.listed.Perm (p.annots ++ rest) ∧
      ∀ p', (listed { d with pages := d.pages.insert page p' }).Perm (p'.annots ++ rest) := by
  obtain ⟨rest, before, after, -⟩ := Table.flatMap_values_perm known (·.annots)
  exact ⟨rest, before, after⟩

theorem held_setPage_same {page : PageId} {p : Page} (known : d.pages.get? page = some p) (p' : Page)
    (same : p'.objects = p.objects) : (held { d with pages := d.pages.insert page p' }).Perm d.held := by
  obtain ⟨rest, before, after⟩ := held_setPage known
  exact (after p').trans (same ▸ before.symm)

theorem listed_setPage_same {page : PageId} {p : Page} (known : d.pages.get? page = some p) (p' : Page)
    (same : p'.annots = p.annots) : (listed { d with pages := d.pages.insert page p' }).Perm d.listed := by
  obtain ⟨rest, before, after⟩ := listed_setPage known
  exact (after p').trans (same ▸ before.symm)

theorem held_setAnnot_same {annot : AnnotId} {a : StoredAnnot} (known : d.annots.get? annot = some a)
    (a' : StoredAnnot) (same : a'.objects = a.objects) :
    (held { d with annots := d.annots.insert annot a' }).Perm d.held := by
  obtain ⟨rest, before, after, -⟩ := held_setAnnot known
  exact (after a').trans (same ▸ before.symm)

@[simp] theorem pages_releaseAnnot (d : Document) (annot : AnnotId) :
    (d.releaseAnnot annot).pages = d.pages := by
  rw [releaseAnnot]; split <;> rfl

@[simp] theorem fonts_releaseAnnot (d : Document) (annot : AnnotId) :
    (d.releaseAnnot annot).fonts = d.fonts := by
  rw [releaseAnnot]; split <;> rfl

@[simp] theorem issued_releaseAnnot (d : Document) (annot : AnnotId) :
    (d.releaseAnnot annot).issued = d.issued := by
  rw [releaseAnnot]; split <;> rfl

theorem annots_releaseAnnot (d : Document) (annot : AnnotId) :
    (d.releaseAnnot annot).annots = d.annots.erase annot := by
  rw [releaseAnnot]
  split
  case h_1 absent => exact (Table.erase_of_not_mem (Table.get?_eq_none_iff.mp absent)).symm
  case h_2 => rfl

theorem held_releaseAnnot (d : Document) (annot : AnnotId) :
    ∃ gone, d.held.Perm (gone ++ (d.releaseAnnot annot).held) ∧
      (d.releaseAnnot annot).objects = gone.foldl Table.erase d.objects := by
  rw [releaseAnnot]
  split
  case h_1 => exact ⟨[], .refl _, rfl⟩
  case h_2 a known =>
    obtain ⟨rest, before, -, erased⟩ := held_setAnnot known
    exact ⟨a.objects, before.trans (erased.symm.append_left _), rfl⟩

theorem perm_cons_eraseIdx {β : Type} {l : List β} {index : Nat} {x : β} (found : l[index]? = some x) :
    l.Perm (x :: l.eraseIdx index) := by
  obtain ⟨inside, rfl⟩ := List.getElem?_eq_some_iff.mp found
  exact (List.getElem_cons_eraseIdx_perm inside).symm

theorem Numbered.page_fresh (numbered : d.Numbered) : ⟨d.issued + 1⟩ ∉ d.pages.keys :=
  fun mem => Nat.not_succ_le_self _ (numbered.pages_le _ mem)

theorem Numbered.annot_fresh (numbered : d.Numbered) : ⟨d.issued + 1⟩ ∉ d.annots.keys :=
  fun mem => Nat.not_succ_le_self _ (numbered.annots_le _ mem)

theorem Numbered.font_fresh (numbered : d.Numbered) : ⟨d.issued + 1⟩ ∉ d.fonts.keys :=
  fun mem => Nat.not_succ_le_self _ (numbered.fonts_le _ mem)

section Held

variable {page : PageId} {p : Page} {annot : AnnotId} {a : StoredAnnot} {object : ObjectId} {index : Nat}

theorem held_insertObject (known : d.pages.get? page = some p) (object : ObjectId) :
    (held { d with pages := d.pages.insert page { p with objects := p.objects ++ [object] } }).Perm
    (object :: d.held) := by
  obtain ⟨rest, before, after⟩ := held_setPage known
  have front : (p.objects ++ [object] ++ rest).Perm (object :: (p.objects ++ rest)) :=
    (List.perm_append_singleton object p.objects).append_right rest
  exact (after { p with objects := p.objects ++ [object] }).trans (front.trans (before.symm.cons object))

theorem held_detachObject (known : d.pages.get? page = some p) (mem : object ∈ p.objects) :
    d.held.Perm (object ::
      held { d with pages := d.pages.insert page { p with objects := p.objects.erase object } }) := by
  obtain ⟨rest, before, after⟩ := held_setPage known
  have front : (p.objects ++ rest).Perm (object :: (p.objects.erase object ++ rest)) :=
    (List.perm_cons_erase mem).append_right rest
  exact before.trans (front.trans ((after { p with objects := p.objects.erase object }).symm.cons object))

theorem held_embedObject (known : d.annots.get? annot = some a) (object : ObjectId) :
    (held { d with annots := d.annots.insert annot { a with objects := a.objects ++ [object] } }).Perm
    (object :: d.held) := by
  obtain ⟨rest, before, after, -⟩ := held_setAnnot known
  have front : (a.objects ++ [object] ++ rest).Perm (object :: (a.objects ++ rest)) :=
    (List.perm_append_singleton object a.objects).append_right rest
  exact (after { a with objects := a.objects ++ [object] }).trans (front.trans (before.symm.cons object))

theorem held_removeEmbedded (known : d.annots.get? annot = some a) (found : a.objects[index]? = some object) :
    d.held.Perm (object ::
      held { d with annots := d.annots.insert annot { a with objects := a.objects.eraseIdx index } }) := by
  obtain ⟨rest, before, after, -⟩ := held_setAnnot known
  have front : (a.objects ++ rest).Perm (object :: (a.objects.eraseIdx index ++ rest)) :=
    (perm_cons_eraseIdx found).append_right rest
  exact before.trans (front.trans ((after { a with objects := a.objects.eraseIdx index }).symm.cons object))

theorem held_removeAnnot (known : d.pages.get? page = some p) (index : Nat) (annot : AnnotId)
    (removed : d' = { d with
      pages := d.pages.insert page { p with annots := p.annots.eraseIdx index } }.releaseAnnot annot) :
    ∃ gone, d.held.Perm (gone ++ d'.held) ∧ d'.objects = gone.foldl Table.erase d.objects := by
  have same := held_setPage_same known { p with annots := p.annots.eraseIdx index } rfl
  obtain ⟨gone, released, objects⟩ := held_releaseAnnot { d with pages := _ } annot
  rw [removed]
  exact ⟨gone, same.symm.trans released, objects⟩

theorem held_newAnnot (numbered : d.Numbered) (known : d.pages.get? page = some p) (kind : AnnotKind) :
    (held { d with
      issued := d.issued + 1
      pages := d.pages.insert page { p with annots := p.annots ++ [⟨d.issued + 1⟩] }
      annots := d.annots.insert ⟨d.issued + 1⟩ (.new kind) }).Perm d.held := by
  have same := held_setPage_same known { p with annots := p.annots ++ [⟨d.issued + 1⟩] } rfl
  refine .trans (.of_eq ?_) same
  simp [held, Table.flatMap_values_insert numbered.annot_fresh, StoredAnnot.new]

theorem destroyObject_eq (free : object ∉ d.held) :
    d.destroyObject object = { d with objects := d.objects.erase object } := by
  have attached : d.isAttached object = false := isAttached_eq_false_iff.mpr free
  rw [destroyObject, attached]
  rfl

theorem Owned.page_nodup (owned : d.Owned) (known : d.pages.get? page = some p) : p.objects.Nodup := by
  obtain ⟨rest, before, -⟩ := held_setPage known
  exact (List.nodup_append.mp (before.nodup_iff.mp owned.held_nodup)).1

theorem Owned.annot_nodup (owned : d.Owned) (known : d.annots.get? annot = some a) : a.objects.Nodup := by
  obtain ⟨rest, before, -⟩ := held_setAnnot known
  exact (List.nodup_append.mp (before.nodup_iff.mp owned.held_nodup)).1

theorem Owned.annot_live (owned : d.Owned) (known : d.annots.get? annot = some a) (mem : object ∈ a.objects) :
    object ∈ d.objects.keys := by
  obtain ⟨rest, before, -⟩ := held_setAnnot known
  exact owned.held_live object (before.mem_iff.mpr (List.mem_append_left rest mem))

theorem Owned.not_mem_of_detachObject (owned : d.Owned) (detached : d.detachObject page object = some d') :
    object ∉ d'.held := by
  obtain ⟨p, known, mem, rfl⟩ := detachObject_eq_some.mp detached
  have nodup := (held_detachObject known mem).nodup_iff.mp owned.held_nodup
  exact (List.nodup_cons.mp nodup).1

end Held

theorem Owned.of_perm (owned : d.Owned) (same : d'.held.Perm d.held)
    (live : ∀ object ∈ d.objects.keys, object ∈ d'.objects.keys) : d'.Owned :=
  ⟨fun object mem => live object (owned.held_live object (same.mem_iff.mp mem)),
    same.nodup_iff.mpr owned.held_nodup⟩

theorem Owned.take (owned : d.Owned) {object : ObjectId} (live : d.isLive object = true)
    (free : d.isAttached object = false) (more : d'.held.Perm (object :: d.held))
    (objects : d'.objects = d.objects) : d'.Owned := by
  refine ⟨fun other mem => ?_, more.nodup_iff.mpr ?_⟩
  · rw [objects]
    rcases List.mem_cons.mp (more.mem_iff.mp mem) with rfl | mem
    · exact isLive_iff.mp live
    · exact owned.held_live other mem
  · exact List.nodup_cons.mpr ⟨isAttached_eq_false_iff.mp free, owned.held_nodup⟩

theorem Owned.drop (owned : d.Owned) (gone : List ObjectId) (less : d.held.Perm (gone ++ d'.held))
    (live : ∀ object ∈ d.objects.keys, object ∉ gone → object ∈ d'.objects.keys) : d'.Owned := by
  have nodup := List.nodup_append.mp (less.nodup_iff.mp owned.held_nodup)
  refine ⟨fun object mem => live object ?_ fun isGone => nodup.2.2 object isGone object mem rfl, nodup.2.1⟩
  exact owned.held_live object (less.mem_iff.mpr (List.mem_append_right _ mem))

theorem Listed.get?_annot {page : PageId} {p : Page} {annot : AnnotId} (listed : d.Listed)
    (known : d.pages.get? page = some p) (mem : annot ∈ p.annots) : ∃ a, d.annots.get? annot = some a :=
  Table.mem_keys_iff.mp ((listed.listed_iff annot).mp (mem_listed_of_mem_page known mem))

theorem isLive_of_erased {objects : Table ObjectId StoredObject} {object : ObjectId}
    (erased : object ∉ objects.keys)
    (same : d.objects = objects) : d.isLive object = false := by
  rw [← Bool.not_eq_true, isLive_iff, same]
  exact erased

theorem Listed.of_perm (listed : d.Listed) (same : d'.listed.Perm d.listed) (annots : d'.annots = d.annots) :
    d'.Listed := by
  refine ⟨fun annot => ?_, same.nodup_iff.mpr listed.listed_nodup⟩
  rw [same.mem_iff, annots]
  exact listed.listed_iff annot

theorem Owned.change (owned : d.Owned) (numbered : d.Numbered) (change : d.Change effect d') : d'.Owned := by
  cases change with
  | nothing => exact owned
  | newFont | newDocument | settings => exact ⟨owned.held_live, owned.held_nodup⟩
  | object | newObject => exact owned.of_perm (.refl _) fun object mem => Table.mem_keys_insert.mpr (.inr mem)
  | annot annot a a' known kind objects => exact owned.of_perm (held_setAnnot_same known a' objects) fun _ => id
  | content page p known => exact owned.of_perm (held_setPage_same known _ rfl) fun _ => id
  | newPage height =>
      refine owned.of_perm (.of_eq ?_) fun _ => id
      simp [held, addPage, Table.flatMap_values_insert numbered.page_fresh]
  | newAnnot page kind p known =>
      exact owned.of_perm (held_newAnnot numbered known kind) fun _ => id
  | insert page object p known live free => exact owned.take live free (held_insertObject known object) rfl
  | detach page object p known held => exact owned.drop [object] (held_detachObject known held) fun _ mem _ => mem
  | destroy object free =>
      refine ⟨fun other mem => Table.mem_keys_erase.mpr ⟨owned.held_live other mem, ?_⟩, owned.held_nodup⟩
      rintro rfl
      exact isAttached_eq_false_iff.mp free mem
  | removeAnnot page index p annot known listed =>
      obtain ⟨gone, less, objects⟩ := held_removeAnnot known index annot rfl
      refine owned.drop gone less fun object mem kept => ?_
      rw [objects]
      exact Table.mem_keys_foldl_erase.mpr ⟨mem, kept⟩
  | embed annot object a known live free => exact owned.take live free (held_embedObject known object) rfl
  | removeEmbedded annot index a object known held =>
      refine owned.drop [object] (held_removeEmbedded known held)
        fun other mem kept => Table.mem_keys_erase.mpr ⟨mem, ?_⟩
      rintro rfl
      exact kept List.mem_cons_self

theorem Listed.change (listed : d.Listed) (numbered : d.Numbered) (change : d.Change effect d') : d'.Listed := by
  cases change with
  | nothing => exact listed
  | newFont | newDocument | settings | object | newObject | destroy => exact ⟨listed.listed_iff, listed.listed_nodup⟩
  | annot annot a a' known | embed annot _ a known | removeEmbedded annot _ a _ known =>
      refine ⟨fun other => (listed.listed_iff other).trans ?_, listed.listed_nodup⟩
      rw [Table.keys_insert_of_mem (Table.mem_keys_of_get? known)]
  | content page p known => exact listed.of_perm (listed_setPage_same known _ rfl) rfl
  | insert page object p known | detach page object p known =>
      exact listed.of_perm (listed_setPage_same known _ rfl) rfl
  | newPage height =>
      refine listed.of_perm (.of_eq ?_) rfl
      simp [Document.listed, addPage, Table.flatMap_values_insert numbered.page_fresh]
  | newAnnot page kind p known =>
      obtain ⟨rest, before, after⟩ := listed_setPage known
      have after := after { p with annots := p.annots ++ [⟨d.issued + 1⟩] }
      have more := after.trans
        (((List.perm_append_singleton ⟨d.issued + 1⟩ p.annots).append_right rest).trans (before.symm.cons _))
      refine ⟨fun annot => more.mem_iff.trans ?_,
        more.nodup_iff.mpr (List.nodup_cons.mpr ⟨?_, listed.listed_nodup⟩)⟩
      · rw [List.mem_cons, listed.listed_iff, Table.mem_keys_insert]
      · rw [listed.listed_iff]
        exact numbered.annot_fresh
  | removeAnnot page index p annot known atIndex =>
      obtain ⟨rest, before, after⟩ := listed_setPage known
      have after := after { p with annots := p.annots.eraseIdx index }
      have less := before.trans (((perm_cons_eraseIdx atIndex).append_right rest).trans
        (after.symm.cons annot))
      have nodup := List.nodup_cons.mp (less.nodup_iff.mp listed.listed_nodup)
      refine ⟨fun other => ?_, ?_⟩
      · rw [annots_releaseAnnot, Table.mem_keys_erase, ← listed.listed_iff, less.mem_iff, List.mem_cons,
          Document.listed, pages_releaseAnnot]
        refine ⟨fun mem => ⟨.inr mem, ?_⟩, fun ⟨mem, other⟩ => mem.resolve_left other⟩
        rintro rfl
        exact nodup.1 mem
      · rw [Document.listed, pages_releaseAnnot]
        exact nodup.2

theorem Formed.setObject (formed : d.Formed) (object : ObjectId) {o' : StoredObject}
    (sound : o'.content.Sound d.fonts) :
    Formed { d with objects := d.objects.insert object o' } := by
  refine ⟨fun other o found => ?_, formed.strings⟩
  rw [Table.get?_insert] at found
  split at found
  · cases found
    exact sound
  · exact formed.contents other o found

theorem Formed.setAnnot (formed : d.Formed) (annot : AnnotId) {a' : StoredAnnot} (sound : a'.Sound) :
    Formed { d with annots := d.annots.insert annot a' } := by
  refine ⟨formed.contents, fun other a found => ?_⟩
  rw [Table.get?_insert] at found
  split at found
  · cases found
    exact sound
  · exact formed.strings other a found

theorem Formed.change (formed : d.Formed) (change : d.Change effect d') : d'.Formed := by
  cases change with
  | nothing => exact formed
  | settings | newDocument | newPage | content | insert | detach => exact ⟨formed.contents, formed.strings⟩
  | newFont name =>
      exact ⟨fun object o found => (formed.contents object o found).mono
        fun font mem => Table.mem_keys_insert.mpr (.inr mem),
        formed.strings⟩
  | object object o o' known kind sound => exact formed.setObject object (sound _ (formed.contents object o known))
  | newObject content sound =>
      have new : (StoredObject.new content).content.Sound d.fonts := sound
      exact ⟨(formed.setObject ⟨d.issued + 1⟩ new).contents, formed.strings⟩
  | annot annot a a' known kind objects sound => exact formed.setAnnot annot (sound (formed.strings annot a known))
  | embed annot object a known =>
      have kept : StoredAnnot.Sound { a with objects := a.objects ++ [object] } :=
        formed.strings annot a known
      exact formed.setAnnot annot kept
  | newAnnot page kind p known =>
      have empty : (StoredAnnot.new kind).Sound := fun key units found => by cases found
      exact ⟨formed.contents, (formed.setAnnot ⟨d.issued + 1⟩ empty).strings⟩
  | destroy object free =>
      exact ⟨fun other o found => formed.contents other o (Table.get?_of_get?_erase found), formed.strings⟩
  | removeEmbedded annot index a object known held =>
      have kept : StoredAnnot.Sound { a with objects := a.objects.eraseIdx index } :=
        formed.strings annot a known
      exact ⟨fun other o found => formed.contents other o (Table.get?_of_get?_erase found),
        (formed.setAnnot annot kept).strings⟩
  | removeAnnot page index p annot known listed =>
      obtain ⟨gone, -, objects⟩ := held_removeAnnot known index annot rfl
      refine ⟨fun object o found => ?_, fun other a found => ?_⟩
      · rw [objects] at found
        rw [fonts_releaseAnnot]
        exact formed.contents object o (Table.get?_of_get?_foldl_erase found)
      · rw [annots_releaseAnnot] at found
        exact formed.strings other a (Table.get?_of_get?_erase found)

theorem Change.issued_le (change : d.Change effect d') : d.issued ≤ d'.issued := by
  cases change with
  | removeAnnot => rw [issued_releaseAnnot]
  | newFont | newObject | newAnnot | newDocument | newPage => exact Nat.le_succ _
  | nothing | settings | object | annot | content | insert | detach | destroy | embed | removeEmbedded =>
      exact Nat.le_refl _

def Gains {ι ν : Type} (raw : ι → Nat) (d d' : Document) (t t' : Table ι ν) : Prop :=
  ∀ id ∈ t'.keys, id ∈ t.keys ∨ (d.issued < d'.issued ∧ raw id = d'.issued)

structure Grows (d d' : Document) : Prop where
  pages : Gains PageId.raw d d' d.pages d'.pages
  objects : Gains ObjectId.raw d d' d.objects d'.objects
  annots : Gains AnnotId.raw d d' d.annots d'.annots
  fonts : Gains FontId.raw d d' d.fonts d'.fonts

theorem Gains.refl {ι ν : Type} (raw : ι → Nat) (t : Table ι ν) : Gains raw d d' t t := fun _ => .inl

theorem Gains.insert_known {ι ν : Type} [DecidableEq ι] {raw : ι → Nat} {t : Table ι ν} {id : ι} {v : ν}
    (known : t.get? id = some v) (v' : ν) : Gains raw d d' t (t.insert id v') := by
  intro other mem
  rw [Table.keys_insert_of_mem (Table.mem_keys_of_get? known)] at mem
  exact .inl mem

theorem Gains.insert_new {ι ν : Type} [DecidableEq ι] {raw : ι → Nat} {t : Table ι ν} {id : ι} (v : ν)
    (later : d.issued < d'.issued) (last : raw id = d'.issued) : Gains raw d d' t (t.insert id v) := by
  intro other mem
  rcases Table.mem_keys_insert.mp mem with rfl | mem
  · exact .inr ⟨later, last⟩
  · exact .inl mem

theorem Gains.erase {ι ν : Type} [DecidableEq ι] (raw : ι → Nat) (t : Table ι ν) (id : ι) :
    Gains raw d d' t (t.erase id) :=
  fun _ mem => .inl (Table.mem_keys_erase.mp mem).1

theorem Gains.le {ι ν : Type} {raw : ι → Nat} {t t' : Table ι ν} (gains : Gains raw d d' t t')
    (issued : d.issued ≤ d'.issued) (old : ∀ id ∈ t.keys, raw id ≤ d.issued) :
    ∀ id ∈ t'.keys, raw id ≤ d'.issued :=
  fun id mem => (gains id mem).elim (fun mem => (old id mem).trans issued) fun new => new.2.le

theorem Gains.absent {ι ν : Type} {raw : ι → Nat} {t t' : Table ι ν} (gains : Gains raw d d' t t') {id : ι}
    (old : raw id ≤ d.issued) (absent : id ∉ t.keys) : id ∉ t'.keys := by
  intro mem
  rcases gains id mem with mem | ⟨later, last⟩
  · exact absent mem
  · omega

theorem Change.grows (change : d.Change effect d') : Grows d d' := by
  cases change with
  | nothing | newDocument | settings => exact ⟨.refl _ _, .refl _ _, .refl _ _, .refl _ _⟩
  | object object o o' known => exact ⟨.refl _ _, .insert_known known o', .refl _ _, .refl _ _⟩
  | annot annot a a' known => exact ⟨.refl _ _, .refl _ _, .insert_known known a', .refl _ _⟩
  | content page p known | insert page _ p known | detach page _ p known =>
      exact ⟨.insert_known known _, .refl _ _, .refl _ _, .refl _ _⟩
  | embed annot _ a known => exact ⟨.refl _ _, .refl _ _, .insert_known known _, .refl _ _⟩
  | destroy object => exact ⟨.refl _ _, .erase _ _ object, .refl _ _, .refl _ _⟩
  | removeEmbedded annot _ a object known => exact ⟨.refl _ _, .erase _ _ object, .insert_known known _, .refl _ _⟩
  | newObject content => exact ⟨.refl _ _, .insert_new _ (Nat.lt_succ_self _) rfl, .refl _ _, .refl _ _⟩
  | newFont name => exact ⟨.refl _ _, .refl _ _, .refl _ _, .insert_new _ (Nat.lt_succ_self _) rfl⟩
  | newPage height => exact ⟨.insert_new _ (Nat.lt_succ_self _) rfl, .refl _ _, .refl _ _, .refl _ _⟩
  | newAnnot page kind p known =>
      exact ⟨.insert_known known _, .refl _ _, .insert_new _ (Nat.lt_succ_self _) rfl, .refl _ _⟩
  | removeAnnot page index p annot known =>
      obtain ⟨gone, -, objects⟩ := held_removeAnnot known index annot rfl
      refine ⟨?_, fun object mem => ?_, ?_, ?_⟩
      · rw [pages_releaseAnnot]
        exact .insert_known known _
      · rw [objects] at mem
        exact .inl (Table.mem_keys_foldl_erase.mp mem).1
      · rw [annots_releaseAnnot]
        exact .erase _ _ annot
      · rw [fonts_releaseAnnot]
        exact .refl _ _

theorem Numbered.change (numbered : d.Numbered) (change : d.Change effect d') : d'.Numbered :=
  ⟨change.grows.pages.le change.issued_le numbered.pages_le,
    change.grows.objects.le change.issued_le numbered.objects_le,
    change.grows.annots.le change.issued_le numbered.annots_le,
      change.grows.fonts.le change.issued_le numbered.fonts_le⟩

theorem Sound.change (sound : d.Sound) (change : d.Change effect d') : d'.Sound :=
  ⟨sound.toOwned.change sound.toNumbered change, sound.toListed.change sound.toNumbered change,
    sound.toFormed.change change, sound.toNumbered.change change⟩

theorem sound_empty (removesQuads : Bool) : (empty removesQuads).Sound := by
  refine ⟨⟨?_, ?_⟩, ⟨?_, ?_⟩, ⟨?_, ?_⟩, ⟨?_, ?_, ?_, ?_⟩⟩
  all_goals simp [empty, held, Document.listed, Table.values, Table.keys, Table.get?, Table.empty]

end PageContent.Document
