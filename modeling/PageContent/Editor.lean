import PageContent.Annot.Transfer

namespace PageContent

/-- An editor works on one page. It remembers the objects of the page from when they were last read. -/
structure Editor where
  page : PageRef
  config : EditConfig
  cache : Option (List (Option PageObject))
  deriving DecidableEq

abbrev Editing (σ : Type) := Edit (Editor × σ)

namespace Editor

variable {σ α : Type} [Library σ]

def openOn (page : PageRef) (config : EditConfig) : Editor := ⟨page, config, none⟩

def onLibrary (edit : Editor → Edit σ α) : Editing σ α := fun (e, s) =>
  let (result, s') := edit e s
  (result, e, s')

def setCache (cache : Option (List (Option PageObject))) : Editing σ Unit :=
  modify fun (e, s) => ({ e with cache }, s)

def cached : Editing σ (Option (List (Option PageObject))) := do pure (← get).1.cache

def height : Editing σ Float32 := onLibrary fun e => readPageHeight e.page.page

def finish : Editing σ Unit := onLibrary fun e =>
  if e.config.regenerateContent then insist .generateContent (.generateContent e.page.page) else pure ()

def objectCount : Editing σ Nat := onLibrary fun e => demand .getObjectCount (.objectCount e.page.page)

def objectAt (index : Nat) : Editing σ ObjectId := do
  let length ← objectCount
  if length ≤ index then throw (.outOfRange index length)
  onLibrary fun e => demand .getObject (.objectAt e.page.page index)

def readSlot (page : PageRef) (index : Nat) : Edit σ (Option PageObject) := do
  match ← ask (.objectAt page.page index) with
  | some object => slot? (PageObject.read object page)
  | none => pure none

def readObjects : Editing σ (List (Option PageObject)) := do
  let count ← objectCount
  onLibrary fun e => (List.range count).mapM (readSlot e.page)

/-- The objects of the page, read when they are asked for anew or are not remembered. -/
def objects (refetch : Bool) : Editing σ (List (Option PageObject)) := do
  match ← cached, refetch with
  | some objects, false => pure objects
  | _, _ => do
    let objects ← readObjects
    setCache (some objects)
    pure objects

def object? (index : Nat) : Editing σ (Option PageObject) := do
  pure ((← objects false)[index]?.join)

def addObject (o : PageObject) : Editing σ Nat := do
  onLibrary fun e => do
    let object ← o.create e.page
    unless ← ask (.insertObject e.page.page object) do
      ask (.destroyObject object)
      throw (.refused .insertObject)
  setCache none
  finish
  pure ((← objectCount) - 1)

def updateObject (index : Nat) (o : PageObject) : Editing σ Unit := do
  let object ← objectAt index
  onLibrary fun e => o.update object e.page
  setCache ((← cached).map (·.set index (some o)))
  finish

def removeObject (index : Nat) : Editing σ Unit := do
  let object ← objectAt index
  onLibrary fun e => do
    insist .removeObject (.detachObject e.page.page object)
    ask (.destroyObject object)
  setCache none
  finish

def annotCount : Editing σ Nat := onLibrary fun e => demand .getAnnotCount (.annotCount e.page.page)

def checkAnnotIndex (index : Nat) : Editing σ Unit := do
  let length ← annotCount
  if length ≤ index then throw (.outOfRange index length)

def readAnnotSlot (page : PageRef) (index : Nat) : Edit σ (Option Annot) := do
  match ← ask (.annotAt page.page index) with
  | some annot => slot? (Annot.read annot page)
  | none => pure none

def annots : Editing σ (List (Option Annot)) := do
  let count ← annotCount
  onLibrary fun e => (List.range count).mapM (readAnnotSlot e.page)

def addAnnot (a : Annot) : Editing σ Nat := do
  let annot ← onLibrary fun e => a.create e.page e.config
  let index ← match ← onLibrary fun e => ask (.annotIndex e.page.page annot) with
    | some index => pure index
    | none => do pure ((← annotCount) - 1)
  finish
  pure index

def updateAnnot (index : Nat) (a : Annot) : Editing σ Unit := do
  checkAnnotIndex index
  onLibrary fun e => do
    let annot ← demand .getAnnot (.annotAt e.page.page index)
    a.update annot e.page e.config
  finish

def removeAnnot (index : Nat) : Editing σ Unit := do
  checkAnnotIndex index
  onLibrary fun e => insist .removeAnnot (.removeAnnot e.page.page index)
  finish

end Editor

end PageContent
