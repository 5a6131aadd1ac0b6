namespace PageContent

structure DocumentId where
  raw : Nat
  deriving DecidableEq

structure PageId where
  raw : Nat
  deriving DecidableEq

structure ObjectId where
  raw : Nat
  deriving DecidableEq

structure AnnotId where
  raw : Nat
  deriving DecidableEq

structure FontId where
  raw : Nat
  deriving DecidableEq

structure PageRef where
  document : DocumentId
  page : PageId
  deriving DecidableEq

end PageContent
