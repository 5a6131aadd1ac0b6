namespace PageContent

inductive QuadShrink
  | zeroFill
  | removeWhenSupported
  deriving DecidableEq

structure EditConfig where
  quadShrink : QuadShrink := .zeroFill
  regenerateContent : Bool := true
  deriving DecidableEq

end PageContent
