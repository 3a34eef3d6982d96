import StackLanguage.Text.Position

namespace StackLanguage

/-! Places in named sources, and causes of errors with the place they are found at. -/

structure Location where
  file : String
  position : Position
deriving DecidableEq, Repr, Inhabited

namespace Location

/-- What has no place in a source is on line zero. -/
def nowhere : Location := ⟨"<unknown>", ⟨0, 0⟩⟩

def whole (file : String) : Location := ⟨file, ⟨0, 0⟩⟩

def text (location : Location) : String :=
  location.file ++ ":" ++ toString location.position.line ++ ":" ++
    toString location.position.column

end Location

structure Located (Cause : Type) where
  cause : Cause
  location : Location
deriving DecidableEq

namespace Located

def text {Cause : Type} (message : Cause → String) (error : Located Cause) : String :=
  if error.location.position.line = 0 then message error.cause
  else error.location.text ++ ": " ++ message error.cause

end Located

end StackLanguage
