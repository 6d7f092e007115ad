import Opslane.Intake.NetworkTimings
import Opslane.Lib.Distinct

/-!
# Debug images at the intake

An image is kept when its fields are valid, the first time its file and its id come
together, and only if no valid image names its file with another id.
-/

namespace Opslane.Intake

structure ImageMessage where
  type : Field Bytes
  codeFile : Field Bytes
  debugId : Field Bytes
  deriving DecidableEq

structure ValidatedDebugImage where
  codeFile : Bytes
  debugId : Bytes
  deriving DecidableEq

inductive ImageDiscard where
  | malformedContainer | malformedImages | nonObjectImage | badType | badCodeFile | badDebugID
  | ambiguousCodeFile | overLimit
  deriving DecidableEq

/-- The field as a string: a missing one is an error here, a null is empty. -/
def Field.string : Field Bytes → Option Bytes
  | .missing | .mismatched => none
  | .null => some []
  | .value s => some s

def validCodeFile (value : Bytes) : Bool :=
  1 ≤ value.length && value.length ≤ 4096 && !value.any Bytes.isControl

def isLowerHex (b : UInt8) : Bool :=
  Masking.isDigit b || (Masking.byte 'a' ≤ b && b ≤ Masking.byte 'f')

/-- `reDebugID` -/
def isDebugID (value : Bytes) : Bool :=
  value.length = 36 &&
    (List.range 36).all fun i =>
      let b := value.getD i 0
      if i ∈ [8, 13, 18, 23] then b = Masking.byte '-' else isLowerHex b

def checkImage (entry : Option ImageMessage) : Except ImageDiscard ValidatedDebugImage :=
  match entry with
  | none => .error .nonObjectImage
  | some m =>
    if m.type.string ≠ some (Bytes.ascii "sourcemap") then .error .badType
    else
      match m.codeFile.string with
      | none => .error .badCodeFile
      | some codeFile =>
        if !validCodeFile codeFile then .error .badCodeFile
        else
          match m.debugId.string with
          | none => .error .badDebugID
          | some debugId =>
            if isDebugID debugId then .ok { codeFile, debugId } else .error .badDebugID

structure SanitizedImages where
  retained : List ValidatedDebugImage := []
  discards : List ImageDiscard := []
  /-- The registry was there, and no file of the stack was in it. -/
  registryPresentZeroMatched : Bool := false
  deriving DecidableEq

/-- The valid images, the first of each pair. -/
def SanitizedImages.collect (s : SanitizedImages) (entry : Option ImageMessage) : SanitizedImages :=
  match checkImage entry with
  | .error discard => { s with discards := s.discards ++ [discard] }
  | .ok image => { s with retained := s.retained.addNew image }

def isAmbiguous (valid : List ValidatedDebugImage) (image : ValidatedDebugImage) : Bool :=
  valid.any fun other => other.codeFile == image.codeFile && other.debugId != image.debugId

def SanitizedImages.retain (valid : List ValidatedDebugImage) (s : SanitizedImages)
    (image : ValidatedDebugImage) : SanitizedImages :=
  if isAmbiguous valid image then { s with discards := s.discards ++ [ImageDiscard.ambiguousCodeFile] }
  else if s.retained.length = 64 then { s with discards := s.discards ++ [ImageDiscard.overLimit] }
  else { s with retained := s.retained ++ [image] }

/-- The container as it arrives: nothing, no object, an object without images, images that are
no list, or a list whose entries that are no objects are `none`. -/
inductive MetaMessage where
  | absent
  | malformed
  | withoutImages
  | malformedImages
  | images (entries : List (Option ImageMessage))

def sanitizeDebugMeta (raw : MetaMessage) : SanitizedImages :=
  match raw with
  | .absent | .withoutImages => {}
  | .malformed => { discards := [.malformedContainer] }
  | .malformedImages => { discards := [.malformedImages] }
  | .images [] => { registryPresentZeroMatched := true }
  | .images entries =>
    let collected := entries.foldl SanitizedImages.collect {}
    collected.retained.foldl (SanitizedImages.retain collected.retained)
      { discards := collected.discards }

end Opslane.Intake
