import Opslane.Schema

/-!
# Canonical fingerprints

`packages/ingestion/identity/canonical.go`: the envelope a resolved stack is
stored in, its serialization into the identity key and the digest of that key.
SHA-256 is a parameter; no result depends on which digest it is.
-/

namespace Opslane.Identity

def IdentityVersion : Int := 2

/-- The envelope contract version. -/
def ResolverVersion : Int := 2

def maxIdentityFrames : Nat := 5

structure GeneratedPos where
  line : Int
  column : Int
  deriving DecidableEq

structure Frame where
  originalFile : String
  originalFunction : String
  originalLine : Int
  generated : GeneratedPos
  deriving DecidableEq

structure Envelope where
  version : Int
  frames : List Frame
  deriving DecidableEq

/-- `strings.ReplaceAll(file, "\\", "/")`. -/
def slashed (file : String) : String := file.map fun c => if c = '\\' then '/' else c

/-- Anonymous functions include their original line so unrelated callbacks in
the same file do not merge. -/
def Frame.part (frame : Frame) : String :=
  if frame.originalFunction = "" ∨ frame.originalFunction = "<anonymous>" then
    slashed frame.originalFile ++ "#L" ++ toString frame.originalLine
  else
    slashed frame.originalFile ++ "#" ++ frame.originalFunction

/-- Serializes an envelope into the identity key input. -/
def CanonicalString (env : Envelope) : String :=
  "|".intercalate (("v" ++ toString env.version) ::
    (env.frames.take maxIdentityFrames).map Frame.part)

/-- The `%x` verb on one byte. -/
def hexByte (byte : UInt8) : List Char :=
  [(byte.toNat / 16).digitChar, (byte.toNat % 16).digitChar]

/-- The first half of the digest of the canonical string, in hexadecimal. -/
def Hash (sha256 : String → Vector UInt8 32) (env : Envelope) : String :=
  String.ofList (((sha256 (CanonicalString env)).toList.take 16).flatMap hexByte)

theorem Hash_ne_empty (sha256 : String → Vector UInt8 32) (env : Envelope) :
    Hash sha256 env ≠ "" := by
  have digits : ∀ bytes : List UInt8, (bytes.flatMap hexByte).length = 2 * bytes.length := by
    intro bytes
    induction bytes with
    | nil => rfl
    | cons byte rest ih => simp [List.flatMap_cons, hexByte, ih]; omega
  have length : (Hash sha256 env).length = 32 := by
    simp [Hash, digits]
  intro empty
  rw [empty] at length
  simp at length

end Opslane.Identity
