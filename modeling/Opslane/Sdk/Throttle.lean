import Opslane.Lib.CodeUnits
import Opslane.Lib.EntryMap
import Opslane.Lib.Transition

/-!
# The throttle

`shouldThrottle` drops an error that was let through within the window. It remembers so many
errors; of those past that number the one that was first inserted is forgotten, and an error
let through again keeps the place of its first insertion.
-/

namespace Opslane.Sdk.Throttle

open CodeUnits

def isDigit (u : UInt16) : Bool := codeUnit '0' ≤ u && u ≤ codeUnit '9'

/-- `\w` -/
def isWord (u : UInt16) : Bool :=
  isDigit u || (codeUnit 'a' ≤ u && u ≤ codeUnit 'z') || (codeUnit 'A' ≤ u && u ≤ codeUnit 'Z') ||
    u == codeUnit '_'

/-- `\bat\b`, behind a character of a word or not. -/
def hasAt : Bool → CodeUnits → Bool
  | _, [] => false
  | inWord, u :: rest =>
    (!inWord && (codeUnits "at").isPrefixOf (u :: rest) && !((rest.drop 1).head?.any isWord)) ||
      hasAt (isWord u) rest

/-- `:\d+:\d+` at the front. -/
def startsLocation : CodeUnits → Bool
  | [] => false
  | u :: rest =>
    u == codeUnit ':' && rest.head?.any isDigit &&
      match rest.dropWhile isDigit with
      | [] => false
      | v :: rest => v == codeUnit ':' && rest.head?.any isDigit

/-- `/\bat\b|:\d+:\d+/` -/
def isFrame (line : CodeUnits) : Bool := hasAt false line || line.tails.any startsLocation

/-- What `trim` takes away. -/
def isSpace (u : UInt16) : Bool :=
  (9 ≤ u && u ≤ 13) || u == 0x20 || u == 0xa0 || u == 0x1680 || (0x2000 ≤ u && u ≤ 0x200a) ||
    u == 0x2028 || u == 0x2029 || u == 0x202f || u == 0x205f || u == 0x3000 || u == 0xfeff

def trim (text : CodeUnits) : CodeUnits :=
  (((text.dropWhile isSpace).reverse).dropWhile isSpace).reverse

def firstFrame (stack : CodeUnits) : CodeUnits := trim ((stack.lines.find? isFrame).getD [])

structure CapturedError where
  type : CodeUnits
  message : CodeUnits
  stack : CodeUnits
  deriving DecidableEq

def key (e : CapturedError) : CodeUnits :=
  e.type ++ codeUnits "::" ++ e.message ++ codeUnits "::" ++ firstFrame e.stack

def maxKeys : Nat := 200

structure State where
  lastSeen : EntryMap CodeUnits Int
  /-- What was let through and remembered, the latest first. -/
  accepted : List (CodeUnits × Int)

def State.start : State := ⟨.empty, []⟩

/-- An error at a time. -/
structure Call where
  error : CapturedError
  now : Int
  deriving DecidableEq

variable (windowMs : Int)

/-- The error is dropped. -/
def dropped (s : State) (c : Call) : Bool :=
  0 < windowMs && (s.lastSeen.get? (key c.error)).any fun prev => c.now - prev < windowMs

/-- `lastSeen.set(key, now)`, and the oldest insertion dropped where there are too many. -/
def remember (lastSeen : EntryMap CodeUnits Int) (k : CodeUnits) (now : Int) : EntryMap CodeUnits Int :=
  let lastSeen := lastSeen.set k now
  if maxKeys < lastSeen.entries.length then
    match lastSeen.keys.head? with
    | some oldest => lastSeen.delete oldest
    | none => lastSeen
  else lastSeen

/-- `shouldThrottle`; what it answers is `dropped`. -/
def shouldThrottle (s : State) (c : Call) : State :=
  if windowMs ≤ 0 then s
  else if dropped windowMs s c then s
  else ⟨remember s.lastSeen (key c.error) c.now, (key c.error, c.now) :: s.accepted⟩

def machine : Transition.Machine State Call := ⟨shouldThrottle windowMs⟩

end Opslane.Sdk.Throttle
