import Opslane.Lib.Bytes
import Opslane.Lib.Scan

/-!
# Secret patterns

The patterns the server masks by. Letters are matched without case, and under Unicode
folding two characters outside ASCII count as letters: U+017F as an s, U+212A as a k.
-/

namespace Opslane.Masking

open Scan

def redacted : Bytes := Bytes.ascii "[REDACTED]"

def byte (c : Char) : UInt8 := c.toNat.toUInt8

/-- `\s` -/
def isSpace (b : UInt8) : Bool :=
  b == byte ' ' || b == byte '\t' || b == byte '\n' || b == 0x0c || b == byte '\r'

def isLowerLetter (b : UInt8) : Bool := byte 'a' ≤ b && b ≤ byte 'z'

def isUpperLetter (b : UInt8) : Bool := byte 'A' ≤ b && b ≤ byte 'Z'

def isLetter (b : UInt8) : Bool := isLowerLetter b || isUpperLetter b

def isDigit (b : UInt8) : Bool := byte '0' ≤ b && b ≤ byte '9'

/-- One letter under folding: the lower-case letter it counts as, and the rest. -/
def foldedLetter : Bytes → Option (UInt8 × Bytes)
  | [] => none
  | b :: rest =>
    if isLowerLetter b then some (b, rest)
    else if isUpperLetter b then some (b + 0x20, rest)
    else
      match b :: rest with
      | 0xc5 :: 0xbf :: rest => some (byte 's', rest)
      | 0xe2 :: 0x84 :: 0xaa :: rest => some (byte 'k', rest)
      | _ => none

/-- A lower-case literal, without case. -/
def foldedLiteral : Bytes → Bytes → Option Bytes
  | [], text => some text
  | l :: literal, text =>
    if isLowerLetter l then
      match foldedLetter text with
      | some (letter, rest) => if letter = l then foldedLiteral literal rest else none
      | none => none
    else
      match text with
      | b :: rest => if b = l then foldedLiteral literal rest else none
      | [] => none

/-- The first of several literals. -/
def oneOf (literals : List String) (text : Bytes) : Option Bytes :=
  literals.findSome? fun literal => foldedLiteral (Bytes.ascii literal) text

/-- The longest run of folded letters and of bytes of a class, with what it takes. -/
def foldedRun (other : UInt8 → Bool) : Bytes → Bytes × Bytes
  | [] => ([], [])
  | 0xc5 :: 0xbf :: rest =>
    let (run, rest) := foldedRun other rest
    (0xc5 :: 0xbf :: run, rest)
  | 0xe2 :: 0x84 :: 0xaa :: rest =>
    let (run, rest) := foldedRun other rest
    (0xe2 :: 0x84 :: 0xaa :: run, rest)
  | b :: rest =>
    if isLetter b || other b then
      let (run, rest) := foldedRun other rest
      (b :: run, rest)
    else ([], b :: rest)

def isSchemeByte (b : UInt8) : Bool := isDigit b || b ∈ Bytes.ascii "+.-"

def isUserByte (b : UInt8) : Bool := !(b ∈ Bytes.ascii "/@:" || isSpace b)

def isPasswordByte (b : UInt8) : Bool := !(b ∈ Bytes.ascii "/@" || isSpace b)

/-- `(:[^/@\s]+)?@` -/
def userinfoEnd (text : Bytes) : Option Bytes :=
  match text with
  | [] => none
  | b :: rest =>
    if b = byte '@' then some rest
    else if b = byte ':' then
      match rest.span isPasswordByte with
      | (_ :: _, at_ :: rest) => if at_ = byte '@' then some rest else none
      | _ => none
    else none

/-- `urlCredRe`, replaced by `${1}[REDACTED]@` -/
def urlCred : Pattern UInt8 := fun text => do
  let _ ← foldedLetter text
  let (scheme, rest) := foldedRun isSchemeByte text
  let rest ← foldedLiteral (Bytes.ascii "://") rest
  match rest.span isUserByte with
  | ([], _) => none
  | (_ :: _, rest) => do
    let rest ← userinfoEnd rest
    return (scheme ++ Bytes.ascii "://" ++ redacted ++ [byte '@'], rest)

def isQueryValueByte (b : UInt8) : Bool := !(b ∈ Bytes.ascii "&\"'" || isSpace b)

def secretParameters : List String :=
  ["access_token=", "refresh_token=", "token=", "api_key=", "apikey=", "key=", "secret=",
    "password=", "sig=", "signature="]

/-- `urlSecretQueryRe`, replaced by `${1}[REDACTED]` -/
def urlSecretQuery : Pattern UInt8 := fun text =>
  match text with
  | [] => none
  | b :: tail =>
    if b = byte '?' ∨ b = byte '&' then do
      let rest ← oneOf secretParameters tail
      match rest.span isQueryValueByte with
      | ([], _) => none
      | (_ :: _, rest') =>
        return (b :: tail.take (tail.length - rest.length) ++ redacted, rest')
    else none

/-- `RedactURL` -/
def redactURL (s : Bytes) : Bytes := replaceAll urlSecretQuery (replaceAll urlCred s)

/-- `tokenFragmentRe` -/
def tokenFragment : Pattern UInt8 := fun text => do
  let rest ← oneOf ["access_token=", "id_token=", "refresh_token=", "token=", "code="] text
  return ([], rest)

end Opslane.Masking
