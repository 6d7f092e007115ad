import Mathlib.Data.List.Lex
import Mathlib.Data.List.Sort
import Opslane.Lib.Double
import Opslane.Lib.JsonReader

/-!
# The canonical JSON text

The text of RFC 8785: no space, strings and numbers as scripts print them, and the members of
an object in the order of the UTF-16 units of their names. Strings are kept as their
characters.
-/

namespace CanonicalJson

open JsonReader Unicode

abbrev Value := JsonTree (List Nat) Double

def hexDigit (n : Nat) : Nat := code (Nat.digitChar n)

def quoteChar (c : Nat) : List Nat :=
  if c = code '"' ∨ c = code '\\' then [code '\\', c]
  else if c = 0x08 then codes "\\b"
  else if c = 0x0c then codes "\\f"
  else if c = 0x0a then codes "\\n"
  else if c = 0x0d then codes "\\r"
  else if c = 0x09 then codes "\\t"
  else if c < 0x20 then codes "\\u00" ++ [hexDigit (c / 16), hexDigit (c % 16)]
  else [c]

/-- `JSON.stringify` of a string. -/
def quote (s : List Nat) : List Nat := code '"' :: s.flatMap quoteChar ++ [code '"']

def bool (b : Bool) : List Nat := if b then codes "true" else codes "false"

def join (texts : List (List Nat)) : List Nat := [code ','].intercalate texts

/-- The order of names by their units. -/
def nameLe {τ : Type} (a b : List Nat × τ) : Prop := a.1.flatMap utf16 ≤ b.1.flatMap utf16

instance {τ : Type} : DecidableRel (nameLe (τ := τ)) :=
  fun a b => inferInstanceAs (Decidable (a.1.flatMap utf16 ≤ b.1.flatMap utf16))

def byName {τ : Type} (members : List (List Nat × τ)) : List (List Nat × τ) :=
  members.insertionSort nameLe

mutual

/-- The canonical text of a value. -/
def text : Value → List Nat
  | .null => codes "null"
  | .bool b => bool b
  | .number n => n.text
  | .string s => quote s
  | .array items => code '[' :: join (itemTexts items) ++ [code ']']
  | .object members =>
    code '\x7b' :: join ((byName (memberTexts members)).map Prod.snd) ++ [code '\x7d']

def itemTexts : List Value → List (List Nat)
  | [] => []
  | v :: rest => text v :: itemTexts rest

def memberTexts : List (List Nat × Value) → List (List Nat × List Nat)
  | [] => []
  | (name, v) :: rest => (name, quote name ++ code ':' :: text v) :: memberTexts rest

end

/-- The bytes of a text. -/
def encode (text : List Nat) : List UInt8 := (text.flatMap utf8).map Nat.toUInt8

theorem memberTexts_filter (p : List Nat → Bool) (members : List (List Nat × Value)) :
    memberTexts (members.filter fun m => p m.1) = (memberTexts members).filter fun m => p m.1 := by
  induction members with
  | nil => simp [memberTexts]
  | cons m rest ih =>
    obtain ⟨name, v⟩ := m
    cases kept : p name with
    | true => simp [memberTexts, kept, ih]
    | false => simp [memberTexts, kept, ih]

end CanonicalJson
