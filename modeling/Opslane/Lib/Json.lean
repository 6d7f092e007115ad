import Mathlib.Algebra.Group.Int.Defs
import Mathlib.Algebra.GroupWithZero.Nat

/-!
# JSON values

A `jsonb` value, its text, and the two operators that read a field of one: `->` gives the
value, `->>` its text. A string is read as it is, any other value as JSON.
-/

/-- An integer that a JavaScript number holds exactly. -/
structure SafeInteger where
  value : Int
  safe : value.natAbs < 2 ^ 53
  deriving DecidableEq

inductive Json where
  | null
  | bool (b : Bool)
  | number (n : SafeInteger)
  | string (s : String)
  | array (items : List Json)
  | object (fields : List (String × Json))

namespace Json

mutual

def decEq : (a b : Json) → Decidable (a = b)
  | .null, b => match b with
    | .null => isTrue rfl
    | .bool _ | .number _ | .string _ | .array _ | .object _ => isFalse (by simp)
  | .bool x, b => match b with
    | .bool y => decidable_of_iff (x = y) (by simp)
    | .null | .number _ | .string _ | .array _ | .object _ => isFalse (by simp)
  | .number x, b => match b with
    | .number y => decidable_of_iff (x = y) (by simp)
    | .null | .bool _ | .string _ | .array _ | .object _ => isFalse (by simp)
  | .string x, b => match b with
    | .string y => decidable_of_iff (x = y) (by simp)
    | .null | .bool _ | .number _ | .array _ | .object _ => isFalse (by simp)
  | .array xs, b => match b with
    | .array ys => have := decEqItems xs ys; decidable_of_iff (xs = ys) (by simp)
    | .null | .bool _ | .number _ | .string _ | .object _ => isFalse (by simp)
  | .object xs, b => match b with
    | .object ys => have := decEqFields xs ys; decidable_of_iff (xs = ys) (by simp)
    | .null | .bool _ | .number _ | .string _ | .array _ => isFalse (by simp)

def decEqItems : (xs ys : List Json) → Decidable (xs = ys)
  | [], [] => isTrue rfl
  | [], _ :: _ | _ :: _, [] => isFalse (by simp)
  | x :: xs, y :: ys =>
    have := decEq x y
    have := decEqItems xs ys
    decidable_of_iff (x = y ∧ xs = ys) (by simp)

def decEqFields : (xs ys : List (String × Json)) → Decidable (xs = ys)
  | [], [] => isTrue rfl
  | [], _ :: _ | _ :: _, [] => isFalse (by simp)
  | (name, x) :: xs, (name', y) :: ys =>
    have := decEq x y
    have := decEqFields xs ys
    decidable_of_iff ((name = name' ∧ x = y) ∧ xs = ys) (by simp)

end

instance : DecidableEq Json := decEq

def escape (c : Char) : String :=
  if c = '"' then "\\\"" else if c = '\\' then "\\\\"
  else if c = '\n' then "\\n" else if c = '\r' then "\\r" else if c = '\t' then "\\t"
  else if c.toNat = 8 then "\\b" else if c.toNat = 12 then "\\f"
  else if c.toNat < 0x20 then
    "\\u00" ++ String.ofList [Nat.digitChar (c.toNat / 16), Nat.digitChar (c.toNat % 16)]
  else String.singleton c

def quote (s : String) : String := "\"" ++ String.join (s.toList.map escape) ++ "\""

mutual

/-- The text of a `jsonb` value. -/
def text : Json → String
  | .null => "null"
  | .bool b => toString b
  | .number n => toString n.value
  | .string s => quote s
  | .array items => "[" ++ ", ".intercalate (itemTexts items) ++ "]"
  | .object fields => "\x7b" ++ ", ".intercalate (fieldTexts fields) ++ "\x7d"

def itemTexts : List Json → List String
  | [] => []
  | j :: rest => text j :: itemTexts rest

def fieldTexts : List (String × Json) → List String
  | [] => []
  | (name, j) :: rest => (quote name ++ ": " ++ text j) :: fieldTexts rest

end

/-- `value -> name`, which only an object has. -/
def field (name : String) : Json → Option Json
  | .object fields => fields.lookup name
  | _ => none

/-- `value ->> name`: a string as it is, null as nothing, any other value as its text. -/
def textField (name : String) (j : Json) : Option String :=
  match j.field name with
  | none | some .null => none
  | some (.string s) => some s
  | some value => some value.text

theorem textField_of_string {name : String} {j : Json} {s : String}
    (field : j.field name = some (.string s)) : j.textField name = some s := by
  rw [textField, field]

end Json
