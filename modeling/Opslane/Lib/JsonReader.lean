import Mathlib.Data.List.Nodup
import Opslane.Lib.Result
import Opslane.Lib.Unicode

/-!
# Reading JSON texts

A reader of JSON goes through a text from its front and gives what it read and the rest. The
readers of this library share the grammar of arrays, objects and literals, and differ in how
they read strings and numbers, how deep they go, whether a name may stand twice in an object,
and how they call what they refuse.
-/

inductive JsonTree (σ ν : Type) where
  | null
  | bool (b : Bool)
  | number (n : ν)
  | string (s : σ)
  | array (items : List (JsonTree σ ν))
  | object (members : List (σ × JsonTree σ ν))

namespace JsonTree

variable {σ ν : Type}

def isString : JsonTree σ ν → Bool
  | .string _ => true
  | _ => false

def isNull : JsonTree σ ν → Bool
  | .null => true
  | _ => false

mutual

/-- No object has a name twice, at any depth. -/
def NamesDistinct : JsonTree σ ν → Prop
  | .array items => ItemsDistinct items
  | .object members => (members.map Prod.fst).Nodup ∧ MembersDistinct members
  | _ => True

def ItemsDistinct : List (JsonTree σ ν) → Prop
  | [] => True
  | v :: rest => NamesDistinct v ∧ ItemsDistinct rest

def MembersDistinct : List (σ × JsonTree σ ν) → Prop
  | [] => True
  | (_, v) :: rest => NamesDistinct v ∧ MembersDistinct rest

end

theorem itemsDistinct_iff {items : List (JsonTree σ ν)} :
    ItemsDistinct items ↔ ∀ v ∈ items, v.NamesDistinct := by
  induction items with
  | nil => simp [ItemsDistinct]
  | cons v rest ih => simp [ItemsDistinct, ih]

theorem membersDistinct_iff {members : List (σ × JsonTree σ ν)} :
    MembersDistinct members ↔ ∀ m ∈ members, m.2.NamesDistinct := by
  induction members with
  | nil => simp [MembersDistinct]
  | cons m rest ih => simp [MembersDistinct, ih]

theorem NamesDistinct.filter {members : List (σ × JsonTree σ ν)} (p : σ × JsonTree σ ν → Bool)
    (distinct : (JsonTree.object members).NamesDistinct) :
    (JsonTree.object (members.filter p)).NamesDistinct := by
  rw [NamesDistinct, membersDistinct_iff] at distinct ⊢
  refine ⟨distinct.1.sublist (List.filter_sublist.map _), fun m member => ?_⟩
  exact distinct.2 m (List.mem_of_mem_filter member)

end JsonTree

namespace JsonReader

def code (c : Char) : Nat := c.toNat

def codes (s : String) : Codes := s.toList.map code

def isSpace (c : Nat) : Bool := c == 0x20 || c == 0x0a || c == 0x0d || c == 0x09

def skipSpace (text : Codes) : Codes := text.dropWhile isSpace

def isDigit (c : Nat) : Bool := code '0' ≤ c && c ≤ code '9'

def startsNumber : Codes → Bool
  | c :: _ => c == code '-' || isDigit c
  | [] => false

variable {ε σ ν τ : Type}

structure Grammar (ε σ ν : Type) where
  /-- Reads from the opening quote on. -/
  string : Codes → Except ε (σ × Codes)
  number : Codes → Except ε (ν × Codes)
  invalid : ε
  tooDeep : ε
  /-- How an object with the same name twice is refused, if it is. -/
  duplicate : Option ε

/-- The text behind a character that has to stand at its front. -/
def expect (invalid : ε) (c : Nat) : Codes → Except ε Codes
  | d :: rest => if d = c then .ok rest else .error invalid
  | [] => .error invalid

/-- The elements of an array or the members of an object, from the first one on; each is
read knowing those before it. -/
def elements (invalid : ε) (closing : Nat) (element : List τ → Codes → Except ε (τ × Codes)) :
    Nat → List τ → Codes → Except ε (List τ × Codes)
  | 0, _, _ => .error invalid
  | fuel + 1, before, text => do
    let (x, rest) ← element before text
    match skipSpace rest with
    | c :: rest =>
      if c = closing then .ok (before ++ [x], rest)
      else if c = code ',' then
        elements invalid closing element fuel (before ++ [x]) (skipSpace rest)
      else .error invalid
    | [] => .error invalid

/-- What stands behind an opening bracket. -/
def enclosed (invalid : ε) (closing : Nat) (element : List τ → Codes → Except ε (τ × Codes))
    (text : Codes) : Except ε (List τ × Codes) :=
  match skipSpace text with
  | c :: rest =>
    if c = closing then .ok ([], rest)
    else elements invalid closing element (rest.length + 2) [] (c :: rest)
  | [] => elements invalid closing element 1 [] []

namespace Grammar

variable (g : Grammar ε σ ν)

/-- One member of an object, its name first. -/
def member [DecidableEq σ] (value : Codes → Except ε (τ × Codes)) (before : List (σ × τ))
    (text : Codes) : Except ε ((σ × τ) × Codes) :=
  if text.head? = some (code '"') then do
    let (name, rest) ← g.string text
    match if name ∈ before.map Prod.fst then g.duplicate else none with
    | some refusal => .error refusal
    | none =>
      let rest ← expect g.invalid (code ':') (skipSpace rest)
      let (x, rest) ← value (skipSpace rest)
      return ((name, x), rest)
  else .error g.invalid

def literal (spelling : Codes) (tree : JsonTree σ ν) (text : Codes) :
    Except ε (JsonTree σ ν × Codes) :=
  if spelling.isPrefixOf text then .ok (tree, text.drop spelling.length) else .error g.invalid

/-- A value that may be nested so many levels deep. -/
def value [DecidableEq σ] : Nat → Codes → Except ε (JsonTree σ ν × Codes)
  | 0, _ => .error g.tooDeep
  | _ + 1, [] => .error g.invalid
  | depth + 1, c :: rest =>
    if c = code '\x7b' then do
      let (members, rest) ← enclosed g.invalid (code '\x7d') (g.member (value depth)) rest
      return (.object members, rest)
    else if c = code '[' then do
      let (items, rest) ← enclosed g.invalid (code ']') (fun _ => value depth) rest
      return (.array items, rest)
    else if c = code '"' then do
      let (s, rest) ← g.string (c :: rest)
      return (.string s, rest)
    else if c = code 't' then g.literal (codes "true") (.bool true) (c :: rest)
    else if c = code 'f' then g.literal (codes "false") (.bool false) (c :: rest)
    else if c = code 'n' then g.literal (codes "null") .null (c :: rest)
    else if c = code '-' ∨ isDigit c then do
      let (n, rest) ← g.number (c :: rest)
      return (.number n, rest)
    else .error g.invalid

end Grammar

def Shortens (read : Codes → Except ε (τ × Codes)) : Prop :=
  ∀ text x rest, read text = .ok (x, rest) → rest.length < text.length

theorem length_skipSpace_le (text : Codes) : (skipSpace text).length ≤ text.length :=
  (List.dropWhile_suffix _).length_le

variable {text rest : Codes}

theorem expect_eq_ok {invalid : ε} {c : Nat} :
    expect invalid c text = .ok rest ↔ text = c :: rest := by
  cases text with
  | nil => simp [expect]
  | cons d text =>
    by_cases same : d = c
    · simp [expect, same]
    · simp [expect, same]

variable {closing : Nat}

theorem elements_shortens {invalid : ε} {element : List τ → Codes → Except ε (τ × Codes)}
    (shortens : ∀ before, Shortens (element before)) (fuel : Nat) (before : List τ) :
    Shortens (elements invalid closing element fuel before) := by
  induction fuel generalizing before with
  | zero =>
    intro text xs rest read
    cases read
  | succ fuel ih =>
    intro text xs rest read
    obtain ⟨⟨x, rest'⟩, first, read⟩ := Except.of_bind read
    have shorter := shortens before _ _ _ first
    have skipped := length_skipSpace_le rest'
    dsimp only at read
    split at read
    · rename_i c after behind
      rw [behind] at skipped
      split_ifs at read with closed comma
      · obtain ⟨-, rfl⟩ := Prod.mk.inj (Except.ok.inj read)
        simp only [List.length_cons] at skipped
        omega
      · have later := ih _ _ _ _ read
        have skipped' := length_skipSpace_le after
        simp only [List.length_cons] at skipped
        omega
    · cases read

theorem enclosed_shortens {invalid : ε} {element : List τ → Codes → Except ε (τ × Codes)}
    (shortens : ∀ before, Shortens (element before)) {xs : List τ}
    (read : enclosed invalid closing element text = .ok (xs, rest)) :
    rest.length < text.length := by
  have skipped := length_skipSpace_le text
  unfold enclosed at read
  split at read
  · rename_i c after front
    rw [front] at skipped
    split_ifs at read with closed
    · obtain ⟨-, rfl⟩ := Prod.mk.inj (Except.ok.inj read)
      exact skipped
    · have shorter := elements_shortens shortens _ _ _ _ _ read
      omega
  · have shorter := elements_shortens shortens _ _ _ _ _ read
    simp only [List.length_nil] at shorter
    omega

theorem skipSpace_cons {c : Nat} (visible : isSpace c = false) (rest : Codes) :
    skipSpace (c :: rest) = c :: rest := by
  rw [skipSpace, List.dropWhile_cons_of_neg (by simp [visible])]

variable {fuel : Nat}

theorem elements_comma {invalid : ε} {element : List τ → Codes → Except ε (τ × Codes)}
    {before : List τ} {x : τ} (other : code ',' ≠ closing)
    (read : element before text = .ok (x, code ',' :: rest)) :
    elements invalid closing element (fuel + 1) before text =
      elements invalid closing element fuel (before ++ [x]) (skipSpace rest) := by
  have comma : isSpace (code ',') = false := by decide
  simp only [elements, read, bind, Except.bind, skipSpace_cons comma, if_neg other, if_true]

theorem elements_closing {invalid : ε} {element : List τ → Codes → Except ε (τ × Codes)}
    {before : List τ} {x : τ} (visible : isSpace closing = false)
    (read : element before text = .ok (x, closing :: rest)) :
    elements invalid closing element (fuel + 1) before text = .ok (before ++ [x], rest) := by
  simp only [elements, read, bind, Except.bind, skipSpace_cons visible, if_true]

namespace Grammar

variable {g : Grammar ε σ ν}

/-- How a value was read off a text. -/
inductive ReadValue [DecidableEq σ] (g : Grammar ε σ ν) (depth : Nat) :
    Codes → JsonTree σ ν → Codes → Prop
  | object {c : Nat} {text rest : Codes} {members : List (σ × JsonTree σ ν)}
      (inside : enclosed g.invalid (code '\x7d') (g.member (g.value depth)) text = .ok (members, rest)) :
      ReadValue g depth (c :: text) (.object members) rest
  | array {c : Nat} {text rest : Codes} {items : List (JsonTree σ ν)}
      (inside : enclosed g.invalid (code ']') (fun _ => g.value depth) text = .ok (items, rest)) :
      ReadValue g depth (c :: text) (.array items) rest
  | string {text rest : Codes} {s : σ} (read : g.string text = .ok (s, rest)) :
      ReadValue g depth text (.string s) rest
  | bool {text spelling rest : Codes} {b : Bool} (nonempty : 0 < spelling.length)
      (read : g.literal spelling (.bool b) text = .ok (.bool b, rest)) : ReadValue g depth text (.bool b) rest
  | null {text spelling rest : Codes} (nonempty : 0 < spelling.length)
      (read : g.literal spelling .null text = .ok (.null, rest)) : ReadValue g depth text .null rest
  | number {text rest : Codes} {n : ν} (read : g.number text = .ok (n, rest)) :
      ReadValue g depth text (.number n) rest

theorem literal_eq_ok {spelling text rest : Codes} {tree x : JsonTree σ ν}
    (read : g.literal spelling tree text = .ok (x, rest)) : x = tree := by
  unfold Grammar.literal at read
  split_ifs at read
  exact (Prod.mk.inj (Except.ok.inj read)).1.symm

/-- What is returned was read off the text. -/
def Returns [DecidableEq σ] (g : Grammar ε σ ν) (depth : Nat) (text : Codes)
    (result : Except ε (JsonTree σ ν × Codes)) : Prop :=
  ∀ v rest, result = .ok (v, rest) → ReadValue g depth text v rest

theorem value_returns [DecidableEq σ] (depth : Nat) (text : Codes) :
    Returns g depth text (g.value (depth + 1) text) := by
  cases text with
  | nil => exact fun _ _ => nofun
  | cons c text =>
    unfold Grammar.value
    refine iteInduction (fun _ v rest read => ?_) fun _ => ?_
    · obtain ⟨⟨members, rest'⟩, inside, read⟩ := Except.of_bind read
      cases read
      exact .object inside
    refine iteInduction (fun _ v rest read => ?_) fun _ => ?_
    · obtain ⟨⟨items, rest'⟩, inside, read⟩ := Except.of_bind read
      cases read
      exact .array inside
    refine iteInduction (fun _ v rest read => ?_) fun _ => ?_
    · obtain ⟨⟨s, rest'⟩, inside, read⟩ := Except.of_bind read
      cases read
      exact .string inside
    refine iteInduction (fun _ v rest read => ?_) fun _ => ?_
    · obtain rfl := literal_eq_ok read
      exact .bool (by decide) read
    refine iteInduction (fun _ v rest read => ?_) fun _ => ?_
    · obtain rfl := literal_eq_ok read
      exact .bool (by decide) read
    refine iteInduction (fun _ v rest read => ?_) fun _ => ?_
    · obtain rfl := literal_eq_ok read
      exact .null (by decide) read
    refine iteInduction (fun _ v rest read => ?_) fun _ _ _ => nofun
    obtain ⟨⟨n, rest'⟩, inside, read⟩ := Except.of_bind read
    cases read
    exact .number inside

theorem member_shortens [DecidableEq σ] {value : Codes → Except ε (τ × Codes)}
    (string : Shortens g.string) (shortens : Shortens value) (before : List (σ × τ)) :
    Shortens (g.member value before) := by
  intro text member rest read
  unfold Grammar.member at read
  split_ifs at read
  obtain ⟨⟨name, rest₁⟩, named, read⟩ := Except.of_bind read
  have first := string _ _ _ named
  dsimp only at read
  generalize (if name ∈ before.map Prod.fst then g.duplicate else none) = refusal at read
  cases refusal with
  | some refusal => cases read
  | none =>
    obtain ⟨rest₂, colon, read⟩ := Except.of_bind read
    obtain ⟨⟨x, rest₃⟩, valued, read⟩ := Except.of_bind read
    obtain ⟨-, rfl⟩ := Prod.mk.inj (Except.ok.inj read)
    have second := shortens _ _ _ valued
    have skipped := length_skipSpace_le rest₁
    have skipped' := length_skipSpace_le rest₂
    rw [expect_eq_ok.mp colon, List.length_cons] at skipped
    show rest₃.length < text.length
    omega

theorem literal_shortens {spelling : Codes} {tree : JsonTree σ ν} (nonempty : 0 < spelling.length) :
    Shortens (g.literal spelling tree) := by
  intro text x rest read
  unfold Grammar.literal at read
  split_ifs at read with front
  obtain ⟨-, rfl⟩ := Prod.mk.inj (Except.ok.inj read)
  have bound := (List.isPrefixOf_iff_prefix.mp front).length_le
  rw [List.length_drop]
  omega

theorem value_shortens [DecidableEq σ] (string : Shortens g.string) (number : Shortens g.number)
    (depth : Nat) : Shortens (g.value depth) := by
  induction depth with
  | zero =>
    intro text x rest read
    cases read
  | succ depth ih =>
    intro text x rest read
    cases value_returns depth text x rest read with
    | object inside => exact Nat.lt_succ_of_lt (enclosed_shortens (member_shortens string ih) inside)
    | array inside => exact Nat.lt_succ_of_lt (enclosed_shortens (fun _ => ih) inside)
    | string inside => exact string _ _ _ inside
    | bool nonempty inside => exact literal_shortens nonempty _ _ _ inside
    | null nonempty inside => exact literal_shortens nonempty _ _ _ inside
    | number inside => exact number _ _ _ inside

end Grammar

theorem elements_invariant {P : List τ → Prop} {invalid : ε}
    {element : List τ → Codes → Except ε (τ × Codes)}
    (step : ∀ before text x rest, P before → element before text = .ok (x, rest) → P (before ++ [x]))
    {before : List τ} {xs : List τ} (holds : P before)
    (read : elements invalid closing element fuel before text = .ok (xs, rest)) : P xs := by
  induction fuel generalizing before text with
  | zero => cases read
  | succ fuel ih =>
    obtain ⟨⟨x, rest'⟩, first, read⟩ := Except.of_bind read
    have next := step before text x rest' holds first
    dsimp only at read
    split at read
    · split_ifs at read
      · obtain ⟨rfl, -⟩ := Prod.mk.inj (Except.ok.inj read)
        exact next
      · exact ih next read
    · cases read

theorem enclosed_invariant {P : List τ → Prop} {invalid : ε}
    {element : List τ → Codes → Except ε (τ × Codes)}
    (step : ∀ before text x rest, P before → element before text = .ok (x, rest) → P (before ++ [x]))
    {xs : List τ} (empty : P []) (read : enclosed invalid closing element text = .ok (xs, rest)) :
    P xs := by
  unfold enclosed at read
  split at read
  · split_ifs at read
    · obtain ⟨rfl, -⟩ := Prod.mk.inj (Except.ok.inj read)
      exact empty
    · exact elements_invariant step empty read
  · exact elements_invariant step empty read

namespace Grammar

variable {g : Grammar ε σ ν}

theorem member_eq_ok [DecidableEq σ] {value : Codes → Except ε (τ × Codes)} {before : List (σ × τ)}
    {name : σ} {x : τ} (read : g.member value before text = .ok ((name, x), rest)) :
    (g.duplicate.isSome → name ∉ before.map Prod.fst) ∧ ∃ inside, value inside = .ok (x, rest) := by
  unfold Grammar.member at read
  split_ifs at read
  obtain ⟨⟨name', rest₁⟩, -, read⟩ := Except.of_bind read
  dsimp only at read
  generalize refused : (if name' ∈ before.map Prod.fst then g.duplicate else none) = refusal at read
  cases refusal with
  | some refusal => cases read
  | none =>
    obtain ⟨rest₂, -, read⟩ := Except.of_bind read
    obtain ⟨⟨x', rest₃⟩, valued, read⟩ := Except.of_bind read
    obtain ⟨same, rfl⟩ := Prod.mk.inj (Except.ok.inj read)
    obtain ⟨rfl, rfl⟩ := Prod.mk.inj same
    refine ⟨fun unique known => ?_, _, valued⟩
    rw [if_pos known] at refused
    rw [refused] at unique
    cases unique

theorem value_distinct [DecidableEq σ] (unique : g.duplicate.isSome = true) (depth : Nat)
    {v : JsonTree σ ν} (read : g.value depth text = .ok (v, rest)) :
    v.NamesDistinct := by
  induction depth generalizing text rest v with
  | zero => cases read
  | succ depth ih =>
    cases value_returns depth text v rest read with
    | object inside =>
      rw [JsonTree.NamesDistinct, JsonTree.membersDistinct_iff]
      refine enclosed_invariant
        (P := fun members => (members.map Prod.fst).Nodup ∧ ∀ m ∈ members, m.2.NamesDistinct)
        ?_ (by simp) inside
      rintro before text ⟨name, x⟩ rest ⟨names, values⟩ found
      obtain ⟨fresh, inside, valued⟩ := member_eq_ok found
      have new := fresh unique
      refine ⟨?_, fun m member => ?_⟩
      · rw [List.map_append, List.nodup_append]
        refine ⟨names, by simp, ?_⟩
        rintro a known b single rfl
        have same : a = name := List.mem_singleton.mp single
        exact new (same ▸ known)
      · rcases List.mem_append.mp member with old | last
        · exact values m old
        · rw [List.mem_singleton.mp last]
          exact ih valued
    | array inside =>
      rw [JsonTree.NamesDistinct, JsonTree.itemsDistinct_iff]
      refine enclosed_invariant (P := fun items => ∀ v ∈ items, v.NamesDistinct) ?_ (by simp) inside
      intro before text x rest values found v member
      rcases List.mem_append.mp member with old | last
      · exact values v old
      · rw [List.mem_singleton.mp last]
        exact ih found
    | string _ | bool _ _ | null _ _ | number _ => trivial

end Grammar

theorem ite_both {α β : Type} {R : α → β → Prop} {c : Prop} [Decidable c] {a b : α} {a' b' : β}
    (yes : c → R a a') (no : ¬c → R b b') : R (if c then a else b) (if c then a' else b') := by
  by_cases holds : c
  · rw [if_pos holds, if_pos holds]
    exact yes holds
  · rw [if_neg holds, if_neg holds]
    exact no holds

variable {ε' : Type}

theorem expect_mapError (f : ε → ε') (invalid : ε) (c : Nat) (text : Codes) :
    expect (f invalid) c text = (expect invalid c text).mapError f := by
  cases text with
  | nil => rfl
  | cons d rest =>
    simp only [expect]
    split_ifs
    all_goals rfl

theorem mapError_bind {ε' β : Type} (f : ε → ε') (x : Except ε τ) (k : τ → Except ε β) :
    (x >>= k).mapError f = x.mapError f >>= fun a => (k a).mapError f := by
  cases x <;> rfl

theorem elements_mapError (f : ε → ε') {invalid : ε}
    {element : List τ → Codes → Except ε (τ × Codes)}
    {element' : List τ → Codes → Except ε' (τ × Codes)}
    (maps : ∀ before text, element' before text = (element before text).mapError f) (fuel : Nat)
    (before : List τ) (text : Codes) :
    elements (f invalid) closing element' fuel before text =
      (elements invalid closing element fuel before text).mapError f := by
  induction fuel generalizing before text with
  | zero => rfl
  | succ fuel ih =>
    rw [elements, elements, mapError_bind, maps]
    congr 1
    funext ⟨x, rest⟩
    dsimp only
    split
    · split_ifs
      · rfl
      · exact ih ..
      · rfl
    · rfl

theorem enclosed_mapError (f : ε → ε') {invalid : ε}
    {element : List τ → Codes → Except ε (τ × Codes)}
    {element' : List τ → Codes → Except ε' (τ × Codes)}
    (maps : ∀ before text, element' before text = (element before text).mapError f) (text : Codes) :
    enclosed (f invalid) closing element' text =
      (enclosed invalid closing element text).mapError f := by
  unfold enclosed
  split
  · split_ifs
    · rfl
    · exact elements_mapError f maps ..
  · exact elements_mapError f maps ..

namespace Grammar

/-- The same grammar, its faults called otherwise. -/
def mapFault {ε' : Type} (f : ε → ε') (g : Grammar ε σ ν) : Grammar ε' σ ν where
  string text := (g.string text).mapError f
  number text := (g.number text).mapError f
  invalid := f g.invalid
  tooDeep := f g.tooDeep
  duplicate := g.duplicate.map f

variable {ε' : Type} (f : ε → ε') (g : Grammar ε σ ν)

theorem member_mapFault [DecidableEq σ] {value : Codes → Except ε (τ × Codes)}
    {value' : Codes → Except ε' (τ × Codes)} (maps : ∀ text, value' text = (value text).mapError f)
    (before : List (σ × τ)) (text : Codes) :
    (g.mapFault f).member value' before text = (g.member value before text).mapError f := by
  unfold Grammar.member
  split_ifs
  · rw [mapError_bind]
    show (g.string text).mapError f >>= _ = _
    congr 1
    funext ⟨name, rest⟩
    dsimp only [mapFault]
    by_cases known : name ∈ before.map Prod.fst
    · simp only [if_pos known]
      cases g.duplicate with
      | some refusal => rfl
      | none =>
        simp only [Option.map_none, mapError_bind, expect_mapError, maps]
        rfl
    · simp only [if_neg known, mapError_bind, expect_mapError, maps]
      rfl
  · rfl

theorem literal_mapFault (spelling : Codes) (tree : JsonTree σ ν) (text : Codes) :
    (g.mapFault f).literal spelling tree text = (g.literal spelling tree text).mapError f := by
  unfold Grammar.literal
  split_ifs
  all_goals rfl

theorem value_mapFault [DecidableEq σ] (depth : Nat) (text : Codes) :
    (g.mapFault f).value depth text = (g.value depth text).mapError f := by
  induction depth generalizing text with
  | zero => rfl
  | succ depth ih =>
    cases text with
    | nil => rfl
    | cons c rest =>
      simp only [Grammar.value, apply_ite (Except.mapError f)]
      refine ite_both (fun _ => ?_) fun _ => ite_both (fun _ => ?_) fun _ => ite_both (fun _ => ?_)
        fun _ => ite_both (fun _ => literal_mapFault ..) fun _ => ite_both (fun _ => literal_mapFault ..)
        fun _ => ite_both (fun _ => literal_mapFault ..) fun _ => ite_both (fun _ => ?_) fun _ => rfl
      · rw [mapError_bind, ← enclosed_mapError f (member_mapFault f g ih)]
        rfl
      · rw [mapError_bind, ← enclosed_mapError f fun _ => ih]
        rfl
      · rw [mapError_bind]
        rfl
      · rw [mapError_bind]
        rfl

end Grammar

end JsonReader
