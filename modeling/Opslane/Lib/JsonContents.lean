import Opslane.Lib.JsonReader

/-!
# What a value holds

Two values are alike when they are the same but for the order of their members and for what
their numbers do not tell apart. What a reader draws from its strings and numbers holds of
every string and number of the value it reads, as long as it holds at every end of the text.
-/

namespace JsonTree

variable {σ ν : Type}

theorem induct {P : JsonTree σ ν → Prop} (null : P .null) (bool : ∀ b, P (.bool b))
    (number : ∀ n, P (.number n)) (string : ∀ s, P (.string s))
    (array : ∀ items, (∀ v ∈ items, P v) → P (.array items))
    (object : ∀ members, (∀ m ∈ members, P m.2) → P (.object members)) : ∀ v, P v
  | .null => null
  | .bool b => bool b
  | .number n => number n
  | .string s => string s
  | .array items => array items fun v _ => induct null bool number string array object v
  | .object members => object members fun m member =>
      have smaller : sizeOf m.2 < sizeOf members := by
        have inside := List.sizeOf_lt_of_mem member
        have half : sizeOf m.2 < sizeOf m := by
          cases m
          simp
        omega
      induct null bool number string array object m.2
termination_by v => sizeOf v

mutual

/-- Every string and name has the one property, every number the other. -/
def Holds (P : σ → Prop) (Q : ν → Prop) : JsonTree σ ν → Prop
  | .number n => Q n
  | .string s => P s
  | .array items => ItemsHold P Q items
  | .object members => MembersHold P Q members
  | _ => True

def ItemsHold (P : σ → Prop) (Q : ν → Prop) : List (JsonTree σ ν) → Prop
  | [] => True
  | v :: rest => Holds P Q v ∧ ItemsHold P Q rest

def MembersHold (P : σ → Prop) (Q : ν → Prop) : List (σ × JsonTree σ ν) → Prop
  | [] => True
  | (name, v) :: rest => (P name ∧ Holds P Q v) ∧ MembersHold P Q rest

end

theorem itemsHold_iff {P : σ → Prop} {Q : ν → Prop} {items : List (JsonTree σ ν)} :
    ItemsHold P Q items ↔ ∀ v ∈ items, v.Holds P Q := by
  induction items with
  | nil => simp [ItemsHold]
  | cons v rest ih => simp [ItemsHold, ih]

theorem membersHold_iff {P : σ → Prop} {Q : ν → Prop} {members : List (σ × JsonTree σ ν)} :
    MembersHold P Q members ↔ ∀ m ∈ members, P m.1 ∧ m.2.Holds P Q := by
  induction members with
  | nil => simp [MembersHold]
  | cons m rest ih => simp [MembersHold, ih]

mutual

/-- The same items in their order, the same names with values alike, the same numbers. -/
def Alike (same : ν → ν → Prop) : JsonTree σ ν → JsonTree σ ν → Prop
  | .null, .null => True
  | .bool a, .bool b => a = b
  | .number m, .number n => same m n
  | .string s, .string t => s = t
  | .array vs, .array ws => ItemsAlike same vs ws
  | .object ms, .object ns =>
    (∀ name, name ∈ ms.map Prod.fst ↔ name ∈ ns.map Prod.fst) ∧ MembersAlike same ms ns
  | _, _ => False

def ItemsAlike (same : ν → ν → Prop) : List (JsonTree σ ν) → List (JsonTree σ ν) → Prop
  | [], [] => True
  | v :: vs, w :: ws => Alike same v w ∧ ItemsAlike same vs ws
  | _, _ => False

def MembersAlike (same : ν → ν → Prop) :
    List (σ × JsonTree σ ν) → List (σ × JsonTree σ ν) → Prop
  | [], _ => True
  | (name, v) :: rest, ns => (∃ w, (name, w) ∈ ns ∧ Alike same v w) ∧ MembersAlike same rest ns

end

theorem itemsAlike_iff {same : ν → ν → Prop} {vs ws : List (JsonTree σ ν)} :
    ItemsAlike same vs ws ↔ List.Forall₂ (Alike same) vs ws := by
  induction vs generalizing ws with
  | nil => cases ws <;> simp [ItemsAlike]
  | cons v vs ih =>
    cases ws with
    | nil => simp [ItemsAlike]
    | cons w ws => simp [ItemsAlike, ih]

theorem membersAlike_iff {same : ν → ν → Prop} {ms ns : List (σ × JsonTree σ ν)} :
    MembersAlike same ms ns ↔ ∀ m ∈ ms, ∃ w, (m.1, w) ∈ ns ∧ m.2.Alike same w := by
  induction ms with
  | nil => simp [MembersAlike]
  | cons m rest ih =>
    obtain ⟨name, v⟩ := m
    simp [MembersAlike, ih]

end JsonTree

namespace JsonReader

variable {ε σ ν τ : Type}

/-- Of a text in `T`, what is read is in `A`, and what is left is an end of the text. -/
def Draws (T : Codes → Prop) (A : τ → Prop) (read : Codes → Except ε (τ × Codes)) : Prop :=
  ∀ text x rest, T text → read text = .ok (x, rest) → A x ∧ rest <:+ text

section
variable {T : Codes → Prop} (ends : ∀ text rest, T text → rest <:+ text → T rest)
include ends

theorem elements_draws {A : τ → Prop} {invalid : ε} {closing : Nat}
    {element : List τ → Codes → Except ε (τ × Codes)} (draws : ∀ before, Draws T A (element before))
    {fuel : Nat} {before : List τ} (held : ∀ x ∈ before, A x) :
    Draws T (fun xs => ∀ x ∈ xs, A x) (elements invalid closing element fuel before) := by
  induction fuel generalizing before with
  | zero =>
    intro text xs rest _ read
    cases read
  | succ fuel ih =>
    intro text xs rest inside read
    obtain ⟨⟨x, rest'⟩, first, read⟩ := Except.of_bind read
    obtain ⟨drawn, behind⟩ := draws before _ _ _ inside first
    have grown : ∀ y ∈ before ++ [x], A y :=
      List.forall_mem_append.mpr ⟨held, by simpa using drawn⟩
    have skipped : skipSpace rest' <:+ text := (List.dropWhile_suffix _).trans behind
    dsimp only at read
    split at read
    · rename_i c after front
      rw [front] at skipped
      have later := (List.suffix_cons c after).trans skipped
      split_ifs at read
      · obtain ⟨rfl, rfl⟩ := Prod.mk.inj (Except.ok.inj read)
        exact ⟨grown, later⟩
      · have next : skipSpace after <:+ text := (List.dropWhile_suffix _).trans later
        obtain ⟨all, final⟩ := ih grown _ _ _ (ends _ _ inside next) read
        exact ⟨all, final.trans next⟩
    · cases read

theorem enclosed_draws {A : τ → Prop} {invalid : ε} {closing : Nat}
    {element : List τ → Codes → Except ε (τ × Codes)} (draws : ∀ before, Draws T A (element before)) :
    Draws T (fun xs => ∀ x ∈ xs, A x) (enclosed invalid closing element) := by
  intro text xs rest inside read
  have skipped : skipSpace text <:+ text := List.dropWhile_suffix _
  have none_ : ∀ x ∈ ([] : List τ), A x := by simp
  unfold enclosed at read
  split at read
  · rename_i c after front
    rw [front] at skipped
    split_ifs at read
    · obtain ⟨rfl, rfl⟩ := Prod.mk.inj (Except.ok.inj read)
      exact ⟨none_, (List.suffix_cons c after).trans skipped⟩
    · obtain ⟨all, final⟩ := elements_draws ends draws none_ _ _ _ (ends _ _ inside skipped) read
      exact ⟨all, final.trans skipped⟩
  · have empty := ends _ _ inside (List.nil_suffix (l := text))
    obtain ⟨all, final⟩ := elements_draws ends draws none_ _ _ _ empty read
    exact ⟨all, final.trans List.nil_suffix⟩

namespace Grammar

variable {g : Grammar ε σ ν} {P : σ → Prop} {Q : ν → Prop}

theorem member_draws [DecidableEq σ] {A : τ → Prop} {value : Codes → Except ε (τ × Codes)}
    (string : Draws T P g.string) (draws : Draws T A value) (before : List (σ × τ)) :
    Draws T (fun m => P m.1 ∧ A m.2) (g.member value before) := by
  intro text member rest inside read
  unfold Grammar.member at read
  split_ifs at read
  obtain ⟨⟨name, rest₁⟩, named, read⟩ := Except.of_bind read
  obtain ⟨drawn, first⟩ := string _ _ _ inside named
  dsimp only at read
  generalize (if name ∈ before.map Prod.fst then g.duplicate else none) = refusal at read
  cases refusal with
  | some refusal => cases read
  | none =>
    obtain ⟨rest₂, colon, read⟩ := Except.of_bind read
    obtain ⟨⟨x, rest₃⟩, valued, read⟩ := Except.of_bind read
    obtain ⟨rfl, rfl⟩ := Prod.mk.inj (Except.ok.inj read)
    have skipped : skipSpace rest₁ <:+ text := (List.dropWhile_suffix _).trans first
    rw [expect_eq_ok.mp colon] at skipped
    have second : skipSpace rest₂ <:+ text :=
      (List.dropWhile_suffix _).trans ((List.suffix_cons _ rest₂).trans skipped)
    obtain ⟨valueDrawn, third⟩ := draws _ _ _ (ends _ _ inside second) valued
    exact ⟨⟨drawn, valueDrawn⟩, third.trans second⟩

omit ends in
theorem literal_draws {A : JsonTree σ ν → Prop} {spelling : Codes} {tree : JsonTree σ ν} (held : A tree) :
    Draws T A (g.literal spelling tree) := by
  intro text x rest _ read
  unfold Grammar.literal at read
  split_ifs at read
  obtain ⟨rfl, rfl⟩ := Prod.mk.inj (Except.ok.inj read)
  exact ⟨held, List.drop_suffix _ _⟩

theorem value_draws [DecidableEq σ] (string : Draws T P g.string) (number : Draws T Q g.number)
    (depth : Nat) : Draws T (JsonTree.Holds P Q) (g.value depth) := by
  induction depth with
  | zero =>
    intro text x rest _ read
    cases read
  | succ depth ih =>
    intro text x rest inside read
    cases value_returns depth text x rest read with
    | @object c text rest members enclosed_ =>
      have behind := ends _ _ inside (List.suffix_cons c text)
      obtain ⟨all, final⟩ := enclosed_draws ends (member_draws ends string ih) _ _ _ behind enclosed_
      exact ⟨JsonTree.membersHold_iff.mpr all, final.trans (List.suffix_cons c text)⟩
    | @array c text rest items enclosed_ =>
      have behind := ends _ _ inside (List.suffix_cons c text)
      obtain ⟨all, final⟩ := enclosed_draws ends (fun _ => ih) _ _ _ behind enclosed_
      exact ⟨JsonTree.itemsHold_iff.mpr all, final.trans (List.suffix_cons c text)⟩
    | string found => exact string _ _ _ inside found
    | bool _ found => exact literal_draws trivial _ _ _ inside found
    | null _ found => exact literal_draws trivial _ _ _ inside found
    | number found => exact number _ _ _ inside found

end Grammar

end

end JsonReader
