import Mathlib.Data.List.Induction
import Mathlib.Data.List.Nodup
import Mathlib.Data.List.Perm.Basic
import Opslane.Schema

/-!
# The cards of a digest

`selectActionable`: the candidates with the most impact, and one slot for the candidate that has been
waiting longest of those that are not among them.
-/

namespace Opslane.Digest

structure ActionableCandidate where
  groupID : UUID
  occurrenceCount : Int
  impactVisits : Option Int
  actionableSince : Option Timestamp
  deriving DecidableEq

def moreOccurrences (left right : ActionableCandidate) : Bool :=
  if left.occurrenceCount ≠ right.occurrenceCount then left.occurrenceCount > right.occurrenceCount
  else left.groupID < right.groupID

def moreImpactfulActionable (left right : ActionableCandidate) : Bool :=
  match left.impactVisits, right.impactVisits with
  | none, none => moreOccurrences left right
  | none, some _ => false
  | some _, none => true
  | some visits, some visits' => if visits ≠ visits' then visits > visits' else moreOccurrences left right

/-- What the loop over the waiting candidates compares. -/
def waitsLonger (candidate oldest : ActionableCandidate) : Bool :=
  match candidate.actionableSince, oldest.actionableSince with
  | some since, some since' => since < since' || (since == since' && candidate.groupID < oldest.groupID)
  | _, _ => false

/-- The candidate may take the reserved slot. -/
def Waits (picked : List ActionableCandidate) (candidate : ActionableCandidate) : Prop :=
  candidate.groupID ∉ picked.map ActionableCandidate.groupID ∧ candidate.actionableSince ≠ none
  deriving Decidable

def olderWaiter (picked : List ActionableCandidate) (oldest : Option ActionableCandidate)
    (candidate : ActionableCandidate) : Option ActionableCandidate :=
  if Waits picked candidate then
    match oldest with
    | none => some candidate
    | some o => if waitsLonger candidate o then some candidate else some o
  else oldest

/-- The candidate the loop over the waiting ones ends with. -/
def oldestWaiter (picked eligible : List ActionableCandidate) : Option ActionableCandidate :=
  eligible.foldl (olderWaiter picked) none

def reservedSlot (eligible ranked : List ActionableCandidate) (limit : Nat) : List ActionableCandidate :=
  match oldestWaiter (ranked.take (limit - 1)) eligible with
  | some oldest => [oldest]
  | none => ranked[limit - 1]?.toList

def takeWithOldestWaiter (eligible ranked : List ActionableCandidate) (limit : Nat) :
    List ActionableCandidate × Nat :=
  if ranked.length ≤ limit then (ranked, 0)
  else
    let picked := ranked.take (limit - 1) ++ reservedSlot eligible ranked limit
    (picked, eligible.length - picked.length)

def selectActionable (eligible : List ActionableCandidate) (limit : Nat) :
    List ActionableCandidate × Nat :=
  takeWithOldestWaiter eligible (eligible.mergeSort fun a b => !moreImpactfulActionable b a) limit

variable {a b : ActionableCandidate}

theorem moreImpactful_asymm (more : moreImpactfulActionable a b = true) :
    moreImpactfulActionable b a = false := by
  unfold moreImpactfulActionable moreOccurrences at *
  cases visits : a.impactVisits <;> cases visits' : b.impactVisits <;>
    simp only [visits, visits'] at more ⊢ <;> grind

variable {a b c : ActionableCandidate}

theorem less_trans (first : moreImpactfulActionable b a = false)
    (second : moreImpactfulActionable c b = false) : moreImpactfulActionable c a = false := by
  unfold moreImpactfulActionable moreOccurrences at *
  cases visits : a.impactVisits <;> cases visits' : b.impactVisits <;> cases visits'' : c.impactVisits <;>
    simp only [visits, visits', visits''] at first second ⊢ <;> grind

theorem id_of_tied (first : moreImpactfulActionable a b = false)
    (second : moreImpactfulActionable b a = false) : a.groupID = b.groupID := by
  unfold moreImpactfulActionable moreOccurrences at *
  cases visits : a.impactVisits <;> cases visits' : b.impactVisits <;>
    simp only [visits, visits'] at first second ⊢ <;> grind

theorem waitsLonger_trans (first : waitsLonger a b = true) (second : waitsLonger b c = true) :
    waitsLonger a c = true := by
  unfold waitsLonger at *
  cases since : a.actionableSince <;> cases since' : b.actionableSince <;>
    cases since'' : c.actionableSince <;> simp only [since, since', since''] at first second ⊢ <;> grind

theorem waitsLonger_self (c : ActionableCandidate) : waitsLonger c c = false := by
  unfold waitsLonger
  cases c.actionableSince <;> grind

theorem id_of_equal_waits (waits : a.actionableSince ≠ none) (waits' : b.actionableSince ≠ none)
    (first : waitsLonger a b = false) (second : waitsLonger b a = false) : a.groupID = b.groupID := by
  unfold waitsLonger at *
  cases since : a.actionableSince <;> cases since' : b.actionableSince <;>
    simp only [since, since'] at first second waits waits' ⊢ <;> grind

/-- `sort.SliceStable` by impact -/
def ranking (eligible : List ActionableCandidate) : List ActionableCandidate :=
  eligible.mergeSort fun a b => !moreImpactfulActionable b a

theorem ranking_perm (eligible : List ActionableCandidate) : (ranking eligible).Perm eligible :=
  List.mergeSort_perm ..

theorem ranking_pairwise (eligible : List ActionableCandidate) :
    (ranking eligible).Pairwise fun a b => moreImpactfulActionable b a = false := by
  have sorted := @List.pairwise_mergeSort _ (fun a b => !moreImpactfulActionable b a)
    (fun a b c first second => by
      simp only [Bool.not_eq_true'] at first second ⊢
      exact less_trans first second)
    (fun a b => by
      cases more : moreImpactfulActionable b a with
      | false => rfl
      | true => simp [moreImpactful_asymm more]) eligible
  exact sorted.imp fun less => by simpa using less

/-- The ids of the candidates are distinct. -/
def Distinct (eligible : List ActionableCandidate) : Prop :=
  (eligible.map ActionableCandidate.groupID).Nodup
  deriving Decidable

variable {eligible : List ActionableCandidate}

theorem Distinct.eq_of_id (distinct : Distinct eligible) (first : a ∈ eligible)
    (second : b ∈ eligible) (same : a.groupID = b.groupID) : a = b :=
  List.inj_on_of_nodup_map distinct first second same

theorem ranking_eq {eligible eligible' : List ActionableCandidate} (distinct : Distinct eligible)
    (perm : eligible.Perm eligible') : ranking eligible = ranking eligible' := by
  have whole := (ranking_perm eligible).trans (perm.trans (ranking_perm eligible').symm)
  refine List.Perm.eq_of_pairwise (fun a b first second before behind => ?_)
    (ranking_pairwise eligible) (ranking_pairwise eligible') whole
  exact distinct.eq_of_id ((ranking_perm eligible).mem_iff.mp first)
    ((ranking_perm eligible).mem_iff.mp (whole.mem_iff.mpr second)) (id_of_tied behind before)

theorem oldestWaiter_spec (picked eligible : List ActionableCandidate) :
    (oldestWaiter picked eligible = none → ∀ c ∈ eligible, ¬Waits picked c) ∧
      ∀ oldest, oldestWaiter picked eligible = some oldest → oldest ∈ eligible ∧ Waits picked oldest ∧
        ∀ c ∈ eligible, Waits picked c → waitsLonger c oldest = false := by
  induction eligible using List.reverseRecOn with
  | nil => exact ⟨fun _ _ member => by simp at member, fun _ same => by simp [oldestWaiter] at same⟩
  | append_singleton earlier last ih =>
    have step : oldestWaiter picked (earlier ++ [last]) = olderWaiter picked (oldestWaiter picked earlier) last := by
      simp [oldestWaiter]
    rw [step]
    cases before : oldestWaiter picked earlier with
    | none =>
      have idle := ih.1 before
      by_cases waits : Waits picked last
      · simp only [olderWaiter, if_pos waits]
        refine ⟨nofun, fun oldest same => ?_⟩
        cases same
        refine ⟨by simp, waits, fun c member holds => ?_⟩
        rcases List.mem_append.mp member with old | new
        · exact absurd holds (idle c old)
        · rw [List.mem_singleton.mp new]
          exact waitsLonger_self last
      · simp only [olderWaiter, if_neg waits]
        refine ⟨fun _ c member => ?_, nofun⟩
        rcases List.mem_append.mp member with old | new
        · exact idle c old
        · rwa [List.mem_singleton.mp new]
    | some o =>
      obtain ⟨known, waiting, longest⟩ := ih.2 o before
      have kept (still : Waits picked last → waitsLonger last o = false) :
          o ∈ earlier ++ [last] ∧ Waits picked o ∧
            ∀ c ∈ earlier ++ [last], Waits picked c → waitsLonger c o = false := by
        refine ⟨List.mem_append_left _ known, waiting, fun c member holds => ?_⟩
        rcases List.mem_append.mp member with old | new
        · exact longest c old holds
        · rw [List.mem_singleton.mp new] at holds ⊢
          exact still holds
      by_cases waits : Waits picked last
      · cases longer : waitsLonger last o with
        | false =>
          simp only [olderWaiter, if_pos waits, longer]
          exact ⟨nofun, fun oldest same => by cases same; exact kept fun _ => longer⟩
        | true =>
          simp only [olderWaiter, if_pos waits, longer]
          refine ⟨nofun, fun oldest same => ?_⟩
          cases same
          refine ⟨by simp, waits, fun c member holds => ?_⟩
          rcases List.mem_append.mp member with old | new
          · rw [Bool.eq_false_iff]
            intro before
            have earlier := longest c old holds
            rw [waitsLonger_trans before longer] at earlier
            cases earlier
          · rw [List.mem_singleton.mp new]
            exact waitsLonger_self last
      · simp only [olderWaiter, if_neg waits]
        exact ⟨nofun, fun oldest same => by cases same; exact kept fun holds => absurd holds waits⟩

theorem oldestWaiter_eq {picked eligible eligible' : List ActionableCandidate} (distinct : Distinct eligible)
    (perm : eligible.Perm eligible') : oldestWaiter picked eligible = oldestWaiter picked eligible' := by
  obtain ⟨idle, longest⟩ := oldestWaiter_spec picked eligible
  obtain ⟨idle', longest'⟩ := oldestWaiter_spec picked eligible'
  cases one : oldestWaiter picked eligible with
  | none =>
    cases other : oldestWaiter picked eligible' with
    | none => rfl
    | some o => exact absurd (longest' o other).2.1 (idle one o (perm.mem_iff.mpr (longest' o other).1))
  | some o =>
    obtain ⟨known, waits, first⟩ := longest o one
    cases other : oldestWaiter picked eligible' with
    | none => exact absurd waits (idle' other o (perm.mem_iff.mp known))
    | some o' =>
      obtain ⟨known', waits', first'⟩ := longest' o' other
      have same : o = o' := distinct.eq_of_id known (perm.mem_iff.mpr known')
        (id_of_equal_waits waits.2 waits'.2 (first' o (perm.mem_iff.mp known) waits)
          (first o' (perm.mem_iff.mpr known') waits'))
      rw [same]

/-- No candidate waits longer. -/
structure WaitsLongest (candidates : List ActionableCandidate) (c : ActionableCandidate) : Prop where
  member : c ∈ candidates
  waiting : c.actionableSince ≠ none
  first : ∀ d ∈ candidates, waitsLonger d c = false

/-- What a digest shows of the candidates: all but the last of a full selection have at least the impact
of those left out, and the last is the next in impact or has been waiting longest of the rest. -/
structure Selected (eligible picked : List ActionableCandidate) (limit overflow : Nat) : Prop where
  length : picked.length = min limit eligible.length
  distinct : Distinct picked
  members : picked ⊆ eligible
  counted : picked.length + overflow = eligible.length
  longest : ∀ c, WaitsLongest eligible c → c ∈ picked
  impactful : ∀ c ∈ picked, ∀ d ∈ eligible, d ∉ picked → moreImpactfulActionable d c = false ∨
    WaitsLongest (eligible.filter (· ∉ picked.take (limit - 1))) c

variable {limit : Nat}

theorem selected_all (distinct : Distinct eligible) (few : eligible.length ≤ limit) :
    Selected eligible (ranking eligible) limit 0 where
  length := by rw [(ranking_perm eligible).length_eq, Nat.min_eq_right few]
  distinct := ((ranking_perm eligible).map _).nodup_iff.mpr distinct
  members := (ranking_perm eligible).subset
  counted := (ranking_perm eligible).length_eq
  longest c waits := (ranking_perm eligible).mem_iff.mpr waits.member
  impactful _ _ d known left := absurd ((ranking_perm eligible).mem_iff.mpr known) left

/-- The candidate in the reserved slot. -/
def Reserved (eligible top rest : List ActionableCandidate) (slot : ActionableCandidate) : Prop :=
  (slot ∈ eligible ∧ Waits top slot ∧ ∀ c ∈ eligible, Waits top c → waitsLonger c slot = false) ∨
    ((∀ c ∈ eligible, ¬Waits top c) ∧ rest.head? = some slot)

theorem selected_reserved {eligible top rest : List ActionableCandidate}
    {slot : ActionableCandidate} (distinct : Distinct eligible)
    (ranked : ranking eligible = top ++ rest) (size : top.length + 1 = limit)
    (more : limit < eligible.length) (reserved : Reserved eligible top rest slot) :
    Selected eligible (top ++ [slot]) limit (eligible.length - (top ++ [slot]).length) := by
  have known (c : ActionableCandidate) : c ∈ eligible ↔ c ∈ top ∨ c ∈ rest := by
    rw [← (ranking_perm eligible).mem_iff, ranked, List.mem_append]
  have ids : Distinct (top ++ rest) := ranked ▸ ((ranking_perm eligible).map _).nodup_iff.mpr distinct
  have sorted := ranked ▸ ranking_pairwise eligible
  rw [List.pairwise_append] at sorted
  have apart : ∀ c ∈ rest, c.groupID ∉ top.map ActionableCandidate.groupID := by
    intro c member inTop
    rw [Distinct, List.map_append, List.nodup_append] at ids
    exact ids.2.2 _ inTop _ (List.mem_map_of_mem member) rfl
  have slotRest : slot ∈ rest := by
    rcases reserved with ⟨member, waits, -⟩ | ⟨-, first⟩
    · refine ((known slot).mp member).resolve_left fun inTop => waits.1 (List.mem_map_of_mem inTop)
    · exact List.mem_of_head? first
  have length : (top ++ [slot]).length = limit := by simpa using size
  have taken : (top ++ [slot]).take (limit - 1) = top := by
    rw [show limit - 1 = top.length by omega, List.take_left]
  refine ⟨?_, ?_, ?_, ?_, ?_, ?_⟩
  · rw [length, Nat.min_eq_left (Nat.le_of_lt more)]
  · rw [Distinct, List.map_append, List.nodup_append]
    rw [Distinct, List.map_append, List.nodup_append] at ids
    refine ⟨ids.1, by simp, fun a inTop b inSlot same => ?_⟩
    rw [List.map_singleton, List.mem_singleton] at inSlot
    exact apart slot slotRest (inSlot ▸ same ▸ inTop)
  · intro c member
    rcases List.mem_append.mp member with inTop | new
    · exact (known c).mpr (.inl inTop)
    · rw [List.mem_singleton.mp new]
      exact (known slot).mpr (.inr slotRest)
  · rw [length]
    omega
  · intro c waits
    rcases (known c).mp waits.member with inTop | inRest
    · exact List.mem_append_left _ inTop
    · have holds : Waits top c := ⟨apart c inRest, waits.waiting⟩
      rcases reserved with ⟨member, waiting, first⟩ | ⟨idle, -⟩
      · have same : c = slot := distinct.eq_of_id waits.member member
          (id_of_equal_waits holds.2 waiting.2 (first c waits.member holds) (waits.first slot member))
        simp [same]
      · exact absurd holds (idle c waits.member)
  · intro c member d present left
    rw [List.mem_append, not_or, List.mem_singleton] at left
    have inRest : d ∈ rest := ((known d).mp present).resolve_left left.1
    rw [taken]
    rcases List.mem_append.mp member with inTop | new
    · exact .inl (sorted.2.2 c inTop d inRest)
    · rw [List.mem_singleton.mp new]
      rcases reserved with ⟨own, waiting, first⟩ | ⟨-, head⟩
      · refine .inr ⟨?_, waiting.2, fun e member => ?_⟩
        · have outside : slot ∉ top := fun inTop => waiting.1 (List.mem_map_of_mem inTop)
          simpa using ⟨own, outside⟩
        · obtain ⟨eligible_, outside⟩ := List.mem_filter.mp member
          have lower := ((known e).mp eligible_).resolve_left (by simpa using outside)
          by_cases waits : e.actionableSince = none
          · simp [waitsLonger, waits]
          · exact first e eligible_ ⟨apart e lower, waits⟩
      · obtain ⟨tail, rfl⟩ : ∃ tail, rest = slot :: tail := List.head?_eq_some_iff.mp head
        rcases List.mem_cons.mp inRest with same | behind
        · exact absurd same left.2
        · exact .inl ((List.pairwise_cons.mp sorted.2.1).1 d behind)

theorem reservedSlot_spec {eligible ranked : List ActionableCandidate}
    (inside : limit - 1 < ranked.length) : ∃ slot, reservedSlot eligible ranked limit = [slot] ∧
      Reserved eligible (ranked.take (limit - 1)) (ranked.drop (limit - 1)) slot := by
  obtain ⟨idle, longest⟩ := oldestWaiter_spec (ranked.take (limit - 1)) eligible
  unfold reservedSlot
  cases found : oldestWaiter (ranked.take (limit - 1)) eligible with
  | some slot => exact ⟨slot, rfl, .inl (longest slot found)⟩
  | none =>
    refine ⟨ranked[limit - 1], ?_, .inr ⟨idle found, ?_⟩⟩
    · rw [List.getElem?_eq_getElem inside, Option.toList_some]
    · rw [List.head?_drop, List.getElem?_eq_getElem inside]

def threeCandidates : List ActionableCandidate :=
  [⟨1, 1, some 10, some 1⟩, ⟨2, 1, some 5, none⟩, ⟨3, 1, some 1, some 2⟩]

/-- The longest waiting candidate has a slot of its own, and the other goes by impact all the same. -/
def SlotByImpact (eligible : List ActionableCandidate) (limit : Nat) : Prop :=
  ∀ c ∈ (selectActionable eligible limit).1, ∀ d ∈ eligible, d ∉ (selectActionable eligible limit).1 →
    moreImpactfulActionable d c = false ∨ WaitsLongest eligible c

end Opslane.Digest
