import Opslane.Lib.Sorted
import Opslane.Lib.Unicode
import Opslane.Tickets.Machine

/-!
# The digest's facts of a ticket

`LoadTicketDigestFacts` of `packages/ingestion/db/ticket_evidence.go`, which calls itself the SQL
twin of the worker's `verifiedEvidence`. The two queries choose and order the same recordings;
what each runtime then does with the names of the accounts is its own: Go and JavaScript trim
different characters and sort by different encodings.
-/

namespace Opslane.Tickets

/-- What `unicode.IsSpace` holds of. -/
def isGoSpace (c : Char) : Bool :=
  c.toNat ∈ [0x9, 0xA, 0xB, 0xC, 0xD, 0x20, 0x85, 0xA0, 0x1680, 0x2028, 0x2029, 0x202F, 0x205F,
    0x3000] ∨ (0x2000 ≤ c.toNat ∧ c.toNat ≤ 0x200A)

/-- `strings.TrimSpace` -/
def TrimSpace (s : String) : String := Text.trimmed isGoSpace s

/-- The keys of a set by `sort.Strings`; the bytes of UTF-8 are in the order of the code points. -/
def sortStrings (keys : List String) : List String := keys.dedup.mergeSort fun s s' => s ≤ s'

/-- A row of the query; `costToUser` and `arrivalNumber` are only ordered by. -/
structure DigestRow where
  attemptID : UUID
  sessionID : String
  endUserID : Option UUID
  accountName : String
  signalIDs : List String
  note : String
  costToUser : Option CostToUser
  arrivalNumber : Nat
  deriving DecidableEq

def digestRow (e : Evidence) (t : FrictionTicket) (now : Timestamp) (m : TicketMatch) :
    Option DigestRow := do
  let c ← e.checks.find? (t.id, m.sessionID)
  let a ← e.attempts.find? c.attemptID
  let b ← e.batches.find? a.batchID
  if m.ticketID = t.id ∧ a.ticketID = t.id ∧ a.sessionID = m.sessionID ∧ b.status = .finalized ∧
      c.outcome = .confirmed ∧ InCohort t m ∧ InLastDays 7 now m then
    some ⟨a.id, m.sessionID, m.endUserID, (accountName e t m.endUserID).getD "",
      verifiedSignals e t m a, a.note, a.costToUser, m.arrivalNumber⟩
  else none

/-- `ORDER BY` cost, arrival number, session. -/
def digestOrder (r r' : DigestRow) : Bool :=
  costRank r.costToUser < costRank r'.costToUser ∨
    (costRank r.costToUser = costRank r'.costToUser ∧ (r.arrivalNumber < r'.arrivalNumber ∨
      (r.arrivalNumber = r'.arrivalNumber ∧ r.sessionID ≤ r'.sessionID)))

def digestRows (e : Evidence) (t : FrictionTicket) (now : Timestamp) : List DigestRow :=
  (e.ticketMatches.rows.filterMap (digestRow e t now)).mergeSort digestOrder

structure TicketDigestFacts where
  latestAttemptID : Option UUID
  ticketID : UUID
  generation : Nat
  evidenceVersion : Nat
  liveGeneration : Nat
  fixSubstate : FixSubstate
  investigationStatus : InvestigationStatus
  groupStatus : GroupStatus
  ticketStatus : TicketStatus
  verifiedUsers : Nat
  verifiedSessions : Nat
  accounts : List String
  signalIDs : List String
  confirmedNotes : List String
  representativeSessionID : String
  representativeNote : String
  representativeAttemptID : Option UUID
  coverage : ℚ

/-- The facts of an issue and its ticket. -/
def digestFacts (s : TicketStore) (g : Incident) (t : FrictionTicket)
    (investigationStatus : InvestigationStatus) (now : Timestamp) : TicketDigestFacts :=
  let rows := digestRows s.evidence t now
  let signals := (rows.flatMap DigestRow.signalIDs).dedup
  let covered := signals.filter (· ∈ g.explainedSignalIDs.getD [])
  let median := rows[(rows.length - 1) / 2]?
  { latestAttemptID := latestAttempt s t.id g.publicationGeneration
    ticketID := t.id
    generation := g.publicationGeneration
    evidenceVersion := t.evidenceVersion
    liveGeneration := t.liveGeneration
    fixSubstate := g.fixSubstate
    investigationStatus
    groupStatus := g.status
    ticketStatus := t.status
    verifiedUsers := (rows.filterMap DigestRow.endUserID).dedup.length
    verifiedSessions := rows.length
    accounts := sortStrings ((rows.map DigestRow.accountName).filter fun name => TrimSpace name ≠ "")
    signalIDs := sortStrings signals
    confirmedNotes := rows.map DigestRow.note
    representativeSessionID := (median.map DigestRow.sessionID).getD ""
    representativeNote := (median.map DigestRow.note).getD ""
    representativeAttemptID := median.map DigestRow.attemptID
    coverage := if signals.length > 0 then (covered.length : ℚ) / signals.length else 0 }

/-- An issue that was never investigated has no status to scan. -/
def LoadTicketDigestFacts (s : TicketStore) (projectID groupID : UUID) (now : Timestamp) :
    Except TicketFixError (Option TicketDigestFacts) :=
  match s.getIncident projectID groupID with
  | none => .ok none
  | some (g, t) =>
    match g.investigationStatus with
    | none => .error .scan
    | some investigationStatus => .ok (some (digestFacts s g t investigationStatus now))

/-- The attempt that a finalized batch confirmed a recent recording of the ticket with. -/
def Confirms (e : Evidence) (t : FrictionTicket) (now : Timestamp) (m : TicketMatch)
    (a : CheckAttempt) : Prop :=
  ∃ c b, e.checks.find? (t.id, m.sessionID) = some c ∧ e.attempts.find? c.attemptID = some a ∧
    e.batches.find? a.batchID = some b ∧ m.ticketID = t.id ∧ a.ticketID = t.id ∧
    a.sessionID = m.sessionID ∧ b.status = .finalized ∧ c.outcome = .confirmed ∧ InCohort t m ∧
    InLastDays 7 now m

/-- The recordings of both queries, with the attempts. -/
def confirming (e : Evidence) (t : FrictionTicket) (now : Timestamp) (m : TicketMatch) :
    Option (TicketMatch × CheckAttempt) := do
  let c ← e.checks.find? (t.id, m.sessionID)
  let a ← e.attempts.find? c.attemptID
  let b ← e.batches.find? a.batchID
  if m.ticketID = t.id ∧ a.ticketID = t.id ∧ a.sessionID = m.sessionID ∧ b.status = .finalized ∧
      c.outcome = .confirmed ∧ InCohort t m ∧ InLastDays 7 now m then some (m, a) else none

variable {e : Evidence}

theorem confirming_eq_some_iff {t : FrictionTicket} {now : Timestamp} {m : TicketMatch}
    {row : TicketMatch × CheckAttempt} :
    confirming e t now m = some row ↔ row.1 = m ∧ Confirms e t now m row.2 := by
  obtain ⟨m', a⟩ := row
  unfold confirming Confirms
  constructor
  · intro found
    obtain ⟨c, check, found⟩ := Option.bind_eq_some_iff.mp found
    obtain ⟨a', attempt, found⟩ := Option.bind_eq_some_iff.mp found
    obtain ⟨b, batch, found⟩ := Option.bind_eq_some_iff.mp found
    split at found
    · rename_i holds
      cases found
      exact ⟨rfl, c, b, check, attempt, batch, holds⟩
    · cases found
  · rintro ⟨rfl, c, b, check, attempt, batch, holds⟩
    simp only [check, attempt, batch, Option.bind_eq_bind, Option.bind_some, if_pos holds]

/-- A recording as the digest's query returns it. -/
def digestOf (e : Evidence) (t : FrictionTicket) (row : TicketMatch × CheckAttempt) : DigestRow :=
  ⟨row.2.id, row.1.sessionID, row.1.endUserID, (accountName e t row.1.endUserID).getD "",
    verifiedSignals e t row.1 row.2, row.2.note, row.2.costToUser, row.1.arrivalNumber⟩

/-- A recording as the worker's query returns it. -/
def evidenceOf (e : Evidence) (t : FrictionTicket) (row : TicketMatch × CheckAttempt) : EvidenceRow :=
  ⟨row.1.sessionID, row.1.endUserID, accountName e t row.1.endUserID,
    verifiedSignals e t row.1 row.2, row.2.note, row.2.costToUser, row.1.arrivalNumber⟩

theorem digestRow_eq (e : Evidence) (t : FrictionTicket) (now : Timestamp) (m : TicketMatch) :
    digestRow e t now m = (confirming e t now m).map (digestOf e t) := by
  simp only [digestRow, confirming, Option.bind_eq_bind, Option.map_bind, Function.comp_def,
    apply_ite (Option.map (digestOf e t)), Option.map_some, Option.map_none]
  rfl

theorem evidenceRow_eq (e : Evidence) (t : FrictionTicket) (now : Timestamp) (m : TicketMatch) :
    evidenceRow e t (some 7) now m = (confirming e t now m).map (evidenceOf e t) := by
  simp only [evidenceRow, confirming, Option.bind_eq_bind, Option.map_bind, Function.comp_def,
    apply_ite (Option.map (evidenceOf e t)), Option.map_some, Option.map_none, Option.all_some,
    decide_eq_true_eq]
  rfl

/-- The order of both queries, seen on the recordings. -/
def recordingOrder (e : Evidence) (t : FrictionTicket) (row row' : TicketMatch × CheckAttempt) : Bool :=
  evidenceOrder (evidenceOf e t row) (evidenceOf e t row')

def confirmedRows (e : Evidence) (t : FrictionTicket) (now : Timestamp) :
    List (TicketMatch × CheckAttempt) :=
  (e.ticketMatches.rows.filterMap (confirming e t now)).mergeSort (recordingOrder e t)

theorem digestRows_eq (e : Evidence) (t : FrictionTicket) (now : Timestamp) :
    digestRows e t now = (confirmedRows e t now).map (digestOf e t) := by
  have rows : digestRow e t now = fun m => (confirming e t now m).map (digestOf e t) :=
    funext (digestRow_eq e t now)
  rw [digestRows, confirmedRows, rows, ← List.map_filterMap, List.map_mergeSort]
  exact fun _ _ _ _ => rfl

theorem evidenceRows_eq (e : Evidence) (t : FrictionTicket) (now : Timestamp) :
    evidenceRows e t (some 7) now = (confirmedRows e t now).map (evidenceOf e t) := by
  have rows : evidenceRow e t (some 7) now = fun m => (confirming e t now m).map (evidenceOf e t) :=
    funext (evidenceRow_eq e t now)
  rw [evidenceRows, confirmedRows, rows, ← List.map_filterMap, List.map_mergeSort]
  exact fun _ _ _ _ => rfl

theorem mem_confirmedRows {t : FrictionTicket} {now : Timestamp}
    {row : TicketMatch × CheckAttempt} :
    row ∈ confirmedRows e t now ↔ row.1 ∈ e.ticketMatches.rows ∧ Confirms e t now row.1 row.2 := by
  rw [confirmedRows, List.mem_mergeSort, List.mem_filterMap]
  constructor
  · rintro ⟨m, member, found⟩
    obtain ⟨rfl, confirms⟩ := confirming_eq_some_iff.mp found
    exact ⟨member, confirms⟩
  · rintro ⟨member, confirms⟩
    exact ⟨row.1, member, confirming_eq_some_iff.mpr ⟨rfl, confirms⟩⟩

theorem codeUnits_eq (s : String) : codeUnits s = (s.toList.map Char.toNat).flatMap Unicode.utf16 := by
  rw [codeUnits, List.flatMap_map]
  rfl

theorem codeUnits_inj {s s' : String} (same : codeUnits s = codeUnits s') : s = s' := by
  have scalar (s : String) : ∀ n ∈ s.toList.map Char.toNat, Unicode.IsScalar n := by
    intro n member
    obtain ⟨c, -, rfl⟩ := List.mem_map.mp member
    unfold Unicode.IsScalar
    rcases c.valid with low | ⟨above, below⟩
    · exact Or.inl low
    · exact Or.inr ⟨above, below⟩
  rw [codeUnits_eq, codeUnits_eq] at same
  have codes := Unicode.flatMap_inj Unicode.utf16_ne_nil
    (fun m n valid valid' a b => Unicode.utf16_append_inj valid valid') (scalar s) (scalar s') same
  exact String.toList_inj.mp (List.map_injective_iff.mpr (fun c d => Char.toNat_inj.mp) codes)

theorem total_codePoints : Sorted.Total fun s s' : String => decide (s ≤ s') where
  trans a b c := by
    simp only [decide_eq_true_eq]
    exact String.le_trans
  total a b := by
    simp only [Bool.or_eq_true, decide_eq_true_eq]
    exact String.le_total a b
  antisymm a b := by
    simp only [decide_eq_true_eq]
    exact String.le_antisymm

theorem total_codeUnits : Sorted.Total fun s s' : String => decide (codeUnits s ≤ codeUnits s') where
  trans a b c := by
    simp only [decide_eq_true_eq]
    exact le_trans
  total a b := by
    simp only [Bool.or_eq_true, decide_eq_true_eq]
    exact le_total _ _
  antisymm a b := by
    simp only [decide_eq_true_eq]
    exact fun before after => codeUnits_inj (le_antisymm before after)

/-- What is written below the surrogates has its code points as code units. -/
def BelowSurrogates (s : String) : Prop := ∀ c ∈ s.toList, c.toNat < 0xd800

theorem codeUnits_of_below {s : String} (low : BelowSurrogates s) : codeUnits s = s.toList.map Char.toNat := by
  have single : ∀ c ∈ s.toList, Unicode.utf16 c.toNat = [c.toNat] := by
    intro c member
    have small := low c member
    rw [Unicode.utf16, if_pos (by omega)]
  rw [codeUnits_eq, List.flatMap_map, List.flatMap_congr single]
  exact List.flatMap_pure_eq_map Char.toNat s.toList

theorem codeUnits_le_iff {s s' : String} (low : BelowSurrogates s) (low' : BelowSurrogates s') :
    codeUnits s ≤ codeUnits s' ↔ s ≤ s' := by
  have strict {s s' : String} (before : s < s') : s.toList.map Char.toNat < s'.toList.map Char.toNat :=
    List.map_lt (fun c d => id) before
  rw [codeUnits_of_below low, codeUnits_of_below low']
  constructor
  · intro before
    by_contra other
    exact absurd before (not_le.mpr (strict (String.not_le.mp other)))
  · intro before
    by_cases same : s = s'
    · rw [same]
    · have other : ¬s' ≤ s := fun after => same (String.le_antisymm before after)
      exact (strict (String.not_le.mp other)).le

theorem sortStrings_eq_iff {keys texts : List String} :
    sortStrings keys = sortedSet texts ↔ (∀ s, s ∈ keys ↔ s ∈ texts) ∧
      ∀ s ∈ keys, ∀ s' ∈ keys, s ≤ s' ↔ codeUnits s ≤ codeUnits s' := by
  rw [sortStrings, sortedSet, Sorted.mergeSort_eq_iff total_codePoints total_codeUnits
    (List.nodup_dedup _) (List.nodup_dedup _)]
  simp only [List.mem_dedup, decide_eq_decide]

/-- The text of a uuid. -/
def UuidText (id : String) : Prop :=
  id.toList.all fun c => c.isDigit || ('a'.toNat ≤ c.toNat && c.toNat ≤ 'f'.toNat) || c == '-'
  deriving Decidable

theorem UuidText.below {id : String} (uuid : UuidText id) : BelowSurrogates id := by
  intro c member
  have written := List.all_eq_true.mp uuid c member
  simp only [Bool.or_eq_true, Bool.and_eq_true, decide_eq_true_eq, beq_iff_eq] at written
  rcases written with (digit | ⟨-, letter⟩) | rfl
  · have bound : c.toNat ≤ 57 := of_decide_eq_true ((Bool.and_eq_true ..).mp digit).2
    omega
  · have bound : c.toNat ≤ 102 := letter
    omega
  · decide

/-- The readers tell the same of a ticket, with what its issue's diagnosis explains. -/
structure FactsAgree (f : TicketDigestFacts) (v : VerifiedEvidence) (explained : List String) : Prop where
  users : f.verifiedUsers = v.users
  sessions : f.verifiedSessions = v.sessions
  accounts : f.accounts = v.accounts
  signalIDs : f.signalIDs = v.signalIDs
  representativeSession : f.representativeSessionID =
    (v.representative.map EvidenceRepresentative.sessionID).getD ""
  representativeNote : f.representativeNote = (v.representative.map EvidenceRepresentative.note).getD ""
  coverage : f.coverage = causeCoverage explained v.signalIDs

/-- The account of the user of a recording that counts. -/
def AccountNamed (e : Evidence) (t : FrictionTicket) (now : Timestamp) (name : String) : Prop :=
  ∃ m ∈ e.ticketMatches.rows, (∃ a, Confirms e t now m a) ∧ accountName e t m.endUserID = some name

/-- Each account name is blank in both runtimes or in neither, and those that are not come in one
order in both encodings. -/
structure NamesAlike (e : Evidence) (t : FrictionTicket) (now : Timestamp) : Prop where
  blank : ∀ name, AccountNamed e t now name → (Text.Blank isGoSpace name ↔ Text.Blank isJSSpace name)
  order : ∀ name name', AccountNamed e t now name → AccountNamed e t now name' → ¬Text.Blank isJSSpace name →
    ¬Text.Blank isJSSpace name' → (name ≤ name' ↔ codeUnits name ≤ codeUnits name')

/-- What the worker keeps of the recording in the middle. -/
def EvidenceRow.representative (r : EvidenceRow) : EvidenceRepresentative :=
  ⟨r.sessionID, r.signalIDs, r.note, r.costToUser⟩

section Agreement

variable {s : TicketStore} {g : Incident} {t : FrictionTicket} {status : InvestigationStatus}
  {now : Timestamp}

theorem TrimSpace_eq_empty_iff (name : String) : TrimSpace name = "" ↔ Text.Blank isGoSpace name :=
  Text.trimmed_eq_empty_iff isGoSpace name

theorem trim_eq_empty_iff (name : String) : trim name = "" ↔ Text.Blank isJSSpace name :=
  Text.trimmed_eq_empty_iff isJSSpace name

theorem mem_digestNames {name : String} :
    name ∈ ((digestRows e t now).map DigestRow.accountName).filter (fun name => TrimSpace name ≠ "") ↔
      AccountNamed e t now name ∧ ¬Text.Blank isGoSpace name := by
  rw [List.mem_filter, decide_eq_true_eq, Ne, TrimSpace_eq_empty_iff, digestRows_eq, List.map_map, List.mem_map]
  constructor
  · rintro ⟨⟨⟨m, a⟩, member, rfl⟩, written⟩
    obtain ⟨known, confirms⟩ := mem_confirmedRows.mp member
    refine ⟨⟨m, known, ⟨a, confirms⟩, ?_⟩, written⟩
    cases account : accountName e t m.endUserID with
    | none =>
      refine absurd ?_ written
      rw [Function.comp_apply, digestOf, account]
      exact nofun
    | some name =>
      rw [Function.comp_apply, digestOf, account]
      rfl
  · rintro ⟨⟨m, known, ⟨a, confirms⟩, account⟩, written⟩
    refine ⟨⟨(m, a), mem_confirmedRows.mpr ⟨known, confirms⟩, ?_⟩, written⟩
    rw [Function.comp_apply, digestOf, account]
    rfl

theorem mem_workerNames {name : String} :
    name ∈ ((evidenceRows e t (some 7) now).filterMap EvidenceRow.accountName).filter
        (fun name => trim name ≠ "") ↔
      AccountNamed e t now name ∧ ¬Text.Blank isJSSpace name := by
  rw [List.mem_filter, decide_eq_true_eq, Ne, trim_eq_empty_iff, evidenceRows_eq, List.filterMap_map,
    List.mem_filterMap]
  refine and_congr_left fun _ => ?_
  constructor
  · rintro ⟨⟨m, a⟩, member, account⟩
    obtain ⟨known, confirms⟩ := mem_confirmedRows.mp member
    exact ⟨m, known, ⟨a, confirms⟩, account⟩
  · rintro ⟨m, known, ⟨a, confirms⟩, account⟩
    exact ⟨(m, a), mem_confirmedRows.mpr ⟨known, confirms⟩, account⟩

theorem accounts_eq_iff : (digestFacts s g t status now).accounts =
    (verifiedEvidence s.evidence t (some 7) now).accounts ↔ NamesAlike s.evidence t now := by
  show sortStrings _ = sortedSet _ ↔ _
  rw [sortStrings_eq_iff]
  constructor
  · rintro ⟨members, order⟩
    have blank : ∀ name, AccountNamed s.evidence t now name →
        (Text.Blank isGoSpace name ↔ Text.Blank isJSSpace name) := by
      intro name named
      have both := members name
      rw [mem_digestNames, mem_workerNames] at both
      exact not_iff_not.mp ((and_congr_right_iff.mp both) named)
    refine ⟨blank, fun name name' named named' written written' => order name ?_ name' ?_⟩
    · exact mem_digestNames.mpr ⟨named, (not_congr (blank name named)).mpr written⟩
    · exact mem_digestNames.mpr ⟨named', (not_congr (blank name' named')).mpr written'⟩
  · rintro ⟨blank, order⟩
    constructor
    · intro name
      rw [mem_digestNames, mem_workerNames]
      exact and_congr_right fun named => not_congr (blank name named)
    · intro name member name' member'
      obtain ⟨named, written⟩ := mem_digestNames.mp member
      obtain ⟨named', written'⟩ := mem_digestNames.mp member'
      exact order name name' named named' ((not_congr (blank name named)).mp written)
        ((not_congr (blank name' named')).mp written')

theorem uuid_of_signal (uuids : ∀ f ∈ e.signals.rows, UuidText f.id) {id : String}
    (member : id ∈ (digestRows e t now).flatMap DigestRow.signalIDs) : UuidText id := by
  rw [digestRows_eq] at member
  obtain ⟨row, inside, own⟩ := List.mem_flatMap.mp member
  obtain ⟨⟨m, a⟩, -, rfl⟩ := List.mem_map.mp inside
  obtain ⟨-, ⟨f, found⟩, -⟩ := (mem_verifiedSignals e t m a id).mp own
  have key : f.id = id := Table.key_of_find? found
  exact key ▸ uuids f (Table.mem_of_find? found)

theorem signalIDs_eq (uuids : ∀ f ∈ s.evidence.signals.rows, UuidText f.id) :
    (digestFacts s g t status now).signalIDs = (verifiedEvidence s.evidence t (some 7) now).signalIDs := by
  show sortStrings _ = sortedSet _
  rw [sortStrings_eq_iff]
  constructor
  · intro id
    rw [List.mem_dedup, digestRows_eq, evidenceRows_eq, List.flatMap_map, List.flatMap_map]
    rfl
  · intro id member id' member'
    rw [List.mem_dedup] at member member'
    exact (codeUnits_le_iff (uuid_of_signal uuids member).below (uuid_of_signal uuids member').below).symm

theorem coverage_eq (same : (digestFacts s g t status now).signalIDs =
      (verifiedEvidence s.evidence t (some 7) now).signalIDs) :
    (digestFacts s g t status now).coverage = causeCoverage (g.explainedSignalIDs.getD [])
      (verifiedEvidence s.evidence t (some 7) now).signalIDs := by
  let signals := ((digestRows s.evidence t now).flatMap DigestRow.signalIDs).dedup
  have value : (digestFacts s g t status now).coverage = coverageValue g.explainedSignalIDs signals := by
    show (if signals.length > 0 then _ else _) = _
    rw [coverageValue]
    by_cases none_ : signals.length = 0
    · rw [if_pos none_, if_neg (by omega)]
    · rw [if_neg none_, if_pos (by omega)]
  rw [value]
  refine coverageValue_eq (List.nodup_dedup _) fun id => ?_
  rw [← same]
  exact (List.mem_mergeSort.trans List.mem_dedup).symm

theorem median_eq {read : DigestRow → String} {read' : EvidenceRepresentative → String}
    (same : ∀ row, read (digestOf e t row) =
      read' (EvidenceRow.representative (evidenceOf e t row))) :
    ((digestRows e t now)[((digestRows e t now).length - 1) / 2]?.map read).getD "" =
      ((summarizeEvidence (evidenceRows e t (some 7) now)).representative.map read').getD "" := by
  show _ = (((evidenceRows e t (some 7) now)[((evidenceRows e t (some 7) now).length - 1) / 2]?.map
    EvidenceRow.representative).map read').getD ""
  rw [digestRows_eq, evidenceRows_eq, List.length_map, List.length_map, List.getElem?_map,
    List.getElem?_map, Option.map_map, Option.map_map, Option.map_map]
  exact congrArg (fun read => Option.getD (Option.map read _) "") (funext same)

end Agreement

section Example

/-- A ticket of three recordings, one of them of a user whose account has this name, is published
as issue 100 and diagnosed; the check of that recording names its signal. -/
def diagnosed (accountName : String) : TicketStore :=
  let sessions := ["a", "b", "c"]
  machine.run .empty (Action.endUser ⟨500, 1, some accountName⟩ :: Action.endUser ⟨501, 1, none⟩ ::
    sessions.map (fun r => Action.session ⟨r, 2, some (if r = "a" then 500 else 501), 0⟩) ++
    sessions.map (fun r => Action.signal ⟨r, r, 2⟩) ++
    sessions.map (fun r => Action.matchObservation 1 2 r r 0 false
      (if r = "a" then .create 10 .defect else .known 10 .strong) 0 0) ++
    ([.confirm 10 ⟨0, 0, 0, false, false⟩
      ⟨[⟨10, "a", 20, .confirmed⟩, ⟨10, "b", 20, .confirmed⟩, ⟨10, "c", 20, .confirmed⟩], by decide⟩
      ⟨[⟨20, 30, 10, "a", ["a"], "the total is empty", none⟩], by decide⟩
      ⟨[⟨30, 10, .finalized⟩], by decide⟩,
    .activateGeneration (FrictionTicket.new 10 1 2 .defect) 5 100 200 0,
    .investigate 100 ⟨some .done, 1, some 0, some ["a"], some "the total is unset", 1, 0⟩ none] :
      List Action))

end Example

end Opslane.Tickets
