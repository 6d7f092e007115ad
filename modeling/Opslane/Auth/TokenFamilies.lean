import Opslane.Auth.RefreshTokens

/-!
# Token families

A token is exchanged once, because the update that consumes it marks its row. A reported reuse and
a logout mark the rows that are there: they end a family, respectively the sessions of a user, in
every run in which no rotation that had consumed its token before stores the successor afterwards.
-/

namespace Opslane.Auth

def Event.tradesIn : Event → Option RefreshToken
  | .consumed token => some token
  | .exchanged token _ => some token
  | _ => none

def Event.issues : Event → Option String
  | .login token => some token
  | .exchanged _ successor => some successor
  | _ => none

/-- No two exchanges hand in the same token. -/
def OneSuccessor (log : List Event) : Prop :=
  log.Pairwise fun later earlier => ∀ token successor token' successor',
    later = .exchanged token successor → earlier = .exchanged token' successor' →
      token.tokenHash ≠ token'.tokenHash

/-- After a reported reuse no token of the family is handed in. -/
def ReuseEnds (log : List Event) : Prop :=
  log.Pairwise fun later earlier => ∀ familyID token,
    earlier = .reuse familyID → later.tradesIn = some token → token.familyID ≠ familyID

/-- After a logout no rotation of the user that had consumed its token before is finished, and the
user's tokens that are consumed were issued after it. -/
def LogoutEnds (log : List Event) : Prop :=
  ∀ (after before : List Event) (userID : UUID), log = after ++ Event.logout userID :: before →
    ∀ token : RefreshToken, token.userID = userID →
      (Event.consumed token ∈ before → ∀ successor, Event.exchanged token successor ∉ after) ∧
      (Event.consumed token ∈ after → ∃ e ∈ after, e.issues = some token.tokenHash)

structure FamiliesHold (s : AuthStore) : Prop where
  oneSuccessor : OneSuccessor s.log
  reuseEnds : ReuseEnds s.log
  logoutEnds : LogoutEnds s.log

/-- What happened since the token was consumed. -/
def since (token : RefreshToken) (log : List Event) : List Event :=
  log.takeWhile fun e => e ≠ .consumed token

/-- Neither the family nor the user's sessions have been ended since the token was consumed. -/
def Undisturbed (log : List Event) : Option Progress → Prop
  | some (.minting _ token) =>
    Event.reuse token.familyID ∉ since token log ∧ Event.logout token.userID ∉ since token log
  | _ => True

instance (log : List Event) : ∀ progress, Decidable (Undisturbed log progress)
  | some (.minting _ _) => inferInstanceAs (Decidable (_ ∧ _))
  | some (.consuming _ _) | some (.missed _) | some (.reused _) | none => isTrue trivial

/-- A rotation stores its successor only if nothing has ended its session on the way, and the
update that ends a family does not fail. -/
def Settled (s : AuthStore) : Action → Prop
  | .mint request _ _ _ => Undisturbed s.log (s.requests request)
  | .revokeFamily _ succeeds => succeeds = true
  | _ => True

instance (s : AuthStore) : ∀ a, Decidable (Settled s a)
  | .mint request _ _ _ => inferInstanceAs (Decidable (Undisturbed s.log (s.requests request)))
  | .revokeFamily _ succeeds => inferInstanceAs (Decidable (succeeds = true))
  | .tick _ | .login _ _ _ _ | .refresh _ _ | .switchOrg _ _ _ _ _ | .consume _ | .detectReuse _
  | .abandon _ | .logout _ | .cleanup => isTrue trivial

/-- Rows go, or are marked; none is added. -/
def Kept (before after : TokenTable) : Prop :=
  ∀ r ∈ after.rows, r ∈ before.rows ∨
    r.revokedAt ≠ none ∧ ∃ old ∈ before.rows, old.tokenHash = r.tokenHash ∧
      old.familyID = r.familyID ∧ old.userID = r.userID

theorem Kept.refl (tokens : TokenTable) : Kept tokens tokens := fun _ member => Or.inl member

theorem kept_revoke (tokens : TokenTable) (p : RefreshToken → Bool) (now : Timestamp) :
    Kept tokens (tokens.updateWhere p (RefreshToken.revoke now) fun _ => rfl) := by
  intro r member
  obtain ⟨old, present, rfl⟩ := (tokens.mem_updateWhere _ _ _ r).mp member
  split
  · exact Or.inr ⟨by simp, old, present, rfl, rfl, rfl⟩
  · exact Or.inl present

theorem kept_cleanup (tokens : TokenTable) (now : Timestamp) :
    Kept tokens (CleanupExpiredTokens tokens now) := by
  intro r member
  exact Or.inl (List.mem_filter.mp member).1

/-- Where a request can get to without having consumed a token. -/
def Progress.Waits (s : AuthStore) : Progress → Prop
  | .reused familyID => ∃ r ∈ s.tokens.rows, r.familyID = familyID
  | .minting _ _ => False
  | _ => True

/-- The requests in flight are those from before, apart from ones that wait. -/
def OnlyWaits (s s' : AuthStore) : Prop :=
  ∀ i p, s'.requests i = some p → s.requests i = some p ∨ p.Waits s

theorem OnlyWaits.refl (s : AuthStore) : OnlyWaits s s := fun _ _ here => Or.inl here

variable {progress : Option Progress}

theorem onlyWaits_put {s t : AuthStore} (same : t.requests = s.requests) (request : Nat)
    (waits : ∀ p, progress = some p → p.Waits s) :
    OnlyWaits s (t.put request progress) := by
  intro i p here
  by_cases own : i = request
  · subst own
    exact Or.inr (waits p (by simpa [AuthStore.put] using here))
  · exact Or.inl (by simpa [AuthStore.put, Function.update_of_ne own, same] using here)

/-- The steps, by what they add to the log. -/
inductive Move (s : AuthStore) : Action → AuthStore → Prop
  | quiet {a : Action} {s' : AuthStore} (tokens : Kept s.tokens s'.tokens)
      (requests : OnlyWaits s s') (log : s'.log = s.log) (hashes : s'.hashes = s.hashes)
      (families : s'.families = s.families) : Move s a s'
  | login {a : Action} {s' : AuthStore} (row : RefreshToken) (unused : row.tokenHash ∉ s.hashes)
      (opens : row.familyID ∉ s.families)
      (rows : s'.tokens.rows = row :: s.tokens.rows) (requests : s'.requests = s.requests)
      (log : s'.log = .login row.tokenHash :: s.log) (hashes : s'.hashes = row.tokenHash :: s.hashes)
      (families : s'.families = row.familyID :: s.families) : Move s a s'
  | consume {a : Action} {s' : AuthStore} (request : Nat) (token : RefreshToken)
      (live : token ∈ s.tokens.rows ∧ token.revokedAt = none)
      (tokens : Kept s.tokens s'.tokens)
      (marked : ∀ r ∈ s'.tokens.rows, r.tokenHash = token.tokenHash → r.revokedAt ≠ none)
      (progress : Option Progress)
      (requests : s'.requests = Function.update s.requests request progress)
      (mints : ∀ p, progress = some p → ∃ rotation, p = .minting rotation token)
      (log : s'.log = .consumed token :: s.log) (hashes : s'.hashes = s.hashes)
      (families : s'.families = s.families) : Move s a s'
  | exchange {s' : AuthStore} (request : Nat) (home : UUID) (role : Option String)
      (rotation : Rotation) (token row : RefreshToken)
      (minting : s.requests request = some (.minting rotation token))
      (unused : row.tokenHash ∉ s.hashes)
      (same : row.familyID = token.familyID ∧ row.userID = token.userID)
      (rows : s'.tokens.rows = row :: s.tokens.rows)
      (requests : s'.requests = Function.update s.requests request none)
      (log : s'.log = .exchanged token row.tokenHash :: s.log)
      (hashes : s'.hashes = row.tokenHash :: s.hashes) (families : s'.families = s.families) :
      Move s (.mint request home role row.tokenHash) s'
  | report {s' : AuthStore} (request : Nat) (succeeds : Bool) (familyID : UUID)
      (reused : s.requests request = some (.reused familyID))
      (tokens : Kept s.tokens s'.tokens)
      (marked : succeeds = true → ∀ r ∈ s'.tokens.rows, r.familyID = familyID → r.revokedAt ≠ none)
      (requests : OnlyWaits s s') (log : s'.log = .reuse familyID :: s.log)
      (hashes : s'.hashes = s.hashes) (families : s'.families = s.families) :
      Move s (.revokeFamily request succeeds) s'
  | logout {a : Action} {s' : AuthStore} (userID : UUID) (tokens : Kept s.tokens s'.tokens)
      (marked : ∀ r ∈ s'.tokens.rows, r.userID = userID → r.revokedAt ≠ none)
      (requests : OnlyWaits s s') (log : s'.log = .logout userID :: s.log)
      (hashes : s'.hashes = s.hashes) (families : s'.families = s.families) : Move s a s'

theorem marked_revoke {tokens : TokenTable} {p : RefreshToken → Bool} {now : Timestamp}
    (q : RefreshToken → Prop) (selects : ∀ r ∈ tokens.rows, q r → r.revokedAt = none → p r = true) :
    ∀ r ∈ (tokens.updateWhere p (RefreshToken.revoke now) fun _ => rfl).rows, q r →
      r.revokedAt ≠ none := by
  intro r member holds live
  obtain ⟨old, present, rfl⟩ := (tokens.mem_updateWhere _ _ _ r).mp member
  by_cases selected : p old
  · simp [selected] at live
  · simp only [selected] at holds live
    exact selected (selects old present holds live)

theorem authStep_moves (s : AuthStore) (a : Action) : Move s a (authStep s a) := by
  have idle : Move s a s := .quiet (Kept.refl _) (OnlyWaits.refl s) rfl rfl rfl
  have ended (request : Nat) : OnlyWaits s (s.put request none) :=
    onlyWaits_put rfl request fun p some => by cases some
  cases a with
  | tick duration => exact .quiet (Kept.refl _) (OnlyWaits.refl s) rfl rfl rfl
  | login userID tokenHash familyID orgID =>
    simp only [authStep]
    split
    · exact idle
    · rename_i used
      rw [not_or] at used
      split
      · exact idle
      · rename_i tokens stored
        exact .login _ used.1 used.2 (Table.insert?_spec stored).2 rfl rfl rfl rfl
  | refresh request tokenHash =>
    simp only [authStep]
    split
    · refine .quiet (Kept.refl _) (onlyWaits_put rfl request ?_) rfl rfl rfl
      rintro p ⟨⟩
      trivial
    · exact idle
  | switchOrg request userID orgID role tokenHash =>
    simp only [authStep]
    split
    · refine .quiet (Kept.refl _) (onlyWaits_put rfl request ?_) rfl rfl rfl
      rintro p ⟨⟩
      trivial
    · exact idle
  | consume request =>
    simp only [authStep]
    split
    · rename_i rotation tokenHash waiting
      split
      · refine .quiet (Kept.refl _) (onlyWaits_put rfl request ?_) rfl rfl rfl
        rintro p ⟨⟩
        trivial
      · rename_i tokens token consumed
        obtain ⟨rfl, selected⟩ := Prod.mk.inj consumed
        have member := (s.tokens.mem_select _ token).mp (List.mem_of_head? selected)
        obtain ⟨same, -, live⟩ := of_decide_eq_true member.2
        refine .consume request token ⟨Table.mem_of_find? member.1, live⟩ (kept_revoke _ _ _) ?_
          _ rfl ?_ rfl rfl rfl
        · apply marked_revoke (fun r => r.tokenHash = token.tokenHash)
          intro r present hash _
          have found := s.tokens.find?_key present
          rw [hash, member.1] at found
          obtain rfl := Option.some.inj found
          exact member.2
        · intro p accepted
          split at accepted
          · exact ⟨rotation, (Option.some.inj accepted).symm⟩
          · cases accepted
    · exact idle
  | detectReuse request =>
    simp only [authStep]
    split
    · rename_i tokenHash missed
      refine .quiet (Kept.refl _) (onlyWaits_put rfl request ?_) rfl rfl rfl
      intro p found
      obtain ⟨familyID, reused, rfl⟩ := Option.map_eq_some_iff.mp found
      obtain ⟨r, selected, rfl⟩ := Option.map_eq_some_iff.mp reused
      exact ⟨r, Table.mem_of_find? ((s.tokens.mem_select _ r).mp (List.mem_of_head? selected)).1, rfl⟩
    · exact idle
  | revokeFamily request succeeds =>
    simp only [authStep]
    split
    · rename_i familyID reused
      refine .report request succeeds familyID reused ?_ ?_ (ended request) rfl rfl rfl
      · cases succeeds with
        | true => exact kept_revoke _ _ _
        | false => exact Kept.refl _
      · rintro rfl
        apply marked_revoke (fun r => r.familyID = familyID)
        intro r _ own live
        exact decide_eq_true ⟨own, live⟩
    · exact idle
  | mint request home role tokenHash =>
    simp only [authStep]
    split
    · rename_i rotation token minting
      split
      · exact idle
      · rename_i unused
        split
        · exact .quiet (Kept.refl _) (ended request) rfl rfl rfl
        · rename_i orgID _
          split
          · exact .quiet (Kept.refl _) (ended request) rfl rfl rfl
          · rename_i tokens stored
            let row : RefreshToken :=
              { token with
                tokenHash, orgID := some orgID, expiresAt := s.clock + refreshTokenTTL
                revokedAt := none }
            exact .exchange request home role rotation token row minting unused ⟨rfl, rfl⟩
              (Table.insert?_spec stored).2 rfl rfl rfl rfl
    · exact idle
  | abandon request => exact .quiet (Kept.refl _) (ended request) rfl rfl rfl
  | logout userID =>
    refine .logout userID (kept_revoke _ _ _) ?_ (OnlyWaits.refl s) rfl rfl rfl
    apply marked_revoke (fun r => r.userID = userID)
    intro r _ own live
    exact decide_eq_true ⟨own, live⟩
  | cleanup => exact .quiet (kept_cleanup _ _) (OnlyWaits.refl s) rfl rfl rfl

/-- What the log says of the tokens that were handed in. -/
structure Books (s : AuthStore) : Prop where
  known : ∀ r ∈ s.tokens.rows, r.tokenHash ∈ s.hashes ∧ r.familyID ∈ s.families
  consumed : ∀ token, .consumed token ∈ s.log →
    token.tokenHash ∈ s.hashes ∧ token.familyID ∈ s.families
  exchanged : ∀ token successor, .exchanged token successor ∈ s.log → .consumed token ∈ s.log
  unspent : ∀ r ∈ s.tokens.rows, r.revokedAt = none →
    ∀ token, .consumed token ∈ s.log → token.tokenHash ≠ r.tokenHash
  minting : ∀ i rotation token, s.requests i = some (.minting rotation token) →
    .consumed token ∈ s.log ∧ ∀ token' successor, .exchanged token' successor ∈ s.log →
      token'.tokenHash ≠ token.tokenHash
  single : ∀ i j rotation rotation' token token', s.requests i = some (.minting rotation token) →
    s.requests j = some (.minting rotation' token') → token.tokenHash = token'.tokenHash → i = j
  consumedOnce : s.log.Pairwise fun later earlier => ∀ token token',
    later = .consumed token → earlier = .consumed token' → token.tokenHash ≠ token'.tokenHash
  oneSuccessor : OneSuccessor s.log

theorem books_start (cloudAuthEnabled : Bool) (tokens : TokenTable) (now : Timestamp) :
    Books (.start cloudAuthEnabled tokens now) where
  known r member := ⟨List.mem_map_of_mem member, List.mem_map_of_mem member⟩
  consumed _ none := by cases none
  exchanged _ _ none := by cases none
  unspent _ _ _ _ none := by cases none
  minting _ _ _ none := by cases none
  single _ _ _ _ _ _ none := by cases none
  consumedOnce := List.Pairwise.nil
  oneSuccessor := List.Pairwise.nil

section Step

variable {s s' : AuthStore}

theorem OnlyWaits.minting (requests : OnlyWaits s s') {i : Nat} {rotation : Rotation}
    {token : RefreshToken} (here : s'.requests i = some (.minting rotation token)) :
    s.requests i = some (.minting rotation token) := by
  rcases requests i _ here with before | waits
  · exact before
  · exact waits.elim

theorem Kept.live (tokens : Kept s.tokens s'.tokens) {r : RefreshToken} (member : r ∈ s'.tokens.rows)
    (live : r.revokedAt = none) : r ∈ s.tokens.rows := by
  rcases tokens r member with before | ⟨marked, -⟩
  · exact before
  · exact absurd live marked

theorem Books.known_kept (books : Books s) (tokens : Kept s.tokens s'.tokens) {r : RefreshToken}
    (member : r ∈ s'.tokens.rows) : r.tokenHash ∈ s.hashes ∧ r.familyID ∈ s.families := by
  rcases tokens r member with before | ⟨-, old, before, hash, family, -⟩
  · exact books.known r before
  · rw [← hash, ← family]
    exact books.known old before

theorem Books.frame (books : Books s) (tokens : Kept s.tokens s'.tokens) (requests : OnlyWaits s s')
    (log : s'.log = s.log ∨ ∃ e : Event, e.tradesIn = none ∧ s'.log = e :: s.log)
    (hashes : s'.hashes = s.hashes) (families : s'.families = s.families) : Books s' := by
  have mem_iff {e : Event} (trades : e.tradesIn ≠ none) : e ∈ s'.log ↔ e ∈ s.log := by
    rcases log with same | ⟨added, idle, same⟩
    · rw [same]
    · rw [same, List.mem_cons]
      refine ⟨fun member => member.resolve_left ?_, Or.inr⟩
      rintro rfl
      exact trades idle
  have pairwise {R : Event → Event → Prop} (free : ∀ e e', e.tradesIn = none → R e e')
      (before : s.log.Pairwise R) : s'.log.Pairwise R := by
    rcases log with same | ⟨added, idle, same⟩
    · rwa [same]
    · rw [same, List.pairwise_cons]
      exact ⟨fun e' _ => free added e' idle, before⟩
  have consumed_iff (token : RefreshToken) : .consumed token ∈ s'.log ↔ .consumed token ∈ s.log :=
    mem_iff (by simp [Event.tradesIn])
  have exchanged_iff (token : RefreshToken) (successor : String) :
      .exchanged token successor ∈ s'.log ↔ .exchanged token successor ∈ s.log :=
    mem_iff (by simp [Event.tradesIn])
  constructor
  · intro r member
    rw [hashes, families]
    exact books.known_kept tokens member
  · intro token member
    rw [hashes, families]
    exact books.consumed token ((consumed_iff token).mp member)
  · intro token successor member
    exact (consumed_iff token).mpr (books.exchanged token successor ((exchanged_iff _ _).mp member))
  · intro r member live token spent
    exact books.unspent r (tokens.live member live) live token ((consumed_iff token).mp spent)
  · intro i rotation token here
    obtain ⟨spent, first⟩ := books.minting i rotation token (requests.minting here)
    exact ⟨(consumed_iff token).mpr spent,
      fun token' successor member => first token' successor ((exchanged_iff _ _).mp member)⟩
  · intro i j rotation rotation' token token' here there
    exact books.single i j rotation rotation' token token' (requests.minting here)
      (requests.minting there)
  · apply pairwise _ books.consumedOnce
    rintro e e' idle token token' rfl
    cases idle
  · apply pairwise _ books.oneSuccessor
    rintro e e' idle token successor token' successor' rfl
    cases idle

theorem Books.insert (books : Books s) {row : RefreshToken} (unused : row.tokenHash ∉ s.hashes)
    (rows : s'.tokens.rows = row :: s.tokens.rows) (requests : s'.requests = s.requests)
    (log : s'.log = s.log) (hashes : s'.hashes = row.tokenHash :: s.hashes)
    (families : ∀ familyID ∈ row.familyID :: s.families, familyID ∈ s'.families) : Books s' := by
  have grows : ∀ familyID ∈ s.families, familyID ∈ s'.families :=
    fun familyID member => families familyID (List.mem_cons_of_mem _ member)
  constructor
  · rw [rows, hashes]
    rintro r (_ | ⟨_, member⟩)
    · exact ⟨List.mem_cons_self, families _ List.mem_cons_self⟩
    · obtain ⟨hash, family⟩ := books.known r member
      exact ⟨List.mem_cons_of_mem _ hash, grows _ family⟩
  · rw [log, hashes]
    intro token member
    obtain ⟨hash, family⟩ := books.consumed token member
    exact ⟨List.mem_cons_of_mem _ hash, grows _ family⟩
  · rw [log]
    exact books.exchanged
  · rw [rows, log]
    rintro r (_ | ⟨_, member⟩) live token spent
    · intro same
      exact unused (same ▸ (books.consumed token spent).1)
    · exact books.unspent r member live token spent
  · rw [requests, log]
    exact books.minting
  · rw [requests]
    exact books.single
  · rw [log]
    exact books.consumedOnce
  · rw [log]
    exact books.oneSuccessor

theorem Books.exchange (books : Books s) {request : Nat} {rotation : Rotation} {token : RefreshToken}
    {successor : String} (minting : s.requests request = some (.minting rotation token))
    (rows : s'.tokens.rows = s.tokens.rows)
    (requests : s'.requests = Function.update s.requests request none)
    (log : s'.log = .exchanged token successor :: s.log) (hashes : s'.hashes = s.hashes)
    (families : s'.families = s.families) : Books s' := by
  obtain ⟨spent, first⟩ := books.minting request rotation token minting
  have consumed_iff (t : RefreshToken) : .consumed t ∈ s'.log ↔ .consumed t ∈ s.log := by
    simp [log]
  have before {i : Nat} {p : Progress} (here : s'.requests i = some p) :
      i ≠ request ∧ s.requests i = some p := by
    rw [requests] at here
    by_cases own : i = request
    · simp [own] at here
    · exact ⟨own, by simpa [Function.update_of_ne own] using here⟩
  constructor
  · rw [rows, hashes, families]
    exact books.known
  · intro t member
    rw [hashes, families]
    exact books.consumed t ((consumed_iff t).mp member)
  · intro t next member
    rw [consumed_iff]
    rw [log, List.mem_cons] at member
    rcases member with same | member
    · rw [(Event.exchanged.inj same).1]
      exact spent
    · exact books.exchanged t next member
  · intro r member live t used
    exact books.unspent r (rows ▸ member) live t ((consumed_iff t).mp used)
  · intro i rotation' t here
    obtain ⟨other, here⟩ := before here
    obtain ⟨used, earlier⟩ := books.minting i rotation' t here
    refine ⟨(consumed_iff t).mpr used, fun t' next member => ?_⟩
    rw [log, List.mem_cons] at member
    rcases member with new | member
    · rw [(Event.exchanged.inj new).1]
      exact fun same => other (books.single i request _ _ _ _ here minting same.symm)
    · exact earlier t' next member
  · intro i j rotation' rotation'' t t' here there
    exact books.single i j rotation' rotation'' t t' (before here).2 (before there).2
  · rw [log, List.pairwise_cons]
    refine ⟨fun e _ => ?_, books.consumedOnce⟩
    intro t t' later
    cases later
  · rw [log, OneSuccessor, List.pairwise_cons]
    refine ⟨fun e member t next t' next' later earlier => ?_, books.oneSuccessor⟩
    cases later
    subst earlier
    exact fun same => first t' next' member same.symm

theorem Books.consume (books : Books s) {request : Nat} {token : RefreshToken}
    (live : token ∈ s.tokens.rows ∧ token.revokedAt = none) (tokens : Kept s.tokens s'.tokens)
    (marked : ∀ r ∈ s'.tokens.rows, r.tokenHash = token.tokenHash → r.revokedAt ≠ none)
    (requests : s'.requests = Function.update s.requests request progress)
    (mints : ∀ p, progress = some p → ∃ rotation, p = .minting rotation token)
    (log : s'.log = .consumed token :: s.log) (hashes : s'.hashes = s.hashes)
    (families : s'.families = s.families) : Books s' := by
  have unspent := books.unspent token live.1 live.2
  have exchanged_iff (t : RefreshToken) (next : String) :
      .exchanged t next ∈ s'.log ↔ .exchanged t next ∈ s.log := by
    simp [log]
  have cases_minting {i : Nat} {rotation : Rotation} {t : RefreshToken}
      (here : s'.requests i = some (.minting rotation t)) :
      i = request ∧ t = token ∨ s.requests i = some (.minting rotation t) := by
    rw [requests] at here
    by_cases own : i = request
    · obtain ⟨rotation', same⟩ := mints _ (by simpa [own] using here)
      exact Or.inl ⟨own, by injection same⟩
    · exact Or.inr (by simpa [Function.update_of_ne own] using here)
  constructor
  · intro r member
    rw [hashes, families]
    exact books.known_kept tokens member
  · rw [log, hashes, families]
    rintro t (_ | ⟨_, member⟩)
    · exact books.known token live.1
    · exact books.consumed t member
  · intro t next member
    rw [log]
    exact List.mem_cons_of_mem _ (books.exchanged t next ((exchanged_iff t next).mp member))
  · intro r member unmarked t spent
    rw [log, List.mem_cons] at spent
    rcases spent with new | spent
    · rw [Event.consumed.inj new]
      exact fun same => marked r member same.symm unmarked
    · exact books.unspent r (tokens.live member unmarked) unmarked t spent
  · intro i rotation t here
    rw [log]
    rcases cases_minting here with ⟨-, rfl⟩ | before
    · refine ⟨List.mem_cons_self, fun t' next member => ?_⟩
      exact unspent t' (books.exchanged t' next (by simpa using member))
    · obtain ⟨spent, first⟩ := books.minting i rotation t before
      exact ⟨List.mem_cons_of_mem _ spent, fun t' next member => first t' next (by simpa using member)⟩
  · intro i j rotation rotation' t t' here there same
    rcases cases_minting here with ⟨rfl, rfl⟩ | before <;>
      rcases cases_minting there with ⟨rfl, rfl⟩ | before'
    · rfl
    · exact absurd same.symm (unspent t' (books.minting j rotation' t' before').1)
    · exact absurd same (unspent t (books.minting i rotation t before).1)
    · exact books.single i j rotation rotation' t t' before before' same
  · rw [log, List.pairwise_cons]
    refine ⟨fun e member t t' later earlier => ?_, books.consumedOnce⟩
    cases later
    subst earlier
    exact fun same => unspent t' member same.symm
  · rw [log, OneSuccessor, List.pairwise_cons]
    refine ⟨fun e _ => ?_, books.oneSuccessor⟩
    intro t next t' next' later
    cases later

theorem Books.step (books : Books s) {a : Action} (move : Move s a s') : Books s' := by
  cases move with
  | quiet tokens requests log hashes families =>
    exact books.frame tokens requests (Or.inl log) hashes families
  | report request succeeds familyID reused tokens marked requests log hashes families =>
    exact books.frame tokens requests (Or.inr ⟨_, rfl, log⟩) hashes families
  | logout userID tokens marked requests log hashes families =>
    exact books.frame tokens requests (Or.inr ⟨_, rfl, log⟩) hashes families
  | login row unused opens rows requests log hashes families =>
    let stored : AuthStore :=
      { s with tokens := s'.tokens, hashes := s'.hashes, families := s'.families }
    have inserted : Books stored := books.insert unused rows rfl rfl hashes fun _ => families ▸ id
    exact inserted.frame (Kept.refl _) (fun i p here => Or.inl (requests ▸ here))
      (Or.inr ⟨_, rfl, log⟩) rfl rfl
  | consume request token live tokens marked progress requests mints log hashes families =>
    exact books.consume live tokens marked requests mints log hashes families
  | exchange request home role rotation token row minting unused same rows requests log hashes families =>
    let stored : AuthStore := { s with tokens := s'.tokens, hashes := s'.hashes }
    have family := (books.consumed token (books.minting request rotation token minting).1).2
    have inserted : Books stored := by
      refine books.insert unused rows rfl rfl hashes ?_
      rintro familyID (_ | ⟨_, member⟩)
      · rw [same.1]
        exact family
      · exact member
    exact inserted.exchange minting rfl requests log rfl families

end Step

/-- A token of this user was issued after the last logout. -/
def Renewed (log : List Event) (userID : UUID) (tokenHash : String) : Prop :=
  ∀ after before : List Event, log = after ++ Event.logout userID :: before →
    ∃ e ∈ after, e.issues = some tokenHash

variable {e : Event} {userID : UUID}

theorem cons_eq_logout {log after before : List Event} (other : e ≠ .logout userID)
    (split : e :: log = after ++ Event.logout userID :: before) :
    ∃ rest, after = e :: rest ∧ log = rest ++ Event.logout userID :: before := by
  cases after with
  | nil => exact absurd (List.cons.inj split).1 other
  | cons first rest =>
    obtain ⟨rfl, tail⟩ := List.cons.inj split
    exact ⟨rest, rfl, tail⟩

theorem Renewed.cons {log : List Event} {tokenHash : String}
    (renewed : Renewed log userID tokenHash) (other : e ≠ .logout userID) :
    Renewed (e :: log) userID tokenHash := by
  intro after before split
  obtain ⟨rest, rfl, tail⟩ := cons_eq_logout other split
  obtain ⟨issue, member, issues⟩ := renewed rest before tail
  exact ⟨issue, List.mem_cons_of_mem _ member, issues⟩

theorem Renewed.issue {log : List Event} {tokenHash : String} (issues : e.issues = some tokenHash) :
    Renewed (e :: log) userID tokenHash := by
  intro after before split
  have other : e ≠ .logout userID := by
    rintro rfl
    cases issues
  obtain ⟨rest, rfl, -⟩ := cons_eq_logout other split
  exact ⟨e, List.mem_cons_self, issues⟩

theorem LogoutEnds.cons {log : List Event} {e : Event} (ends : LogoutEnds log)
    (new : ∀ (after before : List Event) (userID : UUID),
      log = after ++ Event.logout userID :: before → ∀ token : RefreshToken, token.userID = userID →
        (Event.consumed token ∈ before → ∀ successor, e ≠ .exchanged token successor) ∧
        (e = .consumed token → ∃ e ∈ after, e.issues = some token.tokenHash)) :
    LogoutEnds (e :: log) := by
  intro after before userID split token own
  cases after with
  | nil => simp
  | cons first rest =>
    obtain ⟨rfl, tail⟩ := List.cons.inj split
    obtain ⟨finished, renewed⟩ := ends rest before userID tail token own
    obtain ⟨finishes, renews⟩ := new rest before userID tail token own
    constructor
    · rintro spent successor (_ | ⟨_, member⟩)
      · exact finishes spent successor rfl
      · exact finished spent successor member
    · rintro (_ | ⟨_, member⟩)
      · obtain ⟨issue, member, issues⟩ := renews rfl
        exact ⟨issue, List.mem_cons_of_mem _ member, issues⟩
      · obtain ⟨issue, member, issues⟩ := renewed member
        exact ⟨issue, List.mem_cons_of_mem _ member, issues⟩

theorem LogoutEnds.idle {log : List Event} {e : Event} (ends : LogoutEnds log)
    (idle : e.tradesIn = none) : LogoutEnds (e :: log) := by
  apply ends.cons
  intro after before userID _ token _
  constructor
  · rintro _ successor rfl
    cases idle
  · rintro rfl
    cases idle

theorem ReuseEnds.idle {log : List Event} {e : Event} (ends : ReuseEnds log)
    (idle : e.tradesIn = none) : ReuseEnds (e :: log) := by
  refine List.pairwise_cons.mpr ⟨fun _ _ familyID token _ trades => ?_, ends⟩
  rw [idle] at trades
  cases trades

theorem since_cons {token : RefreshToken} (other : e ≠ .consumed token) (log : List Event) :
    since token (e :: log) = e :: since token log :=
  List.takeWhile_cons_of_pos (by simpa using other)

theorem mem_since {token : RefreshToken} {after before : List Event}
    (later : Event.consumed token ∉ after) (other : e ≠ .consumed token) :
    e ∈ since token (after ++ e :: before) := by
  have skip : ∀ e ∈ after, decide (e ≠ .consumed token) = true := by
    intro e member
    apply decide_eq_true
    rintro rfl
    exact later member
  rw [since, List.takeWhile_append_of_pos skip, List.takeWhile_cons_of_pos (by simpa using other)]
  exact List.mem_append_right _ List.mem_cons_self

/-- What ends a family or a user's sessions leaves no live row of it. -/
structure Ended (s : AuthStore) : Prop where
  reuse : ∀ familyID, .reuse familyID ∈ s.log → familyID ∈ s.families
  reused : ∀ i familyID, s.requests i = some (.reused familyID) → familyID ∈ s.families
  live : ∀ r ∈ s.tokens.rows, r.revokedAt = none →
    .reuse r.familyID ∉ s.log ∧ Renewed s.log r.userID r.tokenHash
  minting : ∀ i rotation token, s.requests i = some (.minting rotation token) →
    .reuse token.familyID ∈ s.log → .reuse token.familyID ∈ since token s.log
  reuseEnds : ReuseEnds s.log
  logoutEnds : LogoutEnds s.log

theorem ended_start (cloudAuthEnabled : Bool) (tokens : TokenTable) (now : Timestamp) :
    Ended (.start cloudAuthEnabled tokens now) where
  reuse _ absent := by cases absent
  reused _ _ absent := by cases absent
  live _ _ _ := ⟨List.not_mem_nil, fun after _ split => by cases after <;> cases split⟩
  minting _ _ _ absent := by cases absent
  reuseEnds := List.Pairwise.nil
  logoutEnds after _ _ split := by cases after <;> cases split

section Step

variable {s s' : AuthStore}

theorem Ended.idle (ended : Ended s) (books : Books s) (tokens : Kept s.tokens s'.tokens)
    (requests : OnlyWaits s s') {e : Event} (idle : e.tradesIn = none) (log : s'.log = e :: s.log)
    (families : s'.families = s.families)
    (reuse : ∀ familyID, e = .reuse familyID → familyID ∈ s.families)
    (live : ∀ r ∈ s'.tokens.rows, r.revokedAt = none → e ≠ .reuse r.familyID ∧ e ≠ .logout r.userID) :
    Ended s' := by
  constructor
  · rw [log, families]
    rintro familyID (_ | ⟨_, member⟩)
    · exact reuse familyID rfl
    · exact ended.reuse familyID member
  · rw [families]
    intro i familyID here
    rcases requests i _ here with before | ⟨r, member, rfl⟩
    · exact ended.reused i familyID before
    · exact (books.known r member).2
  · intro r member unmarked
    obtain ⟨calm, renewed⟩ := ended.live r (tokens.live member unmarked) unmarked
    obtain ⟨otherFamily, otherUser⟩ := live r member unmarked
    rw [log, List.mem_cons, not_or]
    exact ⟨⟨Ne.symm otherFamily, calm⟩, renewed.cons otherUser⟩
  · intro i rotation token here reported
    have other : e ≠ .consumed token := by
      rintro rfl
      cases idle
    rw [log, since_cons other]
    rw [log, List.mem_cons] at reported
    rcases reported with new | earlier
    · rw [new]
      exact List.mem_cons_self
    · exact List.mem_cons_of_mem _ (ended.minting i rotation token (requests.minting here) earlier)
  · rw [log]
    exact ended.reuseEnds.idle idle
  · rw [log]
    exact ended.logoutEnds.idle idle

theorem Ended.quiet (ended : Ended s) (books : Books s) (tokens : Kept s.tokens s'.tokens)
    (requests : OnlyWaits s s') (log : s'.log = s.log) (families : s'.families = s.families) :
    Ended s' := by
  constructor
  · rw [log, families]
    exact ended.reuse
  · rw [families]
    intro i familyID here
    rcases requests i _ here with before | ⟨r, member, rfl⟩
    · exact ended.reused i familyID before
    · exact (books.known r member).2
  · rw [log]
    intro r member unmarked
    exact ended.live r (tokens.live member unmarked) unmarked
  · rw [log]
    intro i rotation token here
    exact ended.minting i rotation token (requests.minting here)
  · rw [log]
    exact ended.reuseEnds
  · rw [log]
    exact ended.logoutEnds

theorem Ended.login (ended : Ended s) {row : RefreshToken} (opens : row.familyID ∉ s.families)
    (rows : s'.tokens.rows = row :: s.tokens.rows) (requests : s'.requests = s.requests)
    (log : s'.log = .login row.tokenHash :: s.log)
    (families : s'.families = row.familyID :: s.families) : Ended s' := by
  have reuse_iff (familyID : UUID) : .reuse familyID ∈ s'.log ↔ .reuse familyID ∈ s.log := by
    simp [log]
  constructor
  · intro familyID member
    rw [families]
    exact List.mem_cons_of_mem _ (ended.reuse familyID ((reuse_iff familyID).mp member))
  · rw [requests, families]
    intro i familyID here
    exact List.mem_cons_of_mem _ (ended.reused i familyID here)
  · rw [rows]
    rintro r (_ | ⟨_, member⟩) unmarked
    · rw [reuse_iff, log]
      exact ⟨fun reported => opens (ended.reuse _ reported), Renewed.issue rfl⟩
    · obtain ⟨calm, renewed⟩ := ended.live r member unmarked
      rw [reuse_iff, log]
      exact ⟨calm, renewed.cons (by simp)⟩
  · rw [requests]
    intro i rotation token here reported
    rw [log, since_cons (by simp)]
    exact List.mem_cons_of_mem _ (ended.minting i rotation token here ((reuse_iff _).mp reported))
  · rw [log]
    exact ended.reuseEnds.idle rfl
  · rw [log]
    exact ended.logoutEnds.idle rfl

theorem Ended.consume (ended : Ended s) (books : Books s) {request : Nat} {token : RefreshToken}
    (live : token ∈ s.tokens.rows ∧ token.revokedAt = none) (tokens : Kept s.tokens s'.tokens)
    (requests : s'.requests = Function.update s.requests request progress)
    (mints : ∀ p, progress = some p → ∃ rotation, p = .minting rotation token)
    (log : s'.log = .consumed token :: s.log) (families : s'.families = s.families) : Ended s' := by
  obtain ⟨calm, renewed⟩ := ended.live token live.1 live.2
  have reuse_iff (familyID : UUID) : .reuse familyID ∈ s'.log ↔ .reuse familyID ∈ s.log := by
    simp [log]
  constructor
  · intro familyID member
    rw [families]
    exact ended.reuse familyID ((reuse_iff familyID).mp member)
  · intro i familyID here
    rw [families]
    rw [requests] at here
    by_cases own : i = request
    · obtain ⟨rotation, same⟩ := mints _ (by simpa [own] using here)
      cases same
    · exact ended.reused i familyID (by simpa [Function.update_of_ne own] using here)
  · intro r member unmarked
    obtain ⟨calm, renewed⟩ := ended.live r (tokens.live member unmarked) unmarked
    rw [reuse_iff, log]
    exact ⟨calm, renewed.cons (by simp)⟩
  · intro i rotation t here reported
    rw [reuse_iff] at reported
    rw [requests] at here
    by_cases own : i = request
    · obtain ⟨rotation', same⟩ := mints _ (by simpa [own] using here)
      have this : t = token := by injection same
      exact absurd (this ▸ reported) calm
    · have before : s.requests i = some (.minting rotation t) := by
        simpa [Function.update_of_ne own] using here
      -- The row of a token that was handed in is marked, so this is another token.
      have other : Event.consumed token ≠ .consumed t := by
        intro same
        have spent := (books.minting i rotation t before).1
        exact books.unspent token live.1 live.2 t spent (by rw [Event.consumed.inj same])
      rw [log, since_cons other]
      exact List.mem_cons_of_mem _ (ended.minting i rotation t before reported)
  · rw [log, ReuseEnds, List.pairwise_cons]
    refine ⟨fun e member familyID t earlier trades => ?_, ended.reuseEnds⟩
    cases trades
    subst earlier
    exact fun same => calm (same ▸ member)
  · rw [log]
    apply ended.logoutEnds.cons
    intro after before userID split t own
    refine ⟨fun _ _ => by simp, fun same => ?_⟩
    cases same
    exact renewed after before (own ▸ split)

theorem Ended.exchange (ended : Ended s) (books : Books s) {request : Nat} {rotation : Rotation}
    {token row : RefreshToken} (minting : s.requests request = some (.minting rotation token))
    (calm : .reuse token.familyID ∉ since token s.log)
    (signedIn : .logout token.userID ∉ since token s.log) (same : row.familyID = token.familyID)
    (rows : s'.tokens.rows = row :: s.tokens.rows)
    (requests : s'.requests = Function.update s.requests request none)
    (log : s'.log = .exchanged token row.tokenHash :: s.log) (families : s'.families = s.families) :
    Ended s' := by
  have unreported : .reuse token.familyID ∉ s.log :=
    fun reported => calm (ended.minting request rotation token minting reported)
  have reuse_iff (familyID : UUID) : .reuse familyID ∈ s'.log ↔ .reuse familyID ∈ s.log := by
    simp [log]
  have before {i : Nat} {p : Progress} (here : s'.requests i = some p) : s.requests i = some p := by
    rw [requests] at here
    by_cases own : i = request
    · simp [own] at here
    · simpa [Function.update_of_ne own] using here
  constructor
  · intro familyID member
    rw [families]
    exact ended.reuse familyID ((reuse_iff familyID).mp member)
  · intro i familyID here
    rw [families]
    exact ended.reused i familyID (before here)
  · rw [rows]
    rintro r (_ | ⟨_, member⟩) unmarked
    · rw [reuse_iff, log, same]
      exact ⟨unreported, Renewed.issue rfl⟩
    · obtain ⟨calm, renewed⟩ := ended.live r member unmarked
      rw [reuse_iff, log]
      exact ⟨calm, renewed.cons (by simp)⟩
  · intro i rotation' t here reported
    rw [log, since_cons (by simp)]
    exact List.mem_cons_of_mem _ (ended.minting i rotation' t (before here) ((reuse_iff _).mp reported))
  · rw [log, ReuseEnds, List.pairwise_cons]
    refine ⟨fun e member familyID t earlier trades => ?_, ended.reuseEnds⟩
    cases trades
    subst earlier
    exact fun same => unreported (same ▸ member)
  · rw [log]
    apply ended.logoutEnds.cons
    intro after past userID split t own
    refine ⟨fun spent successor exchanged => ?_, by simp⟩
    obtain ⟨rfl, -⟩ := Event.exchanged.inj exchanged
    -- The token was consumed before the logout and only then, so the logout came since.
    have later : .consumed token ∉ after := by
      intro again
      have once := books.consumedOnce
      rw [split, List.pairwise_append] at once
      exact once.2.2 _ again _ (List.mem_cons_of_mem _ spent) token token rfl rfl rfl
    rw [split] at signedIn
    exact signedIn (own ▸ mem_since later (by simp))

theorem Ended.step (ended : Ended s) (books : Books s) {a : Action} (move : Move s a s')
    (settled : Settled s a) : Ended s' := by
  cases move with
  | quiet tokens requests log hashes families => exact ended.quiet books tokens requests log families
  | login row unused opens rows requests log hashes families =>
    exact ended.login opens rows requests log families
  | consume request token live tokens marked progress requests mints log hashes families =>
    exact ended.consume books live tokens requests mints log families
  | exchange request home role rotation token row minting unused same rows requests log hashes families =>
    simp only [Settled, minting, Undisturbed] at settled
    exact ended.exchange books minting settled.1 settled.2 same.1 rows requests log families
  | report request succeeds familyID reused tokens marked requests log hashes families =>
    apply ended.idle books tokens requests rfl log families
    · intro family same
      rw [← Event.reuse.inj same]
      exact ended.reused request familyID reused
    · intro r member unmarked
      refine ⟨fun same => ?_, by simp⟩
      exact marked settled r member (Event.reuse.inj same).symm unmarked
  | logout userID tokens marked requests log hashes families =>
    apply ended.idle books tokens requests rfl log families
    · intro family same
      cases same
    · intro r member unmarked
      refine ⟨by simp, fun same => ?_⟩
      exact marked r member (Event.logout.inj same).symm unmarked

end Step

/-- Whatever becomes of its sessions, a token is consumed once at most, and not valid after. -/
theorem books_run (cloudAuthEnabled : Bool) (tokens : TokenTable) (now : Timestamp)
    (actions : List Action) : Books (authMachine.run (.start cloudAuthEnabled tokens now) actions) :=
  authMachine.invariant_run Books (fun s a books => books.step (authStep_moves s a))
    (books_start cloudAuthEnabled tokens now) actions

/-- A reuse ends its family and a logout its user's sessions, in every run in which what is still
in flight then stores nothing afterwards. -/
theorem families_hold (cloudAuthEnabled : Bool) (tokens : TokenTable) (now : Timestamp)
    (actions : List Action)
    (settled : authMachine.Guarded Settled (.start cloudAuthEnabled tokens now) actions) :
    FamiliesHold (authMachine.run (.start cloudAuthEnabled tokens now) actions) := by
  obtain ⟨books, ended⟩ := authMachine.invariant_guarded (fun s => Books s ∧ Ended s)
    (fun s a inv guard => ⟨inv.1.step (authStep_moves s a), inv.2.step inv.1 (authStep_moves s a) guard⟩)
    ⟨books_start cloudAuthEnabled tokens now, ended_start cloudAuthEnabled tokens now⟩ settled
  exact ⟨books.oneSuccessor, ended.reuseEnds, ended.logoutEnds⟩

def oneSession : TokenTable := ⟨[⟨7, "a", 70, none, refreshTokenTTL, none⟩], by simp⟩

def refreshedAndReused : List Action :=
  [.refresh 0 "a", .consume 0, .mint 0 1 none "b", .tick 6000000, .refresh 1 "a", .consume 1,
    .detectReuse 1, .revokeFamily 1 true, .refresh 2 "b", .consume 2]

theorem families_hold_reused :
    authMachine.Guarded Settled (.start false oneSession 0) refreshedAndReused ∧
      FamiliesHold (authMachine.run (.start false oneSession 0) refreshedAndReused) := by
  have settled : authMachine.Guarded Settled (.start false oneSession 0) refreshedAndReused := by
    decide +kernel
  exact ⟨settled, families_hold false oneSession 0 refreshedAndReused settled⟩

/-- The refresh is in flight while its token is handed in again: the successor is stored after the
family ended, and goes on to be exchanged itself. -/
theorem family_outlives_reuse :
    ¬FamiliesHold (authMachine.run (.start false oneSession 0)
      [.refresh 0 "a", .consume 0, .tick 6000000, .refresh 1 "a", .consume 1, .detectReuse 1,
        .revokeFamily 1 true, .mint 0 1 none "b", .refresh 2 "b", .consume 2, .mint 2 1 none "c"]) := by
  intro holds
  have ends := holds.reuseEnds
  have log : (authMachine.run (.start false oneSession 0)
      [.refresh 0 "a", .consume 0, .tick 6000000, .refresh 1 "a", .consume 1, .detectReuse 1,
        .revokeFamily 1 true, .mint 0 1 none "b", .refresh 2 "b", .consume 2, .mint 2 1 none "c"]).log =
      [.exchanged ⟨7, "b", 70, some 1, 6000000 + refreshTokenTTL, none⟩ "c",
        .consumed ⟨7, "b", 70, some 1, 6000000 + refreshTokenTTL, none⟩,
        .exchanged ⟨7, "a", 70, none, refreshTokenTTL, none⟩ "b", .reuse 70,
        .consumed ⟨7, "a", 70, none, refreshTokenTTL, none⟩] := by
    decide +kernel
  rw [log, ReuseEnds, List.pairwise_cons] at ends
  exact ends.1 (.reuse 70) (by simp) 70 _ rfl rfl rfl

end Opslane.Auth
