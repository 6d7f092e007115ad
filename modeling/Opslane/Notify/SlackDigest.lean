import Mathlib.Algebra.Group.Int.Defs
import Mathlib.Algebra.GroupWithZero.Nat
import Mathlib.Data.List.Basic
import Mathlib.Data.Rat.Defs

/-!
# The digest in Slack

The daily digest is rendered as a list of Slack blocks. Schema 4 has two modes: with unified cards,
cards and receipts share one cap; without, the cap covers cards only and every receipt renders.
Schema 5 renders one list, and packs the merged pull requests into the blocks that are left.

How texts, URLs and dates are cleaned and formatted is left open: `Prose` is any choice of these
functions.
-/

namespace Opslane.Notify.SlackDigest

structure GeneratedDigestCard where
  ticketID : String := ""
  verifiedUsers : Int := 0
  verifiedSessions : Int := 0
  coverage : ℚ := 0
  actionURL : String := ""
  incidentID : String
  kind : String := ""
  title : String
  outcome : String := ""
  copy : String
  why : String := ""
  action : String
  affectedUsers : Int := 0
  impactVisits : Option Int := none
  impactRecovered : Option Int := none
  occurrenceCount : Int := 0
  accounts : List String := []
  prURL : String := ""
  replayURL : String := ""
  prNumber : Int := 0
  actionableSince : Option Int := none
  route : String := ""
  observationQuote : String := ""

structure ReceiptItem where
  affectedUsers : Int := 0
  copy : String := ""
  ticketID : String := ""
  verifiedUsers : Int := 0
  verifiedSessions : Int := 0
  coverage : ℚ := 0
  accounts : List String := []
  action : String := ""
  actionURL : String := ""
  kind : String
  incidentID : String
  title : String
  occurrenceCount : Int := 0
  impactClass : String := ""
  impactVisits : Option Int := none
  impactRecovered : Option Int := none
  receiptState : String
  prURL : String := ""
  sessionURL : String := ""
  rootCauseExcerpt : String := ""
  hasValidatedDiagnosis : Bool := false
  actionableSince : Option Int := none
  fallbackReason : String := ""

structure DigestPRMerged where
  title : String
  prURL : String

structure DigestPayload where
  date : String
  windowTo : String := ""
  timezone : String := ""
  schemaVersion : Int
  receiptItems : List ReceiptItem := []
  receiptOverflow : Int := 0
  generatedCards : List GeneratedDigestCard := []
  overflowCount : Int := 0
  deliveryAlert : String := ""
  unifiedCards : Bool := false
  mergedThisWeek : List DigestPRMerged := []
  /-- A slice has an `int` of elements. -/
  mergedFits : mergedThisWeek.length < 2 ^ 63 := by decide

structure EventPayload where
  projectID : String
  projectName : String
  dashboardURL : String := ""
  previewNote : String := ""
  digest : Option DigestPayload

/-- The functions on texts, URLs and dates that the renderer calls. -/
structure Prose where
  /-- `narrative.Clean` -/
  clean : String → String
  /-- `strings.TrimSpace(masking.RedactURL(masking.RedactBody(raw)))` -/
  redactURL : String → String
  buildIncidentURL : (dashboardURL errorGroupID projectID : String) → String
  /-- A calendar date as in `Jan 2`, where the text is one. -/
  calendarDate : String → Option String
  /-- The nanoseconds of a time in RFC 3339. -/
  parseTime : String → Option Int
  /-- The day of a time in a time zone, or in UTC where the zone is not known. -/
  dayIn : String → Int → String

structure Button where
  actionID : String
  text : String
  url : String
  style : String
  deriving DecidableEq

inductive Block where
  | header (text : String)
  | section (text : String)
  | context (text : String)
  | divider
  | actions (elements : List Button)
  deriving DecidableEq

def headerMax : Nat := 150

def sectionMax : Nat := 2900

def buttonMax : Nat := 75

def digestTitleMax : Nat := 200

def digestDetailMax : Nat := 300

def digestPageMax : Nat := 120

/-- Lengths are in runes. -/
def truncate (value : String) (max : Nat) : String :=
  if value.length ≤ max then value else String.ofList (value.toList.take (max - 1)) ++ "…"

def slackEscape (value : String) : String :=
  String.ofList (value.toList.flatMap fun c =>
    if c = '&' then "&amp;".toList else if c = '<' then "&lt;".toList
    else if c = '>' then "&gt;".toList else [c])

def digestSectionBlock (text : String) : Block := .section (truncate text sectionMax)

def digestContextBlock (text : String) : Block := .context (truncate text sectionMax)

/-- A divider between two items. -/
def withDividers (items : List (List Block)) : List Block := List.intercalate [.divider] items

section Render

variable (prose : Prose)

def cleanProse (value : String) (budget : Nat) : String :=
  truncate (slackEscape (prose.clean value)) budget

def slackDigestLink (rawURL label : String) : String :=
  let url := slackEscape (prose.redactURL rawURL)
  if url = "" then label else "<" ++ url ++ "|" ++ label ++ ">"

def digestButton (actionID text buttonURL style : String) : Button :=
  ⟨actionID, truncate text buttonMax, prose.redactURL buttonURL, style⟩

def digestHeader (payload : EventPayload) : Block :=
  .header (truncate ("Daily digest · " ++ cleanProse prose payload.projectName headerMax) headerMax)

def incidentURL (payload : EventPayload) (incidentID : String) : String :=
  prose.buildIncidentURL payload.dashboardURL incidentID payload.projectID

def nanosPerDay : Int := 24 * 60 * 60 * 1000000000

def digestWaitingAgeLine (digest : DigestPayload) (actionableSince : Option Int) : String :=
  match actionableSince, prose.parseTime digest.windowTo with
  | some since, some clock =>
    if clock < since then ""
    else
      let days := (clock - since) / nanosPerDay
      let label := if days = 0 then "today" else if days = 1 then "1 day" else toString days ++ " days"
      "waiting on you since " ++ prose.dayIn digest.timezone since ++ " (" ++ label ++ ")"
  | _, _ => ""

def digestImpactLine (card : GeneratedDigestCard) : String :=
  match card.impactVisits with
  | none => ""
  | some visits =>
    if card.kind ≠ "friction" ∨ visits ≤ 0 then ""
    else
      let noun := if visits = 1 then "visit" else "visits"
      let line := toString visits ++ " " ++ noun ++ " this week"
      match card.impactRecovered with
      | some recovered =>
        if 0 < recovered then line ++ ", " ++ toString recovered ++ " recovered" else line
      | none => line

def digestV4CardText (card : GeneratedDigestCard) (leadIn : String) : String :=
  let text := "*" ++ cleanProse prose card.title 80 ++ "*\n" ++ cleanProse prose card.copy digestDetailMax
  let why := cleanProse prose card.why digestDetailMax
  let text := if why ≠ "" then text ++ "\nWhy: " ++ why else text
  let line := digestImpactLine card
  let text := if line ≠ "" then text ++ "\n" ++ line else text
  text ++ "\n*" ++ leadIn ++ ":* " ++ cleanProse prose card.action digestDetailMax

/-- The first parts of the context line: the route of an observation, or the people. -/
def digestV4CardScale (card : GeneratedDigestCard) : List String :=
  if card.observationQuote ≠ "" then
    if card.route ≠ "" then [cleanProse prose card.route digestPageMax] else []
  else if 0 < card.affectedUsers then
    let noun := if card.affectedUsers = 1 then "user" else "users"
    ["👥 " ++ toString card.affectedUsers ++ " " ++ noun]
  else []

def digestV4CardContext (digest : DigestPayload) (card : GeneratedDigestCard) : String :=
  let parts := digestV4CardScale prose card
  let parts := if card.accounts = [] then parts
    else
      let accounts := cleanProse prose (", ".intercalate card.accounts) digestDetailMax
      parts ++ [if parts = [] then "👥 " ++ accounts else accounts]
  let age := digestWaitingAgeLine prose digest card.actionableSince
  " · ".intercalate (if age ≠ "" then parts ++ [age] else parts)

def digestV4CardButtons (payload : EventPayload) (card : GeneratedDigestCard) (position : Nat) :
    List Button :=
  let at_ := toString position
  let issueURL := incidentURL prose payload card.incidentID
  (if card.outcome = "needs_human" ∧ card.replayURL ≠ "" then
    [digestButton prose ("digest_replay_" ++ at_) "Watch replay" card.replayURL "primary"] else [])
  ++ (if card.outcome = "verified_fix" ∧ card.prURL ≠ "" then
    let label := if 0 < card.prNumber then "Review PR #" ++ toString card.prNumber else "Review fix PR"
    [digestButton prose ("digest_pr_" ++ at_) label card.prURL "primary"] else [])
  ++ (if issueURL ≠ "" then
    let label := if card.kind = "friction" then "Issue page" else "View issue"
    [digestButton prose ("digest_issue_" ++ at_) label issueURL ""] else [])

def digestV4CardBlocks (payload : EventPayload) (digest : DigestPayload) (card : GeneratedDigestCard)
    (position : Nat) (leadIn : String) : List Block :=
  let context := digestV4CardContext prose digest card
  let buttons := digestV4CardButtons prose payload card position
  [digestSectionBlock (digestV4CardText prose card leadIn)]
  ++ (if context ≠ "" then [digestContextBlock context] else [])
  ++ (if buttons ≠ [] then [.actions buttons] else [])

/-- The cards of a part, numbered from `first`. -/
def digestV4Cards (payload : EventPayload) (digest : DigestPayload) (leadIn : String) (first : Nat)
    (cards : List GeneratedDigestCard) : List (List Block) :=
  (cards.zipIdx first).map fun (card, position) =>
    digestV4CardBlocks prose payload digest card position leadIn

structure RenderableReceipt where
  item : ReceiptItem
  line : String

def receiptLine (state : String) (hasValidatedDiagnosis : Bool) : Option String :=
  if state = "pr_open" then some "Fix PR ready for review."
  else if state = "pr_draft" then some "A draft fix PR needs your review."
  else if state = "awaiting_approval" then some "A fix is written and needs your approval."
  else if state = "attempt_failed_with_diff" then
    some "Fix attempt failed its checks; saved diff and report on the issue page."
  else if state = "attempt_failed_no_diff" then
    some "We tried a fix and couldn't produce a working change; details on the issue page."
  else if state = "report_ready" then
    some (if hasValidatedDiagnosis then "Cause found; no fix opened yet. Details in the issue."
      else "We could not establish a cause. Details in the issue.")
  else none

def renderableDigestReceipts (digest : DigestPayload) : List RenderableReceipt :=
  digest.receiptItems.filterMap fun item =>
    if item.kind ≠ "error" ∧ item.kind ≠ "friction" then none
    else (receiptLine item.receiptState item.hasValidatedDiagnosis).map fun line => ⟨item, line⟩

def plural (n : Int) (singular plural : String) : String := if n = 1 then singular else plural

/-- The visits and recovered visits of an impact that is complete and sound for its class. -/
def validImpact (item : ReceiptItem) : Option (Int × Int) :=
  match item.impactVisits, item.impactRecovered with
  | some visits, some recovered =>
    if visits < 0 ∨ recovered < 0 ∨ visits < recovered then none
    else if (item.impactClass = "blocked" ∧ recovered = 0)
        ∨ (item.impactClass = "degraded" ∧ 0 < recovered ∧ recovered < visits)
        ∨ (item.impactClass = "invisible" ∧ 0 < visits ∧ recovered = visits) then
      some (visits, recovered)
    else none
  | _, _ => none

def story (item : ReceiptItem) : String :=
  let noun := if item.kind = "friction" then plural item.occurrenceCount "friction signal" "friction signals"
    else plural item.occurrenceCount "crash" "crashes"
  let start := toString item.occurrenceCount ++ " " ++ noun
  match validImpact item with
  | none => start ++ "; recording impact unavailable"
  | some (visits, recovered) =>
    let line := start ++ " across " ++ toString visits ++ " " ++ plural visits "visit" "visits" ++ ", "
    if recovered = 0 then line ++ "no visit recovered"
    else if recovered = visits then
      line ++ "all " ++ toString visits ++ " " ++ plural visits "visit" "visits" ++ " recovered"
    else line ++ toString recovered ++ " of " ++ toString visits ++ " visits recovered"

def digestReceiptCardBlocks (payload : EventPayload) (digest : DigestPayload)
    (receipt : RenderableReceipt) : List Block :=
  let item := receipt.item
  let text := "*" ++ cleanProse prose item.title digestTitleMax ++ "*\n" ++ story item ++ "\n"
    ++ receipt.line
  let text := if item.rootCauseExcerpt ≠ "" then
    text ++ "\nInvestigation: " ++ cleanProse prose item.rootCauseExcerpt digestDetailMax else text
  let age := digestWaitingAgeLine prose digest item.actionableSince
  let links := (if age ≠ "" then [age] else [])
    ++ (if (item.receiptState = "pr_open" ∨ item.receiptState = "pr_draft") ∧ item.prURL ≠ "" then
      [slackDigestLink prose item.prURL
        (if item.receiptState = "pr_draft" then "Review draft PR" else "Review fix PR")] else [])
    ++ (if item.sessionURL ≠ "" then [slackDigestLink prose item.sessionURL "Watch recording"] else [])
    ++ [slackDigestLink prose (incidentURL prose payload item.incidentID) "Issue page"]
  [digestSectionBlock text, digestContextBlock (" · ".intercalate links)]

def digestCompactReceiptLine (payload : EventPayload) (digest : DigestPayload) (item : ReceiptItem) :
    String :=
  let age := digestWaitingAgeLine prose digest item.actionableSince
  " · ".intercalate ([cleanProse prose item.title digestTitleMax]
    ++ (if age ≠ "" then [age] else [])
    ++ [slackDigestLink prose (incidentURL prose payload item.incidentID) "Issue page"])

def digestV4CardCap : Nat := 9

def neverEligible : String := "never_card_eligible"

structure V4Selection where
  decisions : List GeneratedDigestCard
  receipts : List RenderableReceipt
  fixes : List GeneratedDigestCard
  overflow : Int

def decisionCards (digest : DigestPayload) : List GeneratedDigestCard :=
  digest.generatedCards.filter (·.outcome = "needs_human")

def fixCards (digest : DigestPayload) : List GeneratedDigestCard :=
  digest.generatedCards.filter (·.outcome = "verified_fix")

/-- ON: one budget. -/
def selectUnified (digest : DigestPayload) : V4Selection :=
  let decisions := decisionCards digest
  let fixes := fixCards digest
  let receipts := renderableDigestReceipts digest
  let decisionCount := min decisions.length digestV4CardCap
  let receiptCount := min receipts.length (digestV4CardCap - decisionCount)
  let fixCount := min fixes.length (digestV4CardCap - decisionCount - receiptCount)
  let totalCount : Int := decisions.length + receipts.length + fixes.length
  { decisions := decisions.take decisionCount
    receipts := receipts.take receiptCount
    fixes := fixes.take fixCount
    overflow := max (digest.overflowCount + digest.receiptOverflow)
      (totalCount - (decisionCount + receiptCount + fixCount)) }

/-- OFF: the cap covers generated cards only. -/
def selectSeparate (digest : DigestPayload) : V4Selection :=
  let allCards := decisionCards digest ++ fixCards digest
  let rendered := allCards.take digestV4CardCap
  { decisions := rendered.filter (·.outcome = "needs_human")
    receipts := renderableDigestReceipts digest
    fixes := rendered.filter (·.outcome ≠ "needs_human")
    overflow := max digest.overflowCount (allCards.length - rendered.length) }

def digestV4Summary (rawDate : String) (decisions fixes : Nat) : String :=
  let date := (prose.calendarDate rawDate).getD rawDate
  let total := decisions + fixes
  if total = 0 then date
  else
    let nouns := if total = 1 then " issue that matters" else " issues that matter"
    " · ".intercalate ([date, toString total ++ nouns]
      ++ (if 0 < decisions then
        [toString decisions ++ (if decisions = 1 then " needs" else " need") ++ " a decision"] else [])
      ++ (if 0 < fixes then
        [toString fixes ++ (if fixes = 1 then " fix" else " fixes") ++ " ready to merge"] else []))

def isObservation (card : GeneratedDigestCard) : Bool := card.observationQuote ≠ ""

def isCompact (receipt : RenderableReceipt) : Bool := receipt.item.fallbackReason = neverEligible

def decisionBlocks (payload : EventPayload) (digest : DigestPayload)
    (regular : List GeneratedDigestCard) (receipts : List RenderableReceipt) : List Block :=
  if regular = [] ∧ receipts = [] then []
  else
    let compact := receipts.filter isCompact
    [digestSectionBlock "⚠️ *Needs a decision*"]
    ++ withDividers (digestV4Cards prose payload digest "Needs you" 0 regular
      ++ (receipts.filter fun r => !isCompact r).map (digestReceiptCardBlocks prose payload digest))
    ++ (if compact = [] then []
      else [.divider, digestContextBlock "*Also waiting*"] ++ compact.map fun receipt =>
        digestContextBlock (digestCompactReceiptLine prose payload digest receipt.item))

/-- A titled part of cards, or nothing. -/
def cardPart (payload : EventPayload) (digest : DigestPayload) (title leadIn : String) (first : Nat)
    (cards : List GeneratedDigestCard) : List Block :=
  if cards = [] then []
  else [digestSectionBlock title] ++ withDividers (digestV4Cards prose payload digest leadIn first cards)

def overflowLine (overflow : Int) : String :=
  toString overflow ++ " more " ++ plural overflow "receipt" "receipts"
    ++ " ranked below these — open the dashboard for the full list."

def formatSlackDigestV4 (payload : EventPayload) (digest : DigestPayload) : List Block :=
  let selection := if digest.unifiedCards then selectUnified digest else selectSeparate digest
  let decisions := (decisionCards digest).length
  let receipts := (renderableDigestReceipts digest).length
  let fixes := (fixCards digest).length
  let regular := selection.decisions.filter fun card => !isObservation card
  let intelligence := selection.decisions.filter isObservation
  [digestHeader prose payload, .context (digestV4Summary prose digest.date (decisions + receipts) fixes)]
  ++ (if decisions + receipts + fixes = 0 then
    [digestSectionBlock "Nothing needs your attention today."] else [])
  ++ decisionBlocks prose payload digest regular selection.receipts
  ++ cardPart prose payload digest "🧭 *Session intelligence*" "Needs you" regular.length intelligence
  ++ (if !digest.unifiedCards ∧ 0 < digest.receiptOverflow then
    [digestContextBlock (overflowLine digest.receiptOverflow)] else [])
  ++ (if digest.deliveryAlert ≠ "" then
    [digestContextBlock ("⚠️ " ++ cleanProse prose digest.deliveryAlert digestDetailMax)] else [])
  ++ cardPart prose payload digest "✅ *Fixes ready to merge*" "Ready"
    (regular.length + intelligence.length) selection.fixes
  ++ (if 0 < selection.overflow then
    [digestContextBlock (slackDigestLink prose payload.dashboardURL
      ("And " ++ toString selection.overflow ++ " more on the dashboard"))] else [])

def receiptCard (r : ReceiptItem) : GeneratedDigestCard :=
  let cardCopy := if r.ticketID ≠ "" then r.copy else r.rootCauseExcerpt
  { incidentID := r.incidentID, kind := r.kind, title := r.title
    copy := if cardCopy = "" then r.title else cardCopy
    why := if r.ticketID ≠ "" then r.rootCauseExcerpt else ""
    ticketID := r.ticketID, verifiedUsers := r.verifiedUsers
    verifiedSessions := r.verifiedSessions, coverage := r.coverage
    affectedUsers := r.affectedUsers, occurrenceCount := r.occurrenceCount, accounts := r.accounts
    action := if r.action ≠ "" then r.action else if r.prURL ≠ "" then "Review PR" else "Review issue"
    actionURL := r.actionURL, prURL := r.prURL, replayURL := r.sessionURL }

def digestV5CardText (c : GeneratedDigestCard) : String :=
  let text := "*" ++ cleanProse prose c.title 80 ++ "*\n" ++ cleanProse prose c.copy 300
  let text := if c.why ≠ "" ∧ (c.ticketID = "" ∨ 1 / 2 ≤ c.coverage) then
    text ++ "\nWhy: " ++ cleanProse prose c.why 300 else text
  let counts := if c.ticketID ≠ "" then
      toString c.verifiedUsers ++ " users · " ++ toString c.verifiedSessions ++ " sessions this week"
    else if c.kind ≠ "error" then
      toString c.affectedUsers ++ " users · " ++ toString c.occurrenceCount ++ " signals"
    else toString c.affectedUsers ++ " users · " ++ toString c.occurrenceCount ++ " error occurrences"
  let counts := if c.accounts = [] then counts
    else counts ++ " · " ++ cleanProse prose (", ".intercalate c.accounts) 300
  text ++ "\n" ++ counts

/-- The action of a card and where it leads. -/
def digestV5Action (issue : String) (c : GeneratedDigestCard) : String × String :=
  let target := if c.actionURL = "" then issue else c.actionURL
  if c.ticketID ≠ "" then
    (c.action, if c.action = "Review PR" ∧ c.prURL ≠ "" then c.prURL else target)
  else if c.prURL ≠ "" then ("Review PR", c.prURL)
  else (if c.action = "" then "Review issue" else c.action, target)

def digestV5CardBlocks (payload : EventPayload) (c : GeneratedDigestCard) (i : Nat) : List Block :=
  let issue := incidentURL prose payload c.incidentID
  let (action, target) := digestV5Action issue c
  -- a fix that is running is told, not clicked
  let running := c.ticketID ≠ "" ∧ action = "Fix in progress"
  let links := (if c.replayURL ≠ "" then [slackDigestLink prose c.replayURL "Replay"] else [])
    ++ (if issue ≠ "" then [slackDigestLink prose issue "Issue"] else [])
    ++ (if running then [cleanProse prose action 80] else [])
  let target := if running then "" else target
  [digestSectionBlock (digestV5CardText prose c)]
  ++ (if links = [] then [] else [digestContextBlock (" · ".intercalate links)])
  ++ (if target ≠ "" then
    [.actions [digestButton prose ("digest_action_" ++ toString i) action target "primary"]] else [])

def footerMax : Nat := 2800

def mergedLine (item : DigestPRMerged) : String :=
  "• " ++ slackDigestLink prose item.prURL (cleanProse prose item.title 120)

def mergedRest (count : Nat) : String :=
  "And " ++ toString count ++ " more merged PRs on the dashboard"

/-- The loop of the footer, at the first of `merged`. -/
def mergedFooterFrom (budget : Int) : List Block → String → List DigestPRMerged → List Block
  | blocks, current, [] => blocks ++ [digestSectionBlock current]
  | blocks, current, item :: rest =>
    let line := mergedLine prose item
    if footerMax < current.length + 1 + line.length then
      if budget ≤ blocks.length + 1 ∨ footerMax < line.length then
        blocks ++ [digestSectionBlock (current ++ "\n" ++ mergedRest (rest.length + 1))]
      else mergedFooterFrom budget (blocks ++ [digestSectionBlock current]) line rest
    else mergedFooterFrom budget blocks (current ++ "\n" ++ line) rest

def mergedTitle : String := "*Merged this week*"

def mergedFooterBlocks (merged : List DigestPRMerged) (budget : Int) : List Block :=
  if merged = [] ∨ budget ≤ 0 then [] else mergedFooterFrom prose budget [] mergedTitle merged

/-- The blocks above the footer. -/
def digestV5Top (payload : EventPayload) (digest : DigestPayload) : List Block :=
  let cards := digest.generatedCards ++ digest.receiptItems.map receiptCard
  [digestHeader prose payload, digestContextBlock (cleanProse prose digest.date digestTitleMax)]
  ++ (if cards = [] then [digestSectionBlock "No known problems need attention today."] else [])
  ++ withDividers ((cards.take digestV4CardCap).zipIdx.map fun (card, i) =>
    digestV5CardBlocks prose payload card i)

def slackBlockMax : Nat := 50

def mergedFooter (payload : EventPayload) (digest : DigestPayload) : List Block :=
  mergedFooterBlocks prose digest.mergedThisWeek
    (slackBlockMax - (digestV5Top prose payload digest).length
      - (if digest.deliveryAlert ≠ "" then 1 else 0) - (if payload.previewNote ≠ "" then 1 else 0))

def formatSlackDigestV5 (payload : EventPayload) (digest : DigestPayload) : List Block :=
  digestV5Top prose payload digest ++ mergedFooter prose payload digest
  ++ (if digest.deliveryAlert ≠ "" then
    [digestContextBlock (cleanProse prose digest.deliveryAlert 300)] else [])

/-- `formatSlackDigest`; `older` renders the schemas before 4. -/
def formatSlackDigest (older : EventPayload → DigestPayload → List Block) (payload : EventPayload) :
    Except String (List Block) :=
  match payload.digest with
  | none => .error "digest.daily payload missing digest body"
  | some digest =>
    let blocks := if 5 ≤ digest.schemaVersion then formatSlackDigestV5 prose payload digest
      else if 4 ≤ digest.schemaVersion then formatSlackDigestV4 prose payload digest
      else older payload digest
    if payload.previewNote = "" then .ok blocks
    else
      let note := cleanProse prose payload.previewNote digestDetailMax
      .ok (if note = "" then blocks else digestContextBlock note :: blocks)

end Render

end Opslane.Notify.SlackDigest
