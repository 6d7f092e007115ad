import Opslane.Intake.ImageAgreement
import Opslane.Intake.TimingAgreement

/-!
# The SDK and the intake

The two ends of the wire agree on timings and on images up to the texts in them: a URL the
intake's masking rewrites or refuses, a clock before its epoch, and files that are one
text once their unpaired surrogates are replaced.
-/

namespace Opslane.Intake

open CodeUnits Sdk.Network Sdk.DebugImages

/-- A platform on which no URL of the run parses without a base. -/
def relativeOnly : Platform Unit where
  parseUrl _ := none
  hash _ := []
  clearCredentials := id
  clearHash := id
  href _ := []
  toUpperCase := id
  hasEncoder := true

/-- One request that was answered after 12 ms, 80 ms before the snapshot. -/
def oneRequest (url : CodeUnits) : List Action :=
  [.startTiming .fetch (codeUnits "GET") url 1700000000000 100, .markHeaders 0 110,
    .finalizeTiming 0 (.answered 200) 112]

def oneImage : Registry :=
  [(codeUnits "https://a.io/x.js", some [codeUnits "00000000-0000-0000-0000-000000000001"])]

end Opslane.Intake
