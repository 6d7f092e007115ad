import Opslane.Lib.NetUrl
import Opslane.Masking.Patterns

/-!
# Request URLs

A single request URL is stored without userinfo, without its query and without a fragment
that carries a token. One that does not parse keeps what stands before its query and its
fragment, scrubbed by the broad patterns.
-/

namespace Opslane.Masking

open Scan

def redactUnparsed (raw : Bytes) : Bytes :=
  redactURL (raw.takeWhile fun b => b != byte '?' && b != byte '#')

def stripUrl (u : NetUrl.Url) : NetUrl.Url :=
  let u := { u with user := none, rawQuery := [], forceQuery := false }
  if u.fragment ≠ [] ∧ containsMatch tokenFragment u.fragment then
    -- The encoded fragment stays behind; it is not printed without a decoded one.
    { u with fragment := [] }
  else u

/-- `RedactRequestURL` -/
def redactRequestURL (raw : Bytes) : Bytes :=
  match NetUrl.parse raw with
  | none => redactUnparsed raw
  | some u => (stripUrl u).text

end Opslane.Masking
