import LogPipeline.Time.Rfc3339

/-!
# Instants in logs

Logs name instants in RFC 3339, in seconds of the epoch, or, from eleven digits up, in
milliseconds.
-/

namespace LogPipeline

def readInt64? (text : String) : Option Int := do
  let n ← Number.readInteger? text
  guard (-9223372036854775808 ≤ n ∧ n < 9223372036854775808)
  return n

def lastSecondCount : Int := 9999999999

def readInstant? (text : String) : Option Timestamp :=
  match Rfc3339.read? text with
  | some t => some t
  | none => do
    let n ← readInt64? text
    Timestamp.checked (if lastSecondCount < n then .ofMillis n else .ofSeconds n)

def instantText (t : Timestamp) : String :=
  Rfc3339.write "+00:00" t

end LogPipeline
