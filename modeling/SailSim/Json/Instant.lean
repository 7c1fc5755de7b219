import SailSim.Json.Decode
import SailSim.Time.Rfc3339

/-!
# Times in JSON documents

A time in a JSON document is a string in the strict RFC 3339 form; `null` leaves the field
as it was. Any other value, and a string that is not such a time, stops decoding with the
reader's message.
-/

namespace SailSim.Json.Decoder

/-- An instant written as an RFC 3339 string. -/
def instant : Decoder Instant := fun cur _ j =>
  match j with
  | .null => .ok (cur, none)
  | .string s =>
    match Time.readRfc3339Strict s with
    | .ok t => .ok (t, none)
    | .error e => .error (.other e.message)
  | _ => .error (.other "Time.UnmarshalJSON: input is not a JSON string")

end SailSim.Json.Decoder
