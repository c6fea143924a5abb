import HearingSync.Time.Timestamp
import HearingSync.Time.Render
import HearingSync.Json.Decode
/-!
Dates and times in JSON documents.
-/

namespace HearingSync

def decodeStored {α : Type} (read? : String → Option α) : Decoder α
  | .string s => (read? s).elim (.error .malformed) .ok
  | _ => .error .malformed

def Instant.decode : Decoder Instant := decodeStored Timestamp.readStoredInstant?

def Instant.encode (t : Instant) : Json := .string t.text

def WallClock.decode : Decoder WallClock := decodeStored Timestamp.readStoredWallClock?

def WallClock.encode (w : WallClock) : Json := .string w.text

def Date.decode : Decoder Date := decodeStored Timestamp.readStoredDate?

def Date.encode (d : Date) : Json := .string (String.ofList d.text)

end HearingSync
