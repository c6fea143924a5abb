import HearingSync.CaseJson
import HearingSync.Filing
/-!
The table of hearing venues. Closed venues and rows with no code are left out; of several rows with
one code the last counts.
-/

namespace HearingSync

structure VenueRecord where
  code : String
  venueId : String
  name : String
  region : Option String
  active : Bool
  deriving DecidableEq, Repr

namespace VenueRecord

def record : Record VenueRecord :=
  Record.const VenueRecord.mk |>.app (.required "epimsId" Json.decodeString)
    |>.app (.required "venueId" Json.decodeString)
    |>.app (.required "name" Json.decodeString)
    |>.app (.optional "region" Json.decodeString)
    |>.app (.defaulted "active" Json.decodeBool true)

def decode : Decoder VenueRecord := record.decode

def venue (r : VenueRecord) : Venue :=
  { venueId := r.venueId, name := r.name, region := r.region }

def entry? (r : VenueRecord) : Option (VenueCode × Venue) :=
  if r.active then (Identifier.ofText? r.code).map (·, r.venue) else none

end VenueRecord

inductive FileFault where
  | missing
  | forbidden
  | notDirectory
  | isDirectory
  | nameTooLong
  | zeroInName
  | other (text : String)
  deriving DecidableEq, Repr

def FileFault.message : FileFault → String
  | .missing => "No such file or directory (os error 2)"
  | .forbidden => "Permission denied (os error 13)"
  | .notDirectory => "Not a directory (os error 20)"
  | .isDirectory => "Is a directory (os error 21)"
  | .nameTooLong => "File name too long (os error 36)"
  | .zeroInName => "file name contained an unexpected NUL byte"
  | .other text => text

structure VenueTable where
  venues : Filing VenueCode Venue := []
  deriving DecidableEq

namespace VenueTable

def add (t : VenueTable) (r : VenueRecord) : VenueTable :=
  match r.entry? with
  | some (code, venue) => { venues := t.venues.put code venue }
  | none => t

def ofRecords (records : List VenueRecord) : VenueTable := records.foldl add {}

def find? (t : VenueTable) (code : VenueCode) : Option Venue := t.venues.get? code

def size (t : VenueTable) : Nat := t.venues.length

def isEmpty (t : VenueTable) : Bool := t.venues.isEmpty

inductive LoadError where
  | unreadable (cause : String)
  | malformed
  deriving DecidableEq, Repr

def load (content : Except FileFault ByteArray) : Except LoadError VenueTable :=
  match content with
  | .error fault => .error (.unreadable fault.message)
  | .ok bytes =>
    match String.fromUTF8? bytes with
    | none => .error (.unreadable "stream did not contain valid UTF-8")
    | some text =>
      match Json.decodeText (Json.decodeList VenueRecord.decode) text with
      | .ok records => .ok (ofRecords records)
      | .error _ => .error .malformed

/-- The error with the reason, which is said twice: in the message and as its cause. -/
def LoadError.message (path : String) : LoadError → String
  | .unreadable cause => "failed to read venue table " ++ path ++ ": " ++ cause ++ ": " ++ cause
  | .malformed => "failed to parse venue table " ++ path

end VenueTable

end HearingSync
