import ItemStore.Entries
import ItemStore.Error
import ItemStore.Text.Quoted
import ItemStore.Time.Reader

/-! # Formats of stored times

The store keeps times as numbers or as texts. A hint says how an attribute is to be read: as seconds
or as milliseconds since the epoch, or as a text with a layout.
-/
namespace ItemStore

inductive TimeFormat
  | unixSeconds
  | unixMillis
  | layout (hint : String)
  deriving DecidableEq, Repr

namespace TimeFormat
open Time (Instant)

/-- The format of a hint; an empty hint is none. -/
def ofHint? (hint : String) : Option TimeFormat :=
  if hint = "" then none
  else if hint = "1" then some .unixSeconds
  else if hint = "2" then some .unixMillis
  else some (.layout hint)

def hint : TimeFormat → String
  | .unixSeconds => "1"
  | .unixMillis => "2"
  | .layout hint => hint

def isUnix : TimeFormat → Bool
  | .layout _ => false
  | _ => true

def layout? : TimeFormat → Option String
  | .layout hint => some hint
  | _ => none

theorem hint_of_ofHint? {text : String} {format : TimeFormat} (h : ofHint? text = some format) :
    format.hint = text := by
  unfold ofHint? at h
  grind [hint]

/-- The instant that a text denotes. Only a layout reads texts. -/
def readText (format : TimeFormat) (text : String) : Except Failure Instant :=
  match format with
  | .layout hint =>
    let read :=
      if hint = "RFC3339" ∨ hint = "RFC3339Nano" then Time.ofInternet? text
      else ((Time.Layout.ofChars? hint.toList).bind (·.readFields? text.toList)).bind Time.Fields.resolve
    match read with
    | some t => .ok t
    | none => .error (.decode ("parsing time " ++ Text.quoted text ++ " as " ++ Text.quoted hint ++
        ": value does not match layout"))
  | _ => .error (.decode ("cannot parse " ++ Text.quoted text ++ " with unix timestamp format"))

/-- What a number comes to where a layout is set. -/
def numberForLayout : Failure := .decode "invalid datetime format"

/-- The instant that a number denotes. A layout reads no numbers. -/
def readEpoch (format : TimeFormat) (value : Int) : Except Failure Instant :=
  let outOfRange := Failure.decode
    ("timestamp " ++ String.ofList (Number.intText value) ++ " is out of range")
  match format with
  | .unixSeconds => (Time.ofSeconds? value 0).elim (.error outOfRange) .ok
  | .unixMillis => (Time.ofMillis? value).elim (.error outOfRange) .ok
  | .layout _ => .error numberForLayout

/-- The formats by name after one more hint. An empty hint takes the name's format away. -/
def putHint (formats : Entries TimeFormat) (name hint : String) : Entries TimeFormat :=
  match ofHint? hint with
  | some format => formats.put name format
  | none => formats.remove name

end TimeFormat

end ItemStore
