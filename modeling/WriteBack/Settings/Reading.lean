/-
# Reading settings — from JSON, as far as it goes

Settings are written as an object with two known keys, or as a list of the
two values.  Whatever is missing takes its default, and keys that are not
known are passed over with their values.  The words of the text are taken
one at a time, and the first fault in reading order is the one reported:
either the text is malformed there, or it is JSON of the wrong shape.

A known key that comes twice is a fault as soon as it is read.  A value that
is no integer is a fault at its first word, so that what stands inside a
list or an object given in place of a number is not looked at.
-/
import WriteBack.Decimal.Layout
import WriteBack.Json.Skim
import WriteBack.Settings
import WriteBack.Text.Shown

namespace WriteBack.Settings

/-! ## Faults -/

/-- A field of settings. -/
inductive Field where
  | capacity
  | bound
deriving DecidableEq, Repr

def Field.key : Field → String
  | capacity => "write_capacity"
  | bound => "unpersisted_bytes_bound"

/-- The field that a key names, if it names one. -/
def Field.ofKey? (key : String) : Option Field :=
  [capacity, bound].find? fun field => field.key == key

/-- What was found in place of something else. -/
inductive Found where
  | null
  | boolean (value : Bool)
  | integer (value : Int)
  | floating (value : Float)
  | text (value : String)
  | sequence
  | map

def Found.message : Found → String
  | null => "null"
  | boolean value => "boolean `" ++ toString value ++ "`"
  | integer value => "integer `" ++ toString value ++ "`"
  | floating value => "floating point `" ++ Decimal.Layout.message.write value ++ "`"
  | text value => "string " ++ Text.shown value
  | sequence => "sequence"
  | map => "map"

/-- What was expected: a signed word, or settings as a whole. -/
inductive Expected where
  | word
  | settings
deriving DecidableEq, Repr

def Expected.message : Expected → String
  | word => "i64"
  | settings => "struct ChannelConfig"

/-- How well-formed JSON fails to be settings. -/
inductive Mismatch where
  | repeated (field : Field)
  | wrongType (found : Found) (expected : Expected)
  | tooLarge (value : Int)

def Mismatch.message : Mismatch → String
  | repeated field => "duplicate field `" ++ field.key ++ "`"
  | wrongType found expected =>
    "invalid type: " ++ found.message ++ ", expected " ++ expected.message
  | tooLarge value =>
    "invalid value: " ++ (Found.integer value).message ++ ", expected " ++ Expected.word.message

/-- Why a text could not be read as settings. -/
inductive ReadError where
  | malformed
  | mismatch (how : Mismatch)

/-! ## Drafts -/

/-- The fields read so far. -/
structure Draft where
  capacity : Option Int64 := none
  bound : Option Int64 := none
deriving DecidableEq, Repr

namespace Draft

def get (draft : Draft) : Field → Option Int64
  | .capacity => draft.capacity
  | .bound => draft.bound

def set (draft : Draft) (value : Int64) : Field → Draft
  | .capacity => { draft with capacity := some value }
  | .bound => { draft with bound := some value }

/-- The settings, with defaults for the fields that were not read. -/
def complete (draft : Draft) : Settings :=
  { capacity := draft.capacity.getD ({} : Settings).capacity
    bound := draft.bound.getD ({} : Settings).bound }

end Draft

/-! ## Values -/

/-- A signed word, from the number that a numeral stands for. -/
def wordOf : Json.Number → Except ReadError Int64
  | .floating value => .error (.mismatch (.wrongType (.floating value) .word))
  | .integer value =>
    if Nat.pow 2 63 ≤ value then .error (.mismatch (.tooLarge value)) else .ok (Int64.ofInt value)

/-- What a word that begins a value is found to be; none if it begins no
value, or is one that stands for nothing. -/
def found? : Json.Token → Option Found
  | .null => some .null
  | .bool value => some (.boolean value)
  | .numeral n => n.value?.map fun
    | .integer value => .integer value
    | .floating value => .floating value
  | .quoted value => value.map .text
  | .openBracket => some .sequence
  | .openBrace => some .map
  | _ => none

/-- The fault of a word that stands where something else is expected. -/
def fault (token : Json.Token) (expected : Expected) : ReadError :=
  match found? token with
  | some found => .mismatch (.wrongType found expected)
  | none => .malformed

/-- Reads the value of a field, which is a single word. -/
def readWord : Json.Token → Except ReadError Int64
  | .numeral n =>
    match n.value? with
    | some number => wordOf number
    | none => .error .malformed
  | token => .error (fault token .word)

/-! ## Going through the words -/

/-- What the text may go on with. -/
inductive Stage where
  | start
  | member
  | key
  | colon (field : Option Field)
  | value (field : Field)
  | skimming (skim : Json.Skim)
  | memberEnd
  | firstElement
  | element (field : Field)
  | elementEnd (next : Option Field)
  | finished
deriving DecidableEq, Repr

/-- How far a text has been read. -/
structure Progress where
  stage : Stage := .start
  draft : Draft := {}
deriving DecidableEq, Repr

namespace Progress

def goto (p : Progress) (stage : Stage) : Except ReadError Progress :=
  .ok { p with stage }

def takeKey (p : Progress) : Json.Token → Except ReadError Progress
  | .quoted (some key) =>
    match Field.ofKey? key with
    | none => p.goto (.colon none)
    | some field =>
      match p.draft.get field with
      | none => p.goto (.colon (some field))
      | some _ => .error (.mismatch (.repeated field))
  | _ => .error .malformed

def takeWord (p : Progress) (field : Field) (after : Stage) (token : Json.Token) :
    Except ReadError Progress :=
  match readWord token with
  | .ok word => .ok ⟨after, p.draft.set word field⟩
  | .error error => .error error

/-- Takes a word of a value that is passed over. -/
def takeSkimmed (p : Progress) (skim : Json.Skim) (token : Json.Token) :
    Except ReadError Progress :=
  match skim.step token with
  | none => .error .malformed
  | some skim => p.goto (if skim.isDone then .memberEnd else .skimming skim)

/-- The field whose value follows that of another in a list. -/
def next : Field → Option Field
  | .capacity => some .bound
  | .bound => none

def takeElement (p : Progress) (field : Field) (token : Json.Token) :
    Except ReadError Progress :=
  p.takeWord field (.elementEnd (next field)) token

/-- Takes one word. -/
def step (p : Progress) (token : Json.Token) : Except ReadError Progress :=
  match p.stage, token with
  | .start, .openBrace => p.goto .member
  | .start, .openBracket => p.goto .firstElement
  | .start, token => .error (fault token .settings)
  | .member, .closeBrace => p.goto .finished
  | .member, token => p.takeKey token
  | .key, token => p.takeKey token
  | .colon (some field), .colon => p.goto (.value field)
  | .colon none, .colon => p.goto (.skimming {})
  | .colon _, _ => .error .malformed
  | .value field, token => p.takeWord field .memberEnd token
  | .skimming skim, token => p.takeSkimmed skim token
  | .memberEnd, .comma => p.goto .key
  | .memberEnd, .closeBrace => p.goto .finished
  | .memberEnd, _ => .error .malformed
  | .firstElement, .closeBracket => p.goto .finished
  | .firstElement, token => p.takeElement .capacity token
  | .element field, token => p.takeElement field token
  | .elementEnd (some field), .comma => p.goto (.element field)
  | .elementEnd _, .closeBracket => p.goto .finished
  | .elementEnd _, _ => .error .malformed
  | .finished, _ => .error .malformed

/-- Takes words one after the other, up to the first fault. -/
def run (p : Progress) (tokens : List Json.Token) : Except ReadError Progress :=
  tokens.foldlM step p

end Progress

/-- Reads settings from JSON text. -/
def read (text : String) : Except ReadError Settings :=
  match Progress.run {} (Json.tokens text.toList) with
  | .error error => .error error
  | .ok ⟨.finished, draft⟩ => .ok draft.complete
  | .ok _ => .error .malformed

end WriteBack.Settings
