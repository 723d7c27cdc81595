/-
# Skimming — passing over a JSON value

A reader who does not know a key still has to find the end of its value.
Skimming a value needs no more than the brackets that are still open and
what may stand next: the words of the value are taken one at a time, and a
word that may not stand there is refused.
-/
import WriteBack.Json.Token

namespace WriteBack.Json

/-- A bracket that is still open. -/
inductive Frame where
  | list
  | object
deriving DecidableEq, Repr

/-- What may stand next in a value that is being skimmed: a value; a value
or the end of a list that has just been opened; a key or the end of an
object that has just been opened; a key; a colon; a comma or the end of what
is open. -/
inductive Awaiting where
  | value
  | element
  | member
  | key
  | colon
  | rest
deriving DecidableEq, Repr

/-- How far a value has been skimmed; the innermost open bracket comes
first. -/
structure Skim where
  frames : List Frame := []
  awaiting : Awaiting := .value
deriving DecidableEq, Repr

namespace Skim

def isDone (s : Skim) : Bool :=
  s.frames.isEmpty && s.awaiting == .rest

/-- Goes past the closing bracket of what is open innermost. -/
def close (s : Skim) (frame : Frame) : Option Skim :=
  match s.frames with
  | innermost :: frames => if innermost = frame then some ⟨frames, .rest⟩ else none
  | [] => none

/-- Goes past the first word of a value. -/
def begin (s : Skim) : Token → Option Skim
  | .null | .bool _ | .numeral _ | .quoted _ => some { s with awaiting := .rest }
  | .openBracket => some ⟨.list :: s.frames, .element⟩
  | .openBrace => some ⟨.object :: s.frames, .member⟩
  | _ => none

def passKey (s : Skim) : Token → Option Skim
  | .quoted _ => some { s with awaiting := .colon }
  | _ => none

/-- Goes past a comma, to what the innermost open bracket wants next. -/
def passComma (s : Skim) : Option Skim :=
  match s.frames with
  | .list :: _ => some { s with awaiting := .value }
  | .object :: _ => some { s with awaiting := .key }
  | [] => none

/-- Goes past one word, unless it may not stand there. -/
def step (s : Skim) (token : Token) : Option Skim :=
  match s.awaiting, token with
  | .value, token => s.begin token
  | .element, .closeBracket => s.close .list
  | .element, token => s.begin token
  | .member, .closeBrace => s.close .object
  | .member, token => s.passKey token
  | .key, token => s.passKey token
  | .colon, .colon => some { s with awaiting := .value }
  | .colon, _ => none
  | .rest, .comma => s.passComma
  | .rest, .closeBracket => s.close .list
  | .rest, .closeBrace => s.close .object
  | .rest, _ => none

end Skim

end WriteBack.Json
