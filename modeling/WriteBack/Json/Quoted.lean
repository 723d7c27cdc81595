/-
# Quoted text — strings as they are written in JSON

Between the quotes stand plain characters and escapes.  Control characters
must be escaped.  An escape by number names a unit of sixteen bits, and two
of them may be needed for one character.  Units that do not pair up spell no
text; a reader who does not care for the text can still pass over them.
-/
namespace WriteBack.Json.Quoted

/-- What stands between quotes: a character, or a unit named by number. -/
inductive Piece where
  | char (c : Char)
  | unit (code : Nat)
deriving DecidableEq, Repr

def hexDigit? (c : Char) : Option Nat :=
  if '0' ≤ c && c ≤ '9' then some (c.toNat - '0'.toNat)
  else if 'a' ≤ c && c ≤ 'f' then some (c.toNat - 'a'.toNat + 10)
  else if 'A' ≤ c && c ≤ 'F' then some (c.toNat - 'A'.toNat + 10)
  else none

/-- The unit that four hexadecimal digits name. -/
def unit? (a b c d : Char) : Option Nat := do
  return (((← hexDigit? a) * 16 + (← hexDigit? b)) * 16 + (← hexDigit? c)) * 16 + (← hexDigit? d)

/-- The character that a single letter stands for behind a backslash. -/
def escaped? : Char → Option Char
  | '"' => some '"'
  | '\\' => some '\\'
  | '/' => some '/'
  | 'b' => some '\x08'
  | 'f' => some '\x0c'
  | 'n' => some '\n'
  | 'r' => some '\r'
  | 't' => some '\t'
  | _ => none

/-- The pieces up to the closing quote, and what follows it. -/
def pieces : List Char → Option (List Piece × List Char)
  | [] => none
  | '"' :: rest => some ([], rest)
  | '\\' :: 'u' :: a :: b :: c :: d :: rest =>
    match unit? a b c d, pieces rest with
    | some code, some (more, rest) => some (.unit code :: more, rest)
    | _, _ => none
  | '\\' :: c :: rest =>
    match escaped? c, pieces rest with
    | some char, some (more, rest) => some (.char char :: more, rest)
    | _, _ => none
  | c :: rest =>
    match pieces rest with
    | some (more, rest) => if c.toNat < 32 then none else some (.char c :: more, rest)
    | none => none

/-- Whether a unit is the first of a pair. -/
def isHigh (code : Nat) : Bool := 0xD800 ≤ code && code < 0xDC00

/-- Whether a unit is the second of a pair. -/
def isLow (code : Nat) : Bool := 0xDC00 ≤ code && code < 0xE000

/-- The character that a pair of units spells. -/
def pair (high low : Nat) : Char :=
  Char.ofNat (0x10000 + (high - 0xD800) * 0x400 + (low - 0xDC00))

/-- The characters that pieces spell, if every unit finds its partner. -/
def spell? : List Piece → Option (List Char)
  | [] => some []
  | .char c :: rest => (spell? rest).map (c :: ·)
  | .unit high :: .unit low :: rest =>
    if isHigh high then
      if isLow low then (spell? rest).map (pair high low :: ·) else none
    else if isLow high then none
    else (spell? (.unit low :: rest)).map (Char.ofNat high :: ·)
  | .unit code :: rest =>
    if isHigh code || isLow code then none
    else (spell? rest).map (Char.ofNat code :: ·)

/-- Reads on from an opening quote: the text, `none` if the units spell
none, and what follows the closing quote. -/
def read (text : List Char) : Option (Option String × List Char) :=
  (pieces text).map fun (found, rest) => ((spell? found).map String.ofList, rest)

theorem length_of_pieces {text rest : List Char} {found : List Piece}
    (h : pieces text = some (found, rest)) : rest.length < text.length := by
  fun_induction pieces text generalizing found rest with
  | case1 => cases h
  | case2 => cases h; simp
  | case3 a b c d tail code more left hleft hcode ih =>
    cases h
    have := ih hleft
    simp only [List.length_cons]
    omega
  | case4 => cases h
  | case5 c tail hu char more left hleft hchar ih =>
    cases h
    have := ih hleft
    simp only [List.length_cons]
    omega
  | case6 => cases h
  | case7 => cases h
  | case8 c tail hq hu he more left hleft hc ih =>
    cases h
    have := ih hleft
    simp only [List.length_cons]
    omega
  | case9 => cases h

end WriteBack.Json.Quoted
