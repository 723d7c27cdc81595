/-
# Tokens — the words of a JSON text

Between blanks, a JSON text is a sequence of words: brackets, separators,
the three names, numerals and quoted text.  Where none of these can be read
the sequence ends with a `stray`, so that whoever goes through the words
comes upon the first fault of the text where it stands, and not before.
-/
import WriteBack.Json.Numeral
import WriteBack.Json.Quoted

namespace WriteBack.Json

/-- A word of a JSON text.  Quoted text is `none` if its escapes spell no
text; `stray` stands for the rest of a text that goes on with no word. -/
inductive Token where
  | openBrace
  | closeBrace
  | openBracket
  | closeBracket
  | colon
  | comma
  | null
  | bool (value : Bool)
  | numeral (numeral : Numeral)
  | quoted (value : Option String)
  | stray
deriving DecidableEq, Repr

/-- Whether a character may stand between words. -/
def isBlank (c : Char) : Bool :=
  c == ' ' || c == '\n' || c == '\t' || c == '\r'

namespace Token

def readNumeral (text : List Char) : Token × List Char :=
  match Numeral.read text with
  | some (n, rest) => (.numeral n, rest)
  | none => (.stray, [])

/-- The word at the front of a text that is not blank there, and what
follows it. -/
def read : List Char → Token × List Char
  | '\x7b' :: rest => (.openBrace, rest)
  | '\x7d' :: rest => (.closeBrace, rest)
  | '[' :: rest => (.openBracket, rest)
  | ']' :: rest => (.closeBracket, rest)
  | ':' :: rest => (.colon, rest)
  | ',' :: rest => (.comma, rest)
  | 'n' :: 'u' :: 'l' :: 'l' :: rest => (.null, rest)
  | 't' :: 'r' :: 'u' :: 'e' :: rest => (.bool true, rest)
  | 'f' :: 'a' :: 'l' :: 's' :: 'e' :: rest => (.bool false, rest)
  | '"' :: rest =>
    match Quoted.read rest with
    | some (value, rest) => (.quoted value, rest)
    | none => (.stray, [])
  | text => readNumeral text

theorem length_read_snd_lt {text : List Char} (h : text ≠ []) :
    (read text).2.length < text.length := by
  have pos : 0 < text.length := List.length_pos_iff.mpr h
  fun_cases read text with
  | case10 rest value left hread =>
    simp only [Quoted.read, Option.map_eq_some_iff, Prod.exists, Prod.mk.injEq] at hread
    obtain ⟨found, left', hp, _, rfl⟩ := hread
    have := Quoted.length_of_pieces hp
    simp only [List.length_cons]
    omega
  | case11 => simp
  | case12 =>
    unfold readNumeral
    split
    · next hread => exact Numeral.length_of_read hread
    · simpa using pos
  | _ => simp only [List.length_cons]; omega

end Token

def tokens (text : List Char) : List Token :=
  match found : text.dropWhile isBlank with
  | [] => []
  | c :: rest =>
    have : (Token.read (c :: rest)).2.length < text.length := by
      have hread := Token.length_read_snd_lt (List.cons_ne_nil c rest)
      have hdrop : (text.dropWhile isBlank).length ≤ text.length :=
        (List.dropWhile_suffix isBlank).length_le
      rw [found] at hdrop
      omega
    (Token.read (c :: rest)).1 :: tokens (Token.read (c :: rest)).2
termination_by text.length

end WriteBack.Json
