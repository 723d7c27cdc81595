/-
# Grammar — well-formed JSON, and its words

JSON is given here as a language, apart from any reader of it: what numerals
look like (`Numeral.Written`), what may stand between quotes
(`Quoted.Written`) and what that spells (`Quoted.Spells`), and how values,
lists and objects are put together (`Derives`).  Then the words of a text are
shown to be what the language says they are, each where it stands.

A numeral has no end of its own: it is read for as far as it goes.  So what
is said of the words of a text needs that the text behind it does not go on
as a numeral does (`Ends`).  Blanks, separators and brackets do not.
-/
import WriteBack.Json.Token

namespace WriteBack.Json

/-! ## Blanks and ends -/

def Blanks (text : List Char) : Prop := ∀ c ∈ text, isBlank c = true

instance (text : List Char) : Decidable (Blanks text) :=
  decidable_of_iff (text.all isBlank = true) List.all_eq_true

theorem blanks_nil : Blanks [] := nofun

def goesOn (c : Char) : Bool := c.isDigit || c == '.' || c == 'e' || c == 'E'

/-- A numeral that stands before this text ends there. -/
def Ends (text : List Char) : Prop := ∀ c ∈ text.head?, goesOn c = false

theorem ends_nil : Ends [] := nofun

theorem ends_cons {c : Char} (h : goesOn c = false) (text : List Char) : Ends (c :: text) := by
  intro d hd
  cases hd
  exact h

theorem Ends.append {text rest : List Char} (h : Ends text) (hrest : Ends rest) :
    Ends (text ++ rest) := by
  cases text with
  | nil => exact hrest
  | cons c text => exact ends_cons (h c rfl) (text ++ rest)

theorem Ends.not_digit {rest : List Char} (h : Ends rest) :
    ∀ c ∈ rest.head?, c.isDigit = false := by
  intro c hc
  have := h c hc
  simp only [goesOn, Bool.or_eq_false_iff] at this
  exact this.1.1.1

theorem Blanks.ends {text : List Char} (h : Blanks text) : Ends text := by
  intro c hc
  have hblank := h c (List.mem_of_mem_head? hc)
  simp only [isBlank, Bool.or_eq_true, beq_iff_eq] at hblank
  obtain ((rfl | rfl) | rfl) | rfl := hblank <;> rfl

/-! ## Numerals -/

namespace Numeral

/-- Digits, one at least, and what they stand for. -/
structure Digits (text : List Char) (digits : List Nat) : Prop where
  ne_nil : text ≠ []
  isDigit : ∀ c ∈ text, c.isDigit = true
  values : text.map (fun c => c.toNat - '0'.toNat) = digits

/-- Digits before the point. -/
inductive Whole : List Char → List Nat → Prop
  | zero : Whole ['0'] [0]
  | digits {c : Char} {text : List Char} {digits : List Nat} :
      c ≠ '0' → Digits (c :: text) digits → Whole (c :: text) digits

inductive Fraction : List Char → List Nat → Prop
  | absent : Fraction [] []
  | present {text : List Char} {digits : List Nat} :
      Digits text digits → Fraction ('.' :: text) digits

inductive Power : List Char → Option (Bool × List Nat) → Prop
  | absent : Power [] none
  | bare {mark : Char} {text : List Char} {digits : List Nat} :
      mark = 'e' ∨ mark = 'E' → Digits text digits → Power (mark :: text) (some (false, digits))
  | plus {mark : Char} {text : List Char} {digits : List Nat} :
      mark = 'e' ∨ mark = 'E' → Digits text digits →
      Power (mark :: '+' :: text) (some (false, digits))
  | minus {mark : Char} {text : List Char} {digits : List Nat} :
      mark = 'e' ∨ mark = 'E' → Digits text digits →
      Power (mark :: '-' :: text) (some (true, digits))

inductive Written : List Char → Numeral → Prop
  | unsigned {w f p : List Char} {whole fraction : List Nat} {power : Option (Bool × List Nat)} :
      Whole w whole → Fraction f fraction → Power p power →
      Written (w ++ (f ++ p)) ⟨false, whole, fraction, power⟩
  | negative {w f p : List Char} {whole fraction : List Nat} {power : Option (Bool × List Nat)} :
      Whole w whole → Fraction f fraction → Power p power →
      Written ('-' :: (w ++ (f ++ p))) ⟨true, whole, fraction, power⟩

/-! ### Reading what is written -/

theorem Digits.head {text : List Char} {digits : List Nat} (h : Digits text digits) :
    ∃ c rest, text = c :: rest ∧ c.isDigit = true := by
  cases text with
  | nil => exact absurd rfl h.ne_nil
  | cons c rest => exact ⟨c, rest, rfl, h.isDigit c List.mem_cons_self⟩

theorem Digits.split {text rest : List Char} {digits : List Nat} (h : Digits text digits)
    (hrest : ∀ c ∈ rest.head?, c.isDigit = false) :
    splitDigits (text ++ rest) = (digits, rest) := by
  have hnone : rest.takeWhile Char.isDigit = [] ∧ rest.dropWhile Char.isDigit = rest := by
    cases rest with
    | nil => exact ⟨rfl, rfl⟩
    | cons c rest => simp [hrest c rfl]
  rw [splitDigits, List.takeWhile_append_of_pos h.isDigit, List.dropWhile_append_of_pos h.isDigit,
    hnone.1, hnone.2, List.append_nil, h.values]

theorem Digits.split1 {text rest : List Char} {digits : List Nat} (h : Digits text digits)
    (hrest : ∀ c ∈ rest.head?, c.isDigit = false) :
    splitDigits1? (text ++ rest) = some (digits, rest) := by
  obtain ⟨c, more, rfl, -⟩ := h.head
  rw [splitDigits1?, h.split hrest, ← h.values]
  rfl

theorem Whole.head {text : List Char} {digits : List Nat} (h : Whole text digits) :
    ∃ c rest, text = c :: rest ∧ c.isDigit = true := by
  cases h with
  | zero => exact ⟨'0', [], rfl, rfl⟩
  | digits _ h => exact h.head

theorem Whole.read {text rest : List Char} {digits : List Nat} (h : Whole text digits)
    (hrest : ∀ c ∈ rest.head?, c.isDigit = false) :
    readWhole (text ++ rest) = some (digits, rest) := by
  cases h with
  | zero =>
      have hzero : Digits ['0'] [0] := ⟨nofun, List.forall_mem_singleton.mpr rfl, rfl⟩
      rw [readWhole, hzero.split hrest]
      rfl
  | @digits c text _ hc h =>
      -- the first digit is not the zero that would have to stand alone
      have hpos : c.toNat - '0'.toNat ≠ 0 := by
        have hdigit := h.isDigit c List.mem_cons_self
        intro hzero
        refine hc (Char.toNat_inj.mp ?_)
        have : 48 ≤ c.toNat := by
          simp only [Char.isDigit, Bool.and_eq_true, decide_eq_true_eq] at hdigit
          exact hdigit.1
        change c.toNat - 48 = 0 at hzero
        change c.toNat = 48
        omega
      rw [readWhole, h.split hrest, ← h.values, List.map_cons]
      cases hvalue : c.toNat - '0'.toNat with
      | zero => exact absurd hvalue hpos
      | succ d => rfl

theorem readExponent_of_digit {c : Char} (h : c.isDigit = true) (text : List Char) :
    readExponent (c :: text) =
      (splitDigits1? (c :: text)).map fun (digits, rest) => ((false, digits), rest) := by
  unfold readExponent
  split
  · next heq => cases heq; exact absurd h (by decide)
  · next heq => cases heq; exact absurd h (by decide)
  · rfl

theorem readPower_of_mark {mark : Char} (h : mark = 'e' ∨ mark = 'E') (text : List Char) :
    readPower (mark :: text) = (readExponent text).map fun (power, rest) => (some power, rest) := by
  obtain rfl | rfl := h <;> rfl

theorem Power.read {text rest : List Char} {power : Option (Bool × List Nat)}
    (h : Power text power) (hrest : Ends rest) : readPower (text ++ rest) = some (power, rest) := by
  have hdigit := hrest.not_digit
  cases h with
  | absent =>
      rw [List.nil_append]
      unfold readPower
      split
      · next rest => exact absurd (hrest 'e' rfl) (by decide)
      · next rest => exact absurd (hrest 'E' rfl) (by decide)
      · rfl
  | bare hmark h =>
      obtain ⟨c, more, rfl, hc⟩ := h.head
      rw [List.cons_append, readPower_of_mark hmark, List.cons_append, readExponent_of_digit hc,
        ← List.cons_append, h.split1 hdigit]
      rfl
  | plus hmark h =>
      rw [List.cons_append, readPower_of_mark hmark, List.cons_append, readExponent,
        h.split1 hdigit]
      rfl
  | minus hmark h =>
      rw [List.cons_append, readPower_of_mark hmark, List.cons_append, readExponent,
        h.split1 hdigit]
      rfl

/-- Behind a fraction stands neither a digit nor another point. -/
theorem Power.head {text rest : List Char} {power : Option (Bool × List Nat)}
    (h : Power text power) (hrest : Ends rest) :
    ∀ c ∈ (text ++ rest).head?, c.isDigit = false ∧ c ≠ '.' := by
  have hmarked : ∀ mark, mark = 'e' ∨ mark = 'E' → ∀ more : List Char,
      ∀ c ∈ (mark :: more).head?, c.isDigit = false ∧ c ≠ '.' := by
    intro mark hmark more c hc
    cases hc
    obtain rfl | rfl := hmark <;> decide
  cases h with
  | absent =>
      intro c hc
      have := hrest c hc
      simp only [goesOn, Bool.or_eq_false_iff, beq_eq_false_iff_ne] at this
      exact ⟨this.1.1.1, this.1.1.2⟩
  | bare hmark _ => exact hmarked _ hmark _
  | plus hmark _ => exact hmarked _ hmark _
  | minus hmark _ => exact hmarked _ hmark _

theorem Fraction.read {text rest : List Char} {digits : List Nat} (h : Fraction text digits)
    (hrest : ∀ c ∈ rest.head?, c.isDigit = false ∧ c ≠ '.') :
    readFraction (text ++ rest) = some (digits, rest) := by
  cases h with
  | absent =>
      rw [List.nil_append]
      unfold readFraction
      split
      · next rest => exact absurd rfl (hrest '.' rfl).2
      · rfl
  | present h => exact h.split1 fun c hc => (hrest c hc).1

theorem Fraction.head {text rest : List Char} {digits : List Nat} (h : Fraction text digits)
    (hrest : ∀ c ∈ rest.head?, c.isDigit = false ∧ c ≠ '.') :
    ∀ c ∈ (text ++ rest).head?, c.isDigit = false := by
  cases h with
  | absent => exact fun c hc => (hrest c hc).1
  | present _ =>
      intro c hc
      cases hc
      rfl

theorem readUnsigned_of_written {negative : Bool} {w f p rest : List Char}
    {whole fraction : List Nat} {power : Option (Bool × List Nat)} (hwhole : Whole w whole)
    (hfraction : Fraction f fraction) (hpower : Power p power) (hrest : Ends rest) :
    readUnsigned negative (w ++ (f ++ p) ++ rest) =
      some (⟨negative, whole, fraction, power⟩, rest) := by
  have hpoint := hpower.head hrest
  rw [List.append_assoc, List.append_assoc, readUnsigned, hwhole.read (hfraction.head hpoint)]
  simp only [Option.bind_eq_bind, Option.bind_some, hfraction.read hpoint, hpower.read hrest]
  rfl

theorem Written.head {text : List Char} {n : Numeral} (h : Written text n) :
    ∃ c rest, text = c :: rest ∧ (c = '-' ∨ c.isDigit = true) := by
  cases h with
  | unsigned hwhole _ _ =>
      obtain ⟨c, more, rfl, hc⟩ := hwhole.head
      exact ⟨c, _, rfl, .inr hc⟩
  | negative _ _ _ => exact ⟨'-', _, rfl, .inl rfl⟩

theorem Written.read {text rest : List Char} {n : Numeral} (h : Written text n)
    (hrest : Ends rest) : Numeral.read (text ++ rest) = some (n, rest) := by
  cases h with
  | unsigned hwhole hfraction hpower =>
      rw [← readUnsigned_of_written hwhole hfraction hpower hrest]
      obtain ⟨c, more, rfl, hc⟩ := hwhole.head
      unfold Numeral.read
      split
      · next heq => cases heq; exact absurd hc (by decide)
      · rfl
  | negative hwhole hfraction hpower =>
      exact readUnsigned_of_written hwhole hfraction hpower hrest

end Numeral

/-! ## Quoted text -/

namespace Quoted

/-- What may stand between quotes, and its pieces. -/
inductive Written : List Char → List Piece → Prop
  | nil : Written [] []
  | plain {c : Char} {body : List Char} {found : List Piece} :
      32 ≤ c.toNat → c ≠ '"' → c ≠ '\\' → Written body found →
      Written (c :: body) (.char c :: found)
  | escape {letter c : Char} {body : List Char} {found : List Piece} :
      escaped? letter = some c → Written body found →
      Written ('\\' :: letter :: body) (.char c :: found)
  | unit {a b c d : Char} {code : Nat} {body : List Char} {found : List Piece} :
      unit? a b c d = some code → Written body found →
      Written ('\\' :: 'u' :: a :: b :: c :: d :: body) (.unit code :: found)

/-- What pieces spell: a unit either is half of a pair or stands by itself. -/
inductive Spells : List Piece → List Char → Prop
  | nil : Spells [] []
  | char {c : Char} {found : List Piece} {text : List Char} :
      Spells found text → Spells (.char c :: found) (c :: text)
  | pair {high low : Nat} {found : List Piece} {text : List Char} :
      isHigh high = true → isLow low = true → Spells found text →
      Spells (.unit high :: .unit low :: found) (Quoted.pair high low :: text)
  | unit {code : Nat} {found : List Piece} {text : List Char} :
      isHigh code = false → isLow code = false → Spells found text →
      Spells (.unit code :: found) (Char.ofNat code :: text)

theorem pieces_plain {c : Char} {text rest : List Char} {found : List Piece}
    (hc : 32 ≤ c.toNat) (hquote : c ≠ '"') (hslash : c ≠ '\\')
    (h : pieces text = some (found, rest)) :
    pieces (c :: text) = some (.char c :: found, rest) := by
  rw [pieces.eq_def]
  split
  · contradiction
  · next heq => cases heq; exact absurd rfl hquote
  · next heq => cases heq; exact absurd rfl hslash
  · next heq => cases heq; exact absurd rfl hslash
  · next heq =>
      cases heq
      simp only [h]
      rw [if_neg (Nat.not_lt.mpr hc)]

theorem pieces_escape {letter c : Char} {text rest : List Char} {found : List Piece}
    (hc : escaped? letter = some c) (h : pieces text = some (found, rest)) :
    pieces ('\\' :: letter :: text) = some (.char c :: found, rest) := by
  rw [pieces.eq_def]
  split
  · contradiction
  · next heq => cases heq
  · next heq => cases heq; cases hc
  · next heq => cases heq; simp only [hc, h]
  · next hslash heq => cases heq; exact absurd rfl (hslash _ _ rfl)

theorem Written.pieces {body : List Char} {found : List Piece} (h : Written body found)
    (rest : List Char) : Quoted.pieces (body ++ '"' :: rest) = some (found, rest) := by
  induction h with
  | nil => rfl
  | plain hc hquote hslash _ ih => exact pieces_plain hc hquote hslash ih
  | escape hc _ ih => exact pieces_escape hc ih
  | unit hcode _ ih => simp only [List.cons_append, Quoted.pieces, hcode, ih]

theorem spell?_unit {code : Nat} (hhigh : isHigh code = false) (hlow : isLow code = false)
    (found : List Piece) :
    spell? (.unit code :: found) = (spell? found).map (Char.ofNat code :: ·) := by
  cases found with
  | nil => simp [spell?, hhigh, hlow]
  | cons piece found => cases piece <;> simp [spell?, hhigh, hlow]

theorem Spells.spell? {found : List Piece} {text : List Char} (h : Spells found text) :
    Quoted.spell? found = some text := by
  induction h with
  | nil => rfl
  | char _ ih => rw [Quoted.spell?, ih]; rfl
  | pair hhigh hlow _ ih => rw [Quoted.spell?, if_pos hhigh, if_pos hlow, ih]; rfl
  | unit hhigh hlow _ ih => rw [spell?_unit hhigh hlow, ih]; rfl

theorem spells_of_spell? {found : List Piece} {text : List Char}
    (h : spell? found = some text) : Spells found text := by
  fun_induction spell? found generalizing text with
  | case1 => cases h; exact .nil
  | case2 c rest ih =>
      obtain ⟨more, hmore, rfl⟩ := Option.map_eq_some_iff.mp h
      exact .char (ih hmore)
  | case3 high low rest hhigh hlow ih =>
      obtain ⟨more, hmore, rfl⟩ := Option.map_eq_some_iff.mp h
      exact .pair hhigh hlow (ih hmore)
  | case4 => cases h
  | case5 => cases h
  | case6 high low rest hhigh hlow ih =>
      obtain ⟨more, hmore, rfl⟩ := Option.map_eq_some_iff.mp h
      exact .unit (Bool.eq_false_iff.mpr hhigh) (Bool.eq_false_iff.mpr hlow)
        (ih hmore)
  | case7 => cases h
  | case8 code rest _ hcode ih =>
      obtain ⟨more, hmore, rfl⟩ := Option.map_eq_some_iff.mp h
      rw [Bool.or_eq_true, not_or] at hcode
      exact .unit (Bool.eq_false_iff.mpr hcode.1) (Bool.eq_false_iff.mpr hcode.2)
        (ih hmore)

theorem Spells.unique {found : List Piece} {text text' : List Char} (h : Spells found text)
    (h' : Spells found text') : text = text' :=
  Option.some.inj (h.spell?.symm.trans h'.spell?)

theorem spell?_eq_none {found : List Piece} (h : ¬∃ text, Spells found text) :
    spell? found = none := by
  cases hspell : spell? found with
  | none => rfl
  | some text => exact absurd ⟨text, spells_of_spell? hspell⟩ h

theorem written_plain {text : List Char}
    (h : text.all (fun c => 32 ≤ c.toNat && c != '"' && c != '\\') = true) :
    Written text (text.map .char) := by
  induction text with
  | nil => exact .nil
  | cons c text ih =>
      simp only [List.all_cons, Bool.and_eq_true, decide_eq_true_eq, bne_iff_ne] at h
      obtain ⟨⟨⟨hc, hquote⟩, hslash⟩, htext⟩ := h
      exact .plain hc hquote hslash (ih htext)

theorem spells_plain (text : List Char) : Spells (text.map .char) text := by
  induction text with
  | nil => exact .nil
  | cons c text ih => exact .char ih

end Quoted

/-! ## Values -/

/-- What can be told apart in a JSON text: values; elements, which are values
with blanks around them; members of objects; and rows of elements or members
with commas between them. -/
inductive Phrase where
  | value
  | element
  | elements
  | member
  | members

/-- Something quoted with a colon behind it, before an element. -/
def keyed (before body between element : List Char) : List Char :=
  before ++ '"' :: (body ++ '"' :: (between ++ ':' :: element))

/-- The texts of JSON. -/
inductive Derives : Phrase → List Char → Prop
  | null : Derives .value ['n', 'u', 'l', 'l']
  | isTrue : Derives .value ['t', 'r', 'u', 'e']
  | isFalse : Derives .value ['f', 'a', 'l', 's', 'e']
  | numeral {text : List Char} {n : Numeral} : Numeral.Written text n → Derives .value text
  | quoted {body : List Char} {found : List Quoted.Piece} :
      Quoted.Written body found → Derives .value ('"' :: (body ++ ['"']))
  | emptyList {inside : List Char} : Blanks inside → Derives .value ('[' :: (inside ++ [']']))
  | list {text : List Char} : Derives .elements text → Derives .value ('[' :: (text ++ [']']))
  | emptyObject {inside : List Char} :
      Blanks inside → Derives .value ('\x7b' :: (inside ++ ['\x7d']))
  | object {text : List Char} :
      Derives .members text → Derives .value ('\x7b' :: (text ++ ['\x7d']))
  | element {before text after : List Char} :
      Blanks before → Derives .value text → Blanks after →
      Derives .element (before ++ (text ++ after))
  | oneElement {text : List Char} : Derives .element text → Derives .elements text
  | moreElements {text others : List Char} :
      Derives .element text → Derives .elements others →
      Derives .elements (text ++ ',' :: others)
  | member {before body between text : List Char} {found : List Quoted.Piece} :
      Blanks before → Quoted.Written body found → Blanks between → Derives .element text →
      Derives .member (keyed before body between text)
  | oneMember {text : List Char} : Derives .member text → Derives .members text
  | moreMembers {text others : List Char} :
      Derives .member text → Derives .members others →
      Derives .members (text ++ ',' :: others)

/-! ## The words of a text -/

theorem tokens_eq (text : List Char) :
    tokens text = match text.dropWhile isBlank with
      | [] => []
      | c :: rest => (Token.read (c :: rest)).1 :: tokens (Token.read (c :: rest)).2 := by
  rw [tokens]
  split <;> simp only [*]

theorem tokens_blank {blank : List Char} (h : Blanks blank) (text : List Char) :
    tokens (blank ++ text) = tokens text := by
  rw [tokens_eq, List.dropWhile_append_of_pos h, ← tokens_eq]

theorem tokens_of_read {c : Char} {text rest : List Char} {token : Token}
    (hc : isBlank c = false) (h : Token.read (c :: text) = (token, rest)) :
    tokens (c :: text) = token :: tokens rest := by
  rw [tokens_eq, List.dropWhile_cons, hc]
  simp only [Bool.false_eq_true, if_false, h]

theorem read_eq_readNumeral {c : Char} (h : c = '-' ∨ c.isDigit = true) (text : List Char) :
    Token.read (c :: text) = Token.readNumeral (c :: text) := by
  unfold Token.read
  -- all other words begin with neither
  split <;> first
    | rfl
    | next heq => cases heq; exact absurd h (by decide)

theorem tokens_numeral {text rest : List Char} {n : Numeral} (h : Numeral.Written text n)
    (hrest : Ends rest) : tokens (text ++ rest) = .numeral n :: tokens rest := by
  have hread := h.read hrest
  obtain ⟨c, more, rfl, hc⟩ := h.head
  have hblank : isBlank c = false := by
    simp only [isBlank, Bool.or_eq_false_iff, beq_eq_false_iff_ne]
    refine ⟨⟨⟨?_, ?_⟩, ?_⟩, ?_⟩ <;> rintro rfl <;> exact absurd hc (by decide)
  rw [List.cons_append] at hread ⊢
  refine tokens_of_read hblank ?_
  rw [read_eq_readNumeral hc, Token.readNumeral, hread]

theorem tokens_quoted {body rest : List Char} {found : List Quoted.Piece}
    (h : Quoted.Written body found) :
    tokens ('"' :: (body ++ '"' :: rest)) =
      .quoted ((Quoted.spell? found).map String.ofList) :: tokens rest := by
  refine tokens_of_read rfl ?_
  simp only [Token.read, Quoted.read, h.pieces, Option.map_some]

end WriteBack.Json
