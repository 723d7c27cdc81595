/-
# Skimming — the end of a value is found, whatever the value is

Reading goes word by word, and a text *leads* from a progress to an outcome
if going through its words does, with anything behind it (`Leads`).  Texts
that lead on from each other are put together by rules, one for each kind of
word and one for blanks.

With these rules every value of JSON leads a reader who skims it to just
behind it, however deep it is and whatever brackets were open before.  The
induction is on how the value is derived.  It has to speak of all phrases at
once, and each phrase can stand at some places only (`Fits`).
-/
import WriteBack.Proofs.Grammar
import WriteBack.Settings.Reading

namespace WriteBack.Settings.Progress

open Json

/-! ## Going through text -/

theorem run_cons (p : Progress) (token : Token) (tokens : List Token) :
    p.run (token :: tokens) = p.step token >>= fun q => q.run tokens :=
  List.foldlM_cons

/-- Going through a text comes to an outcome, a progress or a fault, with
anything behind the text at which a numeral ends. -/
def Leads (p : Progress) (text : List Char) (outcome : Except ReadError Progress) : Prop :=
  ∀ rest, Ends rest → p.run (tokens (text ++ rest)) = outcome >>= fun q => q.run (tokens rest)

namespace Leads

variable {p q r : Progress} {text more : List Char} {outcome : Except ReadError Progress}

theorem trans (h : Leads p text (.ok q)) (hends : Ends more) (hmore : Leads q more outcome) :
    Leads p (text ++ more) outcome := by
  intro rest hrest
  rw [List.append_assoc, h _ (hends.append hrest)]
  exact hmore rest hrest

/-- What stands behind a fault makes no difference. -/
theorem broken {error : ReadError} (h : Leads p text (.error error)) (hends : Ends more) :
    Leads p (text ++ more) (.error error) := by
  intro rest hrest
  rw [List.append_assoc, h _ (hends.append hrest)]
  rfl

theorem ofBlank (h : Blanks text) (p : Progress) : Leads p text (.ok p) := by
  intro rest _
  rw [tokens_blank h]
  rfl

theorem blank (h : Blanks text) (hmore : Leads p more outcome) : Leads p (text ++ more) outcome := by
  intro rest hrest
  rw [List.append_assoc, tokens_blank h, hmore rest hrest]

theorem word (c : Char) (tail : List Char) {token : Token} (hc : isBlank c = false)
    (hread : ∀ rest, Token.read (c :: (tail ++ rest)) = (token, rest))
    (hstep : p.step token = .ok q) (hmore : Leads q more outcome) :
    Leads p (c :: (tail ++ more)) outcome := by
  intro rest hrest
  rw [List.cons_append, List.append_assoc, tokens_of_read hc (hread _), run_cons, hstep]
  exact hmore rest hrest

theorem sign (c : Char) {token : Token} (hc : isBlank c = false)
    (hread : ∀ rest, Token.read (c :: rest) = (token, rest)) (hstep : p.step token = .ok q)
    (hmore : Leads q more outcome) : Leads p (c :: more) outcome :=
  word c [] hc hread hstep hmore

theorem quoted {body : List Char} {found : List Quoted.Piece} (h : Quoted.Written body found)
    (hstep : p.step (.quoted ((Quoted.spell? found).map String.ofList)) = .ok q)
    (hmore : Leads q more outcome) : Leads p ('"' :: (body ++ '"' :: more)) outcome := by
  intro rest hrest
  rw [List.cons_append, List.append_assoc, List.cons_append, tokens_quoted h, run_cons, hstep]
  exact hmore rest hrest

theorem quoted_refused {body : List Char} {found : List Quoted.Piece} {error : ReadError}
    (h : Quoted.Written body found)
    (hstep : p.step (.quoted ((Quoted.spell? found).map String.ofList)) = .error error) :
    Leads p ('"' :: (body ++ '"' :: more)) (.error error) := by
  intro rest _
  rw [List.cons_append, List.append_assoc, List.cons_append, tokens_quoted h, run_cons, hstep]
  rfl

theorem numeral {n : Numeral} (h : Numeral.Written text n) (hstep : p.step (.numeral n) = .ok q) :
    Leads p text (.ok q) := by
  intro rest hrest
  rw [tokens_numeral h hrest, run_cons, hstep]

theorem keyed {before body between : List Char} {found : List Quoted.Piece}
    (hbefore : Blanks before) (hbody : Quoted.Written body found) (hbetween : Blanks between)
    (hkey : p.step (.quoted ((Quoted.spell? found).map String.ofList)) = .ok q)
    (hcolon : q.step .colon = .ok r) (hmore : Leads r more outcome) :
    Leads p (keyed before body between more) outcome :=
  blank hbefore (quoted hbody hkey (blank hbetween (sign ':' rfl (fun _ => rfl) hcolon hmore)))

theorem run_eq (h : Leads p text outcome) : p.run (tokens text) = outcome := by
  have hall := h [] ends_nil
  have hnone : tokens [] = [] := by rw [tokens_eq]; rfl
  rw [List.append_nil, hnone] at hall
  rw [hall]
  cases outcome <;> rfl

end Leads

/-! ## Values that are passed over -/

/-- Where a reader is who has passed what fits between open brackets: behind
the whole value, if there are none. -/
def past (frames : List Frame) : Stage :=
  if (⟨frames, .rest⟩ : Skim).isDone then .memberEnd else .skimming ⟨frames, .rest⟩

/-- A value may stand next. -/
def Begins (awaiting : Awaiting) : Prop := awaiting = .value ∨ awaiting = .element

def AtKey (awaiting : Awaiting) : Prop := awaiting = .member ∨ awaiting = .key

/-- Where a phrase may stand, between open brackets. -/
def Fits : Phrase → List Frame → Awaiting → Prop
  | .value, _, awaiting | .element, _, awaiting => Begins awaiting
  | .elements, frames, awaiting => frames.head? = some .list ∧ Begins awaiting
  | .member, frames, awaiting | .members, frames, awaiting =>
    frames.head? = some .object ∧ AtKey awaiting

theorem Begins.single {awaiting : Awaiting} (h : Begins awaiting) {frames : List Frame}
    {token : Token}
    (hbegin : (⟨frames, awaiting⟩ : Skim).begin token = some ⟨frames, .rest⟩) (draft : Draft) :
    (⟨.skimming ⟨frames, awaiting⟩, draft⟩ : Progress).step token =
      .ok ⟨past frames, draft⟩ := by
  have hskim : (⟨frames, awaiting⟩ : Skim).step token = some ⟨frames, .rest⟩ := by
    obtain rfl | rfl := h
    · exact hbegin
    · cases token <;> first | exact hbegin | cases hbegin
  simp only [step, takeSkimmed, hskim, goto, past]

theorem Begins.openList {awaiting : Awaiting} (h : Begins awaiting) (frames : List Frame)
    (draft : Draft) :
    (⟨.skimming ⟨frames, awaiting⟩, draft⟩ : Progress).step .openBracket =
      .ok ⟨.skimming ⟨.list :: frames, .element⟩, draft⟩ := by
  obtain rfl | rfl := h <;> rfl

theorem Begins.openObject {awaiting : Awaiting} (h : Begins awaiting) (frames : List Frame)
    (draft : Draft) :
    (⟨.skimming ⟨frames, awaiting⟩, draft⟩ : Progress).step .openBrace =
      .ok ⟨.skimming ⟨.object :: frames, .member⟩, draft⟩ := by
  obtain rfl | rfl := h <;> rfl

theorem AtKey.passed {awaiting : Awaiting} (h : AtKey awaiting) (frames : List Frame)
    (value : Option String) (draft : Draft) :
    (⟨.skimming ⟨.object :: frames, awaiting⟩, draft⟩ : Progress).step (.quoted value) =
      .ok ⟨.skimming ⟨.object :: frames, .colon⟩, draft⟩ := by
  obtain rfl | rfl := h <;> rfl

/-- **Every phrase of JSON is passed over**, wherever it may stand. -/
theorem leads_of_derives {phrase : Phrase} {text : List Char} (h : Derives phrase text)
    (draft : Draft) {frames : List Frame} {awaiting : Awaiting}
    (hfits : Fits phrase frames awaiting) :
    Leads ⟨.skimming ⟨frames, awaiting⟩, draft⟩ text (.ok ⟨past frames, draft⟩) := by
  -- on the derivation, for all places at once: what is inside a bracket stands
  -- with one more bracket open than the value it belongs to
  induction h generalizing frames awaiting with
  | null =>
      exact .word 'n' ['u', 'l', 'l'] rfl (fun _ => rfl) (hfits.single rfl draft)
        (.ofBlank blanks_nil _)
  | isTrue =>
      exact .word 't' ['r', 'u', 'e'] rfl (fun _ => rfl) (hfits.single rfl draft)
        (.ofBlank blanks_nil _)
  | isFalse =>
      exact .word 'f' ['a', 'l', 's', 'e'] rfl (fun _ => rfl) (hfits.single rfl draft)
        (.ofBlank blanks_nil _)
  | numeral h => exact .numeral h (hfits.single rfl draft)
  | quoted h => exact .quoted h (hfits.single rfl draft) (.ofBlank blanks_nil _)
  | emptyList hinside =>
      have hclose : (⟨.skimming ⟨.list :: frames, .element⟩, draft⟩ : Progress).step
          .closeBracket = .ok ⟨past frames, draft⟩ := rfl
      exact .sign '[' rfl (fun _ => rfl) (hfits.openList frames draft) (.blank hinside
        (.sign ']' rfl (fun _ => rfl) hclose (.ofBlank blanks_nil _)))
  | list _ ih =>
      have hclose : (⟨past (.list :: frames), draft⟩ : Progress).step
          .closeBracket = .ok ⟨past frames, draft⟩ := rfl
      exact .sign '[' rfl (fun _ => rfl) (hfits.openList frames draft)
        ((ih ⟨rfl, .inr rfl⟩).trans (ends_cons rfl _)
          (.sign ']' rfl (fun _ => rfl) hclose (.ofBlank blanks_nil _)))
  | emptyObject hinside =>
      have hclose : (⟨.skimming ⟨.object :: frames, .member⟩, draft⟩ : Progress).step
          .closeBrace = .ok ⟨past frames, draft⟩ := rfl
      exact .sign '\x7b' rfl (fun _ => rfl) (hfits.openObject frames draft) (.blank hinside
        (.sign '\x7d' rfl (fun _ => rfl) hclose (.ofBlank blanks_nil _)))
  | object _ ih =>
      have hclose : (⟨past (.object :: frames), draft⟩ : Progress).step
          .closeBrace = .ok ⟨past frames, draft⟩ := rfl
      exact .sign '\x7b' rfl (fun _ => rfl) (hfits.openObject frames draft)
        ((ih ⟨rfl, .inl rfl⟩).trans (ends_cons rfl _)
          (.sign '\x7d' rfl (fun _ => rfl) hclose (.ofBlank blanks_nil _)))
  | element hbefore _ hafter ih =>
      exact .blank hbefore ((ih hfits).trans hafter.ends (.ofBlank hafter _))
  | oneElement _ ih => exact ih hfits.2
  | moreElements _ _ ih ihothers =>
      obtain ⟨hframe, hbegins⟩ := hfits
      obtain ⟨frames, rfl⟩ := List.head?_eq_some_iff.mp hframe
      have hcomma : (⟨past (.list :: frames), draft⟩ : Progress).step .comma =
          .ok ⟨.skimming ⟨.list :: frames, .value⟩, draft⟩ := rfl
      exact (ih hbegins).trans (ends_cons rfl _)
        (.sign ',' rfl (fun _ => rfl) hcomma (ihothers ⟨rfl, .inl rfl⟩))
  | member hbefore hbody hbetween _ ih =>
      obtain ⟨hframe, hkey⟩ := hfits
      obtain ⟨frames, rfl⟩ := List.head?_eq_some_iff.mp hframe
      have hcolon : (⟨.skimming ⟨.object :: frames, .colon⟩, draft⟩ : Progress).step .colon =
          .ok ⟨.skimming ⟨.object :: frames, .value⟩, draft⟩ := rfl
      exact .keyed hbefore hbody hbetween (hkey.passed frames _ draft) hcolon (ih (.inl rfl))
  | oneMember _ ih => exact ih hfits
  | moreMembers _ _ ih ihothers =>
      obtain ⟨hframe, hkey⟩ := hfits
      obtain ⟨frames, rfl⟩ := List.head?_eq_some_iff.mp hframe
      have hcomma : (⟨past (.object :: frames), draft⟩ : Progress).step .comma =
          .ok ⟨.skimming ⟨.object :: frames, .key⟩, draft⟩ := rfl
      exact (ih ⟨rfl, hkey⟩).trans (ends_cons rfl _)
        (.sign ',' rfl (fun _ => rfl) hcomma (ihothers ⟨rfl, .inr rfl⟩))

theorem leads_skimming {text : List Char} (h : Derives .element text) (draft : Draft) :
    Leads ⟨.skimming {}, draft⟩ text (.ok ⟨.memberEnd, draft⟩) :=
  leads_of_derives h draft (Or.inl rfl)

end WriteBack.Settings.Progress
