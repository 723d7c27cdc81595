/-
# Tolerance — settings are read from any object that gives them

An object gives settings if each of the two fields comes once at most, with a
signed word in decimal.  Everything else about it is free: the order of the
members, how a known key is spelled, blanks, and any number of members with
keys that are not known, whose values can be anything in JSON.

Such an object is read as what it gives, with the default for a field that is
not there; and the compact form, in which settings are written, is such an
object.  One thing is needed of keys that nobody knows: a reader has to see
that it does not know them, and so they must spell a text.  Units that do not
pair up spell none, and a key with such units is refused, while in the values
that are passed over they do no harm.
-/
import WriteBack.Proofs.Decimals
import WriteBack.Proofs.Skimming

namespace WriteBack.Settings

open Json

/-! ## Objects -/

/-- A member of an object: a field with its value, or a key that is not
known, in pieces. -/
inductive Member where
  | given (field : Field) (value : Int64)
  | strange (key : List Quoted.Piece)

namespace Member

def field? : Member → Option Field
  | given field _ => some field
  | strange _ => none

def value? (field : Field) : Member → Option Int64
  | given other value => if other = field then some value else none
  | strange _ => none

/-- A member as it is written. -/
inductive Written : Member → List Char → Prop
  | given {field : Field} {value : Int64} {before body between front back : List Char}
      {found : List Quoted.Piece} :
      Blanks before → Quoted.Written body found → Quoted.Spells found field.key.toList →
      Blanks between → Blanks front → Blanks back →
      Written (.given field value)
        (keyed before body between (front ++ ((toString value).toList ++ back)))
  | strange {key : List Quoted.Piece} {before body between text : List Char} :
      Blanks before → Quoted.Written body key →
      (∀ field : Field, ¬Quoted.Spells key field.key.toList) →
      Blanks between → Derives .element text →
      Written (.strange key) (keyed before body between text)

end Member

/-- Members with commas between them. -/
inductive Row : List Member → List Char → Prop
  | one {member : Member} {text : List Char} : member.Written text → Row [member] text
  | more {member : Member} {members : List Member} {text others : List Char} :
      member.Written text → Row members others → Row (member :: members) (text ++ ',' :: others)

/-- Objects with their members. -/
inductive Object : List Member → List Char → Prop
  | empty {before inside after : List Char} :
      Blanks before → Blanks inside → Blanks after →
      Object [] (before ++ '\x7b' :: (inside ++ '\x7d' :: after))
  | full {members : List Member} {before text after : List Char} :
      Blanks before → Row members text → Blanks after →
      Object members (before ++ '\x7b' :: (text ++ '\x7d' :: after))

/-- Each field comes once at most. -/
def Once (members : List Member) : Prop := (members.filterMap Member.field?).Nodup

instance (members : List Member) : Decidable (Once members) :=
  inferInstanceAs (Decidable (members.filterMap Member.field?).Nodup)

/-- The keys that are not known spell a text. -/
def Legible (members : List Member) : Prop :=
  ∀ key, .strange key ∈ members → ∃ text, Quoted.Spells key text

/-- What members give to a field. -/
def given? (members : List Member) (field : Field) : Option Int64 :=
  members.findSome? (Member.value? field)

/-- The settings that members give. -/
def ofMembers (members : List Member) : Settings :=
  { capacity := (given? members .capacity).getD ({} : Settings).capacity
    bound := (given? members .bound).getD ({} : Settings).bound }

theorem Member.value?_eq_none {member : Member} {field : Field}
    (h : member.field? ≠ some field) : member.value? field = none := by
  cases member with
  | given other value => exact if_neg fun heq => h (congrArg some heq)
  | strange key => rfl

theorem once_given {field : Field} {value : Int64} {members : List Member} :
    Once (.given field value :: members) ↔
      (∀ later ∈ members, later.field? ≠ some field) ∧ Once members := by
  have hmem : field ∉ members.filterMap Member.field? ↔
      ∀ later ∈ members, later.field? ≠ some field := by
    simp only [List.mem_filterMap, not_exists, not_and, ne_eq]
  exact List.nodup_cons.trans (and_congr_left' hmem)

theorem legible_cons {member : Member} {members : List Member} :
    Legible (member :: members) ↔ Legible [member] ∧ Legible members := by
  simp only [Legible, List.mem_cons, List.not_mem_nil, or_false, or_imp, forall_and]

/-! ### Objects are JSON -/

theorem Member.Written.derives {member : Member} {text : List Char} (h : member.Written text) :
    Derives .member text := by
  cases h with
  | given hbefore hbody _ hbetween hfront hback =>
      exact .member hbefore hbody hbetween
        (.element hfront (.numeral (Numeral.written_ofInt _)) hback)
  | strange hbefore hbody _ hbetween htext => exact .member hbefore hbody hbetween htext

theorem Row.derives {members : List Member} {text : List Char} (h : Row members text) :
    Derives .members text := by
  induction h with
  | one h => exact .oneMember h.derives
  | more h _ ih => exact .moreMembers h.derives ih

theorem Object.derives {members : List Member} {text : List Char} (h : Object members text) :
    Derives .element text := by
  cases h with
  | @empty before inside after hbefore hinside hafter =>
      have hobject := Derives.element hbefore (.emptyObject hinside) hafter
      rwa [List.cons_append, List.append_assoc] at hobject
  | full hbefore hrow hafter =>
      have hobject := Derives.element hbefore (.object hrow.derives) hafter
      rwa [List.cons_append, List.append_assoc] at hobject

/-! ## Drafts -/

def Draft.enter (draft : Draft) : Member → Draft
  | .given field value => draft.set value field
  | .strange _ => draft

theorem Draft.get_set (draft : Draft) (value : Int64) (field other : Field) :
    (draft.set value field).get other = if field = other then some value else draft.get other := by
  cases field <;> cases other <;> rfl

/-- Of members whose fields come once, a draft holds what they give, and what
it held before. -/
theorem Draft.get_foldl_enter {members : List Member} (h : Once members) (draft : Draft)
    (field : Field) :
    (members.foldl Draft.enter draft).get field = (given? members field).or (draft.get field) := by
  induction members generalizing draft with
  | nil => rfl
  | cons member members ih =>
      cases member with
      | strange key => exact ih h draft
      | given other value =>
          obtain ⟨hother, hrest⟩ := once_given.mp h
          rw [List.foldl_cons, ih hrest, given?, given?, List.findSome?_cons, Draft.enter,
            Draft.get_set, Member.value?]
          by_cases hfield : other = field
          · -- no later member gives the field another value
            subst hfield
            have hnone : members.findSome? (Member.value? other) = none :=
              List.findSome?_eq_none_iff.mpr fun later hlater =>
                Member.value?_eq_none (hother later hlater)
            rw [if_pos rfl, if_pos rfl, hnone]
            rfl
          · rw [if_neg hfield, if_neg hfield]

theorem Draft.complete_foldl_enter {members : List Member} (h : Once members) :
    (members.foldl Draft.enter {}).complete = ofMembers members := by
  have hget := Draft.get_foldl_enter h {}
  have hcapacity := hget .capacity
  have hbound := hget .bound
  simp only [Draft.get, Option.or_none] at hcapacity hbound
  rw [Draft.complete, hcapacity, hbound]
  rfl

/-- Nothing has been read yet for the fields of members still to come, each of
which comes once. -/
structure Draft.OpenTo (draft : Draft) (members : List Member) : Prop where
  once : Once members
  new : ∀ member ∈ members, ∀ field, member.field? = some field → draft.get field = none

theorem Draft.openTo_empty {members : List Member} (h : Once members) :
    Draft.OpenTo {} members where
  once := h
  new := fun _ _ field _ => by cases field <;> rfl

theorem Draft.OpenTo.head {draft : Draft} {member : Member} {members : List Member}
    (h : draft.OpenTo (member :: members)) (field : Field) (hfield : member.field? = some field) :
    draft.get field = none :=
  h.new member List.mem_cons_self field hfield

theorem Draft.OpenTo.tail {draft : Draft} {member : Member} {members : List Member}
    (h : draft.OpenTo (member :: members)) : (draft.enter member).OpenTo members := by
  have hnew : ∀ later ∈ members, ∀ field, later.field? = some field → draft.get field = none :=
    fun later hlater => h.new later (List.mem_cons_of_mem member hlater)
  cases member with
  | strange key => exact ⟨h.once, hnew⟩
  | given other value =>
      obtain ⟨hother, honce⟩ := once_given.mp h.once
      refine ⟨honce, fun later hlater field hfield => ?_⟩
      have hne : other ≠ field := by
        rintro rfl
        exact hother later hlater hfield
      rw [Draft.enter, Draft.get_set, if_neg hne]
      exact hnew later hlater field hfield

/-! ## Reading members -/

theorem Field.ofKey?_key (field : Field) : Field.ofKey? field.key = some field := by
  cases field <;> decide

theorem Field.ofKey?_eq_none {key : String} (h : ∀ field : Field, field.key ≠ key) :
    Field.ofKey? key = none := by
  rw [Field.ofKey?, List.find?_eq_none]
  intro field _
  rw [beq_iff_eq]
  exact h field

namespace Progress

def AtMember (stage : Stage) : Prop := stage = .member ∨ stage = .key

theorem step_quoted {stage : Stage} (h : AtMember stage) (draft : Draft)
    (value : Option String) :
    (⟨stage, draft⟩ : Progress).step (.quoted value) =
      (⟨stage, draft⟩ : Progress).takeKey (.quoted value) := by
  obtain rfl | rfl := h <;> rfl

theorem step_known {stage : Stage} (h : AtMember stage) {draft : Draft} {field : Field}
    (hnew : draft.get field = none) :
    (⟨stage, draft⟩ : Progress).step (.quoted (some field.key)) =
      .ok ⟨.colon (some field), draft⟩ := by
  rw [step_quoted h]
  simp only [takeKey, Field.ofKey?_key, hnew, goto]

theorem step_unknown {stage : Stage} (h : AtMember stage) (draft : Draft) {key : String}
    (hkey : Field.ofKey? key = none) :
    (⟨stage, draft⟩ : Progress).step (.quoted (some key)) = .ok ⟨.colon none, draft⟩ := by
  rw [step_quoted h]
  simp only [takeKey, hkey, goto]

theorem step_value (field : Field) (draft : Draft) (value : Int64) :
    (⟨.value field, draft⟩ : Progress).step (.numeral (Numeral.ofInt value.toInt)) =
      .ok ⟨.memberEnd, draft.set value field⟩ := by
  simp only [step, takeWord, readWord_ofInt]

/-- A member leads to its end, with what it gives entered in the draft. -/
theorem leads_member {member : Member} {text : List Char} (h : member.Written text)
    {stage : Stage} (hstage : AtMember stage) {draft : Draft} (hlegible : Legible [member])
    (hnew : ∀ field, member.field? = some field → draft.get field = none) :
    Leads ⟨stage, draft⟩ text (.ok ⟨.memberEnd, draft.enter member⟩) := by
  cases h with
  | @given field value _ _ _ _ _ found hbefore hbody hspells hbetween hfront hback =>
      have hkey : (⟨stage, draft⟩ : Progress).step
          (.quoted ((Quoted.spell? found).map String.ofList)) =
            .ok ⟨.colon (some field), draft⟩ := by
        rw [hspells.spell?, Option.map_some, String.ofList_toList]
        exact step_known hstage (hnew field rfl)
      have hvalue :=
        Leads.numeral (Numeral.written_ofInt value.toInt) (step_value field draft value)
      exact .keyed hbefore hbody hbetween hkey rfl
        (.blank hfront (hvalue.trans hback.ends (.ofBlank hback _)))
  | @strange key _ _ _ _ hbefore hbody hstrange hbetween htext =>
      obtain ⟨spelled, hspells⟩ := hlegible key (List.mem_singleton_self _)
      have hunknown : Field.ofKey? (String.ofList spelled) = none := by
        refine Field.ofKey?_eq_none fun field heq => hstrange field ?_
        rw [heq, String.toList_ofList]
        exact hspells
      have hkey : (⟨stage, draft⟩ : Progress).step
          (.quoted ((Quoted.spell? key).map String.ofList)) = .ok ⟨.colon none, draft⟩ := by
        rw [hspells.spell?]
        exact step_unknown hstage draft hunknown
      exact .keyed hbefore hbody hbetween hkey rfl (leads_skimming htext draft)

theorem leads_illegible {member : Member} {text : List Char} (h : member.Written text)
    {stage : Stage} (hstage : AtMember stage) (draft : Draft) (hillegible : ¬Legible [member]) :
    Leads ⟨stage, draft⟩ text (.error .malformed) := by
  cases h with
  | given => exact absurd (fun key hkey => by cases List.mem_singleton.mp hkey) hillegible
  | @strange key _ _ _ _ hbefore hbody _ _ _ =>
      have hnone : Quoted.spell? key = none := by
        refine Quoted.spell?_eq_none fun hspells => hillegible fun other hother => ?_
        cases List.mem_singleton.mp hother
        exact hspells
      have hkey : (⟨stage, draft⟩ : Progress).step
          (.quoted ((Quoted.spell? key).map String.ofList)) = .error .malformed := by
        rw [hnone, step_quoted hstage]
        rfl
      exact .blank hbefore (.quoted_refused hbody hkey)

theorem leads_row {members : List Member} {text : List Char} (h : Row members text)
    {stage : Stage} (hstage : AtMember stage) {draft : Draft} (hlegible : Legible members)
    (hopen : draft.OpenTo members) :
    Leads ⟨stage, draft⟩ text (.ok ⟨.memberEnd, members.foldl Draft.enter draft⟩) := by
  -- on the members; the draft stays open to those still to come
  induction h generalizing stage draft with
  | one h => exact leads_member h hstage hlegible hopen.head
  | more h _ ih =>
      obtain ⟨hfirst, hothers⟩ := legible_cons.mp hlegible
      exact (leads_member h hstage hfirst hopen.head).trans (ends_cons rfl _)
        (.sign ',' rfl (fun _ => rfl) rfl (ih (.inr rfl) hothers hopen.tail))

theorem leads_row_illegible {members : List Member} {text : List Char} (h : Row members text)
    {stage : Stage} (hstage : AtMember stage) {draft : Draft} (hillegible : ¬Legible members)
    (hopen : draft.OpenTo members) : Leads ⟨stage, draft⟩ text (.error .malformed) := by
  induction h generalizing stage draft with
  | one h => exact leads_illegible h hstage draft hillegible
  | @more member members _ _ h _ ih =>
      by_cases hfirst : Legible [member]
      · have hothers : ¬Legible members := fun hothers =>
          hillegible (legible_cons.mpr ⟨hfirst, hothers⟩)
        exact (leads_member h hstage hfirst hopen.head).trans (ends_cons rfl _)
          (.sign ',' rfl (fun _ => rfl) rfl (ih (.inr rfl) hothers hopen.tail))
      · exact (leads_illegible h hstage draft hfirst).broken (ends_cons rfl _)

theorem leads_object {members : List Member} {text : List Char} (h : Object members text)
    (honce : Once members) (hlegible : Legible members) :
    Leads {} text (.ok ⟨.finished, members.foldl Draft.enter {}⟩) := by
  cases h with
  | empty hbefore hinside hafter =>
      exact .blank hbefore (.sign '\x7b' rfl (fun _ => rfl) rfl
        (.blank hinside (.sign '\x7d' rfl (fun _ => rfl) rfl (.ofBlank hafter _))))
  | full hbefore hrow hafter =>
      have hmembers := leads_row hrow (.inl rfl) hlegible (Draft.openTo_empty honce)
      exact .blank hbefore (.sign '\x7b' rfl (fun _ => rfl) rfl
        (hmembers.trans (ends_cons rfl _)
          (.sign '\x7d' rfl (fun _ => rfl) rfl (.ofBlank hafter _))))

theorem leads_object_illegible {members : List Member} {text : List Char}
    (h : Object members text) (honce : Once members) (hillegible : ¬Legible members) :
    Leads {} text (.error .malformed) := by
  cases h with
  | empty => exact absurd nofun hillegible
  | full hbefore hrow _ =>
      have hmembers := leads_row_illegible hrow (.inl rfl) hillegible (Draft.openTo_empty honce)
      exact .blank hbefore (.sign '\x7b' rfl (fun _ => rfl) rfl
        (hmembers.broken (ends_cons rfl _)))

end Progress

theorem read_object {members : List Member} {text : String} (h : Object members text.toList)
    (honce : Once members) (hlegible : Legible members) :
    read text = .ok (ofMembers members) := by
  rw [read, (Progress.leads_object h honce hlegible).run_eq]
  exact congrArg Except.ok (Draft.complete_foldl_enter honce)

/-- With a key that spells no text it is not read at all. -/
theorem read_object_illegible {members : List Member} {text : String}
    (h : Object members text.toList) (honce : Once members) (hillegible : ¬Legible members) :
    read text = .error .malformed := by
  rw [read, (Progress.leads_object_illegible h honce hillegible).run_eq]

/-! ## The compact form -/

theorem Field.written_key (field : Field) :
    Quoted.Written field.key.toList (field.key.toList.map .char) := by
  cases field <;> exact Quoted.written_plain (by decide)

theorem Member.Written.compact (field : Field) (value : Int64) :
    Member.Written (.given field value)
      ('"' :: (field.key.toList ++ '"' :: ':' :: (toString value).toList)) := by
  have hwritten : Member.Written (.given field value)
      (keyed [] field.key.toList [] ([] ++ ((toString value).toList ++ []))) :=
    .given blanks_nil field.written_key (Quoted.spells_plain _) blanks_nil blanks_nil blanks_nil
  rw [List.append_nil] at hwritten
  exact hwritten

def members (settings : Settings) : List Member :=
  [.given .capacity settings.capacity, .given .bound settings.bound]

theorem toList_written (settings : Settings) :
    settings.written.toList = '\x7b' ::
      ('"' :: (Field.capacity.key.toList ++ '"' :: ':' :: (toString settings.capacity).toList) ++
        ',' :: '"' :: (Field.bound.key.toList ++ '"' :: ':' :: (toString settings.bound).toList) ++
        ['\x7d']) := by
  unfold written
  -- simp would look into the decimals for a text it can compute
  generalize toString settings.capacity = capacity, toString settings.bound = bound
  simp [Field.key]

theorem object_written (settings : Settings) : Object settings.members settings.written.toList := by
  rw [toList_written]
  exact .full blanks_nil
    (.more (Member.Written.compact .capacity settings.capacity)
      (.one (Member.Written.compact .bound settings.bound))) blanks_nil

theorem once_members (settings : Settings) : Once settings.members := by
  simp only [Once, members, List.filterMap_cons, Member.field?]
  decide

theorem legible_members (settings : Settings) : Legible settings.members := by
  intro key hkey
  simp only [members, List.mem_cons, reduceCtorEq, List.not_mem_nil, or_self] at hkey

/-- **Settings are read from all that gives them**: from what they are written
as, and from every object that gives the fields it gives once, whatever else
is in it, if only the keys that are not known spell texts. -/
theorem read_tolerant :
    (∀ settings : Settings, read settings.written = .ok settings) ∧
    ∀ (members : List Member) (text : String), Object members text.toList → Once members →
      Legible members → read text = .ok (ofMembers members) := by
  refine ⟨fun settings => ?_, fun members text h honce hlegible => read_object h honce hlegible⟩
  exact read_object (object_written settings) (once_members settings) (legible_members settings)

/-- A bound below zero behind a key that is not known, with half a pair of
units in its value. -/
def noted : String := "\x7b\"seen\":[\"\\udc00\",\x7b\x7d], \"unpersisted_bytes_bound\": -5\x7d"

def notedMembers : List Member := [.strange ("seen".toList.map .char), .given .bound (-5)]

theorem object_noted : Object notedMembers noted.toList := by
  have hhalf : Quoted.Written "\\udc00".toList [.unit 0xDC00] := .unit rfl .nil
  have hlist : Derives .element "[\"\\udc00\",\x7b\x7d]".toList :=
    .element blanks_nil (.list (.moreElements (.element blanks_nil (.quoted hhalf) blanks_nil)
      (.oneElement (.element blanks_nil (.emptyObject blanks_nil) blanks_nil)))) blanks_nil
  have hseen : Member.Written (.strange ("seen".toList.map .char))
      (keyed [] "seen".toList [] "[\"\\udc00\",\x7b\x7d]".toList) := by
    refine .strange blanks_nil (Quoted.written_plain (by decide)) (fun field hspells => ?_)
      blanks_nil hlist
    have := hspells.unique (Quoted.spells_plain "seen".toList)
    cases field <;> cases this
  have hbound : Member.Written (.given .bound (-5))
      (keyed [' '] Field.bound.key.toList [] ([' '] ++ ((toString (-5 : Int64)).toList ++ []))) :=
    .given (by decide) (Field.written_key .bound) (Quoted.spells_plain _) blanks_nil (by decide)
      blanks_nil
  exact .full blanks_nil (.more hseen (.one hbound)) blanks_nil

theorem read_tolerant_noted :
    Object notedMembers noted.toList ∧ Once notedMembers ∧ Legible notedMembers ∧
      read noted = .ok { bound := -5 } := by
  have honce : Once notedMembers := by decide
  have hlegible : Legible notedMembers := by
    intro key hkey
    rcases List.mem_cons.mp hkey with heq | hkey
    · cases heq
      exact ⟨_, Quoted.spells_plain _⟩
    · cases List.mem_singleton.mp hkey
  exact ⟨object_noted, honce, hlegible,
    read_tolerant.2 notedMembers noted object_noted honce hlegible⟩

/-- A text with half a pair of units as a key. -/
def halved : String := "\x7b\"\\ud800\":0\x7d"

/-- Keys have to spell texts: without that, an object that gives nothing is
not read as the defaults. -/
theorem read_not_tolerant_of_halved :
    ¬((∀ settings : Settings, read settings.written = .ok settings) ∧
      ∀ (members : List Member) (text : String), Object members text.toList → Once members →
        read text = .ok (ofMembers members)) := by
  intro h
  have hhalf : Quoted.Written "\\ud800".toList [.unit 0xD800] := .unit rfl .nil
  have hspell : ∀ text, ¬Quoted.Spells [.unit 0xD800] text := fun _ hspells => by
    cases hspells.spell?
  have hzero : Derives .element ['0'] :=
    .element blanks_nil (.numeral (.unsigned .zero .absent .absent)) blanks_nil
  have hobject : Object [.strange [.unit 0xD800]] halved.toList :=
    .full blanks_nil (.one (.strange blanks_nil hhalf (fun _ => hspell _) blanks_nil hzero)) blanks_nil
  have hillegible : ¬Legible [.strange [.unit 0xD800]] := fun hlegible =>
    (hlegible _ List.mem_cons_self).elim fun text => hspell text
  have hread := h.2 _ halved hobject List.nodup_nil
  rw [read_object_illegible hobject List.nodup_nil hillegible] at hread
  cases hread

end WriteBack.Settings
