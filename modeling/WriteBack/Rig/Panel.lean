/-
# Panels — switches that make calls fail

A panel sits in front of a medium.  Each of its fault points can be armed,
to fail every call until it is cleared or to fail just once; arming a point
again replaces what was armed there.  A panel counts the calls that reach
it, failed ones included.

A read meets two points in turn: it may fail outright, and if it does not it
may be made to deliver nothing.  A read that fails outright does not touch
what is armed for short reads.
-/
import WriteBack.Medium

namespace WriteBack.Rig

/-- How long an armed point stays armed. -/
inductive Arming where
  | always
  | once
deriving DecidableEq, Repr

/-- What is armed at each point, and how many calls came by. -/
structure Panel where
  readAt : Option Arming := none
  shortRead : Option Arming := none
  writeAppend : Option Arming := none
  sync : Option Arming := none
  reads : Nat := 0
  appends : Nat := 0
  syncs : Nat := 0
deriving DecidableEq, Repr

namespace Panel

def armed (panel : Panel) : Point → Option Arming
  | .readAt => panel.readAt
  | .shortRead => panel.shortRead
  | .writeAppend => panel.writeAppend
  | .sync => panel.sync

/-- The panel with something else armed, or nothing, at a point. -/
def set (panel : Panel) (arming : Option Arming) : Point → Panel
  | .readAt => { panel with readAt := arming }
  | .shortRead => { panel with shortRead := arming }
  | .writeAppend => { panel with writeAppend := arming }
  | .sync => { panel with sync := arming }

def arm (panel : Panel) (point : Point) (arming : Arming) : Panel :=
  panel.set (some arming) point

/-- Disarms every point; the counts stay. -/
def clear (panel : Panel) : Panel :=
  { reads := panel.reads, appends := panel.appends, syncs := panel.syncs }

/-- Whether a call at the point fails.  What was armed for once is used up
by that. -/
def trip (panel : Panel) (point : Point) : Bool × Panel :=
  match panel.armed point with
  | none => (false, panel)
  | some .always => (true, panel)
  | some .once => (true, panel.set none point)

/-! ## What a call meets

Each of these counts the call and says what the panel answers in place of
the medium, or `none` when the call goes through. -/

/-- A read reaches the panel. -/
def meetRead (panel : Panel) : Option Delivery × Panel :=
  match { panel with reads := panel.reads + 1 }.trip .readAt with
  | (true, panel) => (some (.failed (.injected .readAt)), panel)
  | (false, panel) =>
    match panel.trip .shortRead with
    | (true, panel) => (some (.bytes []), panel)
    | (false, panel) => (none, panel)

def meetAppend (panel : Panel) : Option MediumError × Panel :=
  match { panel with appends := panel.appends + 1 }.trip .writeAppend with
  | (true, panel) => (some (.injected .writeAppend), panel)
  | (false, panel) => (none, panel)

def meetSync (panel : Panel) : Option MediumError × Panel :=
  match { panel with syncs := panel.syncs + 1 }.trip .sync with
  | (true, panel) => (some (.injected .sync), panel)
  | (false, panel) => (none, panel)

theorem meetRead_fst (panel : Panel) :
    panel.meetRead.1 = none ∨ panel.meetRead.1 = some (.bytes []) ∨
      panel.meetRead.1 = some (.failed (.injected .readAt)) := by
  unfold meetRead
  split
  · simp
  · split <;> simp

end Panel

end WriteBack.Rig
