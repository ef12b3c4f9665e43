import Reckoner.Contract.Pattern.Lexeme

/-!
# Well-formed search patterns

Whether the lexemes of a pattern fit together: parentheses match, a repetition has something to
repeat that is not repeated already, a reference leads to a group that is closed, and what a look
behind looks at has one length only. The lexemes are read from left to right with a stack of open
groups, up to the first fault. The flags of the whole pattern are compared after that, and only then
the groups that conditions refer to, the lengths of what is looked at, and whether there are
repetitions where a flag allows none.
-/

namespace Reckoner
namespace Contract
namespace Pattern

/-- What is wrong with a text as a search pattern. -/
inductive Fault where
  /-- The text does not follow the rules of patterns. -/
  | malformed
  /-- A repetition is asked for too often. -/
  | repetitionTooLarge
  /-- Flags ask for two alphabets. -/
  | opposedFlags
  deriving DecidableEq, Repr

/-- The wording of a fault. -/
def Fault.message : Fault → String
  | malformed => "the text is not a search pattern"
  | repetitionTooLarge => "the repetition number is too large"
  | opposedFlags => "ASCII and UNICODE flags are incompatible"

/-- Repetitions that are too many; up to here a look behind may reach. -/
def repetitionLimit : Nat := 4294967295

/-- How many characters a part of a pattern takes, at least and at most. -/
structure Width where
  least : Nat
  most : Option Nat
  deriving DecidableEq, Repr

namespace Width

/-- No characters. -/
def zero : Width := ⟨0, some 0⟩

/-- One character. -/
def one : Width := ⟨1, some 1⟩

/-- One part after another. -/
def add (a b : Width) : Width :=
  ⟨a.least + b.least, a.most.bind fun m => b.most.map fun n => m + n⟩

/-- One part or another. -/
def join (a b : Width) : Width :=
  ⟨min a.least b.least, a.most.bind fun m => b.most.map fun n => max m n⟩

/-- A part several times. -/
def times (w : Width) (least : Nat) (most : Option Nat) : Width :=
  ⟨w.least * least,
    if w.most = some 0 ∨ most = some 0 then some 0
    else w.most.bind fun m => most.map fun n => m * n⟩

/-- Whether there is one length only, and it is in reach. -/
def isFixed (w : Width) : Bool := w.most == some w.least && w.least ≤ repetitionLimit

end Width

/-- The latest item of a branch. -/
inductive Latest where
  | nothing
  | anchor
  | item (w : Width)
  | repeated (w : Width)
  deriving DecidableEq, Repr

namespace Latest

/-- How many characters the item takes. -/
def width : Latest → Width
  | nothing => .zero
  | anchor => .zero
  | item w => w
  | repeated w => w

end Latest

/-- An open group. -/
structure Frame where
  group : Group := .plain
  /-- Whether its text is loose. -/
  loose : Bool := false
  /-- The group's number, if it has one. -/
  number : Option Nat := none
  /-- How many groups had been opened before. -/
  groupsBefore : Nat := 0
  /-- Bars so far. -/
  bars : Nat := 0
  /-- The branches before the current one. -/
  others : Option Width := none
  /-- The current branch but its latest item. -/
  before : Width := .zero
  latest : Latest := .nothing

namespace Frame

/-- The current branch. -/
def branch (f : Frame) : Width := f.before.add f.latest.width

/-- The whole group so far. -/
def width (f : Frame) : Width :=
  match f.others with
  | none => f.branch
  | some w => w.join f.branch

/-- The group after one more item. -/
def push (latest : Latest) (f : Frame) : Frame := { f with before := f.branch, latest := latest }

end Frame

/-- A reading part of the way through a pattern. -/
structure Reading where
  /-- Open groups, the innermost first, with one for the whole pattern. -/
  top : Frame := {}
  below : List Frame := []
  /-- Names and widths of the numbered groups, in order; an open one has no width yet. -/
  groups : List (Option (List Char) × Option Width) := []
  /-- Numbers that conditions refer to. -/
  awaited : List Nat := []
  /-- The flags of the whole pattern. -/
  given : List Char := []
  /-- Whether what is looked at behind has always had one length. -/
  fixedBehind : Bool := true
  /-- Whether anything is repeated. -/
  repeats : Bool := false

namespace Reading

/-- The reading after one more item. -/
def push (latest : Latest) (r : Reading) : Reading := { r with top := r.top.push latest }

/-- The number of the group that a reference names. -/
def number? (r : Reading) : Reference → Option Nat
  | .number n => some n
  | .name cs =>
      let i := r.groups.findIdx fun g => g.1 == some cs
      if i < r.groups.length then some (i + 1) else none

/-- The width of a group that is closed. -/
def closed? (r : Reading) (number : Nat) : Option Width :=
  (r.groups[number - 1]?).bind fun g => if number = 0 then none else g.2

/-- How many groups had been opened before the outermost look behind, inside of one. -/
def behindLimit? (r : Reading) : Option Nat :=
  ((r.top :: r.below).reverse.find? fun f => f.group == .lookBehind).map Frame.groupsBefore

/-- Whether a look behind, if there is one, allows a reference to a group. -/
def allows (r : Reading) (number : Nat) : Bool :=
  match r.behindLimit? with
  | none => true
  | some limit => (r.closed? number).isSome && number ≤ limit

/-- A reference back. -/
def refer (r : Reading) (target : Reference) : Option Reading :=
  match r.number? target with
  | none => none
  | some n =>
      match r.closed? n with
      | some w => if r.allows n then some (r.push (.item w)) else none
      | none => none

/-- Whether the text in a group is loose, if it is around the group. -/
def isLooseIn (around : Bool) : Group → Bool
  | .flagged on off => (around || on.contains looseFlag) && !off.contains looseFlag
  | _ => around

/-- The reading inside one more group. -/
def nest (r : Reading) (group : Group) : Reading :=
  { r with
    top :=
      { group := group, loose := isLooseIn r.top.loose group, groupsBefore := r.groups.length }
    below := r.top :: r.below }

/-- The start of a group. -/
def openGroup (r : Reading) (group : Group) : Option Reading :=
  match group with
  | .numbered name =>
      if name.isSome && r.groups.any fun g => g.1 == name then none
      else
        let inner := r.nest group
        some { inner with
          groups := r.groups ++ [(name, none)]
          top := { inner.top with number := some (r.groups.length + 1) } }
  | .choice condition =>
      match r.number? condition with
      | none => none
      | some n =>
          if r.allows n then some { r.nest group with awaited := n :: r.awaited } else none
  | _ => some (r.nest group)

/-- The width of a group that is closed, as seen from outside. -/
def outerWidth (f : Frame) : Width :=
  match f.group with
  | .lookAhead => .zero
  | .lookBehind => .zero
  | .choice _ => if f.bars = 0 then f.width.join .zero else f.width
  | _ => f.width

/-- The end of a group inside another. -/
def closeGroup (r : Reading) (outer : Frame) (below : List Frame) : Reading :=
  let w := outerWidth r.top
  let groups :=
    match r.top.number with
    | some n => r.groups.modify (n - 1) fun g => (g.1, some w)
    | none => r.groups
  { r with
    top := outer.push (.item w)
    below := below
    groups := groups
    fixedBehind := r.fixedBehind && (r.top.group != .lookBehind || r.top.width.isFixed) }

/-- The start of a further branch; a choice has two. -/
def bar (r : Reading) : Option Reading :=
  let twoOnly :=
    match r.top.group with
    | .choice _ => true
    | _ => false
  if twoOnly && r.top.bars = 1 then none
  else
    some { r with
      top := { r.top with
        bars := r.top.bars + 1
        others := some r.top.width
        before := .zero
        latest := .nothing } }

/-- Flags stand before everything else. -/
def flags (r : Reading) (given : List Char) : Option Reading :=
  if r.below.isEmpty && r.top.bars = 0 && r.top.latest = .nothing then
    some { r with
      given := r.given ++ given
      top := { r.top with loose := r.top.loose || given.contains looseFlag } }
  else none

/-- The latest item several times. -/
def repeatLatest (r : Reading) (least : Nat) (most : Option Nat) : Option Reading :=
  match r.top.latest with
  | .item w =>
      some { r with
        top := { r.top with latest := .repeated (w.times least most) }
        repeats := true }
  | _ => none

/-- Whether flags of the whole pattern exclude each other. -/
def hasOpposedFlags (r : Reading) : Bool := alphabetFlags.all r.given.contains

/-- The reading that follows, or the fault of a part that does not fit. -/
def orMalformed : Option Reading → Except Fault Reading
  | some r => .ok r
  | none => .error .malformed

/-- One lexeme. A parenthesis that closes nothing ends the pattern. -/
def step (r : Reading) : Lexeme → Except Fault Reading
  | .character => .ok (r.push (.item .one))
  | .anchor => .ok (r.push .anchor)
  | .nothing => .ok r
  | .flags given => orMalformed (r.flags given)
  | .repetition least most =>
      if repetitionLimit ≤ least || most.any fun n => repetitionLimit ≤ n then
        .error .repetitionTooLarge
      else if most.any fun n => n < least then .error .malformed
      else orMalformed (r.repeatLatest least most)
  | .back target => orMalformed (r.refer target)
  | .bar => orMalformed r.bar
  | .opening group => orMalformed (r.openGroup group)
  | .closing =>
      match r.below with
      | outer :: below => .ok (r.closeGroup outer below)
      | [] => .error (if r.hasOpposedFlags then .opposedFlags else .malformed)

/-- Whether a pattern that ends here keeps the rules that concern all of it. -/
def isComplete (r : Reading) : Bool :=
  r.fixedBehind && !(r.repeats && r.given.contains templateFlag) &&
    r.awaited.all fun n => n ≤ r.groups.length

/-- What is wrong with a pattern that ends here. -/
def endFault? (r : Reading) : Option Fault :=
  if !r.below.isEmpty then some .malformed
  else if r.hasOpposedFlags then some .opposedFlags
  else if r.isComplete then none
  else some .malformed

/-- What is wrong with a pattern that goes on with a text of at most `fuel` lexemes. -/
def faultWithin? : Nat → Reading → List Char → Option Fault
  | _, r, [] => r.endFault?
  | 0, _, _ => some .malformed
  | fuel + 1, r, c :: rest =>
      match lexeme? r.top.loose c rest with
      | none => some .malformed
      | some (l, rest) =>
          match r.step l with
          | .error f => some f
          | .ok r => faultWithin? fuel r rest

end Reading

/-- What is wrong with a text as a search pattern; each lexeme takes at least one character. -/
def fault? (cs : List Char) : Option Fault := Reading.faultWithin? cs.length {} cs

end Pattern
end Contract
end Reckoner
