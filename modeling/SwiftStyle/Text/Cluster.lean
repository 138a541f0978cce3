import SwiftStyle.Text.Cluster.Classes

/-!
Grapheme clusters: the units in which a reader counts characters. The rules are those of Unicode
Standard Annex 29 for extended clusters. A text is read once from the left; whether a character
starts a cluster depends on its class and on a summary of what stands before it.

`count_append` says that a text is counted piece by piece if the summary is passed on.
-/

namespace SwiftStyle.Text.Cluster

/-- What the boundary rules ask about a character. -/
inductive Class where
  | carriageReturn
  | newline
  | control
  | extender
  | linker
  | nonJoiner
  | joiner
  | spacingMark
  | prepended
  | pictograph
  | consonant
  | regional
  | leadingJamo
  | vowelJamo
  | trailingJamo
  | openSyllable
  | closedSyllable
  | other
  deriving DecidableEq, Repr

/-- The class of a character outside ASCII. -/
def classifyWide (c : Char) : Class :=
  let n := c.toNat
  if 0xac00 ≤ n && n ≤ 0xd7a3 then
    if (n - 0xac00) % 28 = 0 then .openSyllable else .closedSyllable
  else if (0x1100 ≤ n && n ≤ 0x115f) || (0xa960 ≤ n && n ≤ 0xa97c) then .leadingJamo
  else if (0x1160 ≤ n && n ≤ 0x11a7) || (0xd7b0 ≤ n && n ≤ 0xd7c6) || n = 0x16d63
      || (0x16d67 ≤ n && n ≤ 0x16d6a) then .vowelJamo
  else if (0x11a8 ≤ n && n ≤ 0x11ff) || (0xd7cb ≤ n && n ≤ 0xd7fb) then .trailingJamo
  else if 0x1f1e6 ≤ n && n ≤ 0x1f1ff then .regional
  else if n = 0x200c then .nonJoiner
  else if n = 0x200d then .joiner
  else if linkers.contains c then .linker
  else if extenders.contains c then .extender
  else if controls.contains c then .control
  else if spacingMarks.contains c then .spacingMark
  else if prepended.contains c then .prepended
  else if pictographs.contains c then .pictograph
  else if consonants.contains c then .consonant
  else .other

/-- The class of a character. -/
def classify (c : Char) : Class :=
  if c = '\r' then .carriageReturn
  else if c = '\n' then .newline
  else if c.toNat < 0x20 then .control
  else if c.toNat < 0x7f then .other
  else classifyWide c

/-- How far a pictographic sequence has come: not begun, a pictograph and its extenders, or these
and a joiner. -/
inductive Sequence where
  | none
  | begun
  | joined
  deriving DecidableEq, Repr

/-- How far a conjunct has come: not begun, a consonant without a linker yet, or with one. -/
inductive Conjunct where
  | none
  | begun
  | linked
  deriving DecidableEq, Repr

/-- What the rules remember of the text before a place: the class of the last character, whether
an odd number of regional indicators ends there, and the unfinished sequences. -/
structure Context where
  last : Option Class
  oddRegionals : Bool
  pictographs : Sequence
  conjunct : Conjunct
  deriving DecidableEq, Repr

namespace Context

/-- Before the first character. -/
def start : Context := ⟨none, false, .none, .none⟩

/-- Whether a class is set apart from both its neighbours. -/
def separates : Class → Bool
  | .carriageReturn | .newline | .control => true
  | _ => false

/-- Whether two neighbouring parts of a Hangul syllable stay together. -/
def joinsJamo : Class → Class → Bool
  | .leadingJamo, .leadingJamo => true
  | .leadingJamo, .vowelJamo => true
  | .leadingJamo, .openSyllable => true
  | .leadingJamo, .closedSyllable => true
  | .openSyllable, .vowelJamo => true
  | .openSyllable, .trailingJamo => true
  | .vowelJamo, .vowelJamo => true
  | .vowelJamo, .trailingJamo => true
  | .closedSyllable, .trailingJamo => true
  | .trailingJamo, .trailingJamo => true
  | _, _ => false

/-- Whether a class attaches to whatever stands before it. -/
def attaches : Class → Bool
  | .extender | .linker | .nonJoiner | .joiner | .spacingMark => true
  | _ => false

/-- Whether a character of the class starts a new cluster here. -/
def breaksBefore (context : Context) (next : Class) : Bool :=
  match context.last with
  | none => true
  | some last =>
    if last = .carriageReturn && next = .newline then false
    else if separates last || separates next then true
    else if joinsJamo last next || attaches next || last = .prepended then false
    else if context.conjunct = .linked && next = .consonant then false
    else if context.pictographs = .joined && next = .pictograph then false
    else if context.oddRegionals && next = .regional then false
    else true

/-- The context after one more character. -/
def advance (context : Context) (next : Class) : Context where
  last := some next
  oddRegionals := next = .regional && !context.oddRegionals
  pictographs :=
    match next with
    | .pictograph => .begun
    | .extender | .linker | .nonJoiner =>
      if context.pictographs = .begun then .begun else .none
    | .joiner => if context.pictographs = .begun then .joined else .none
    | _ => .none
  conjunct :=
    match next with
    | .consonant => .begun
    | .linker => if context.conjunct = .none then .none else .linked
    | .extender | .joiner => context.conjunct
    | _ => .none

/-- The context after a text. -/
def after (context : Context) (cs : List Char) : Context :=
  cs.foldl (fun context c => context.advance (classify c)) context

end Context

/-- The number of clusters that start in a text which stands in a context. -/
def countFrom (context : Context) : List Char → Nat
  | [] => 0
  | c :: cs =>
    (if context.breaksBefore (classify c) then 1 else 0)
      + countFrom (context.advance (classify c)) cs

/-- The number of clusters of a text. -/
def count (cs : List Char) : Nat := countFrom .start cs

theorem countFrom_append (context : Context) (xs ys : List Char) :
    countFrom context (xs ++ ys) = countFrom context xs + countFrom (context.after xs) ys := by
  induction xs generalizing context with
  | nil => simp [countFrom, Context.after]
  | cons c cs ih => simp [countFrom, ih, Context.after, Nat.add_assoc]

/-- Counting a text in two pieces passes on the context between them. -/
theorem count_append (xs ys : List Char) :
    count (xs ++ ys) = count xs + countFrom (Context.start.after xs) ys :=
  countFrom_append .start xs ys

end SwiftStyle.Text.Cluster
