import SwiftStyle.Text.LineBreak.Classes

/-!
Line breaks: the places at which a line of a text may end. The rules are those of Unicode Standard
Annex 14 without tailoring. A text is read once from the left; whether a line may end before a
character depends on its class and on a summary of what stands before it.

`length_breaksBefore` says that every character has an answer.
-/

namespace SwiftStyle.Text.LineBreak

/-- What the rules ask about a character. -/
inductive Class where
  | carriageReturn
  | lineFeed
  | hardBreak
  | space
  | zeroWidthSpace
  | wordJoiner
  | joiner
  | mark
  | glue
  | breakAfter
  | breakBefore
  | breakBoth
  | hyphen
  | contingent
  | narrowOpener
  | wideOpener
  | closer
  | parenthesis
  | exclamation
  | quotation
  | nonStarter
  | leader
  | slash
  | numeral
  | beforeNumber
  | afterNumber
  | withinNumber
  | letter
  | hebrewLetter
  | ideograph
  | emojiBase
  | emojiModifier
  | regional
  | leadingJamo
  | vowelJamo
  | trailingJamo
  | openSyllable
  | closedSyllable
  deriving DecidableEq, Repr

/-- The classes that have a table. -/
def tables : List (Class × CharSet) :=
  [(.mark, marks), (.ideograph, ideographs), (.breakAfter, breakAfters), (.closer, closers),
    (.emojiBase, emojiBases), (.numeral, numerals), (.narrowOpener, narrowOpeners),
    (.wideOpener, wideOpeners), (.nonStarter, nonStarters), (.exclamation, exclamations),
    (.beforeNumber, beforeNumbers), (.afterNumber, afterNumbers), (.breakBefore, breakBefores),
    (.glue, glue), (.quotation, quotations), (.hebrewLetter, hebrewLetters),
    (.withinNumber, withinNumbers), (.leader, leaders)]

/-- The class of a character that has no table of its own. -/
def classifyAlone? (c : Char) : Option Class :=
  let n := c.toNat
  if c = ' ' then some .space
  else if c = '\n' then some .lineFeed
  else if c = '\r' then some .carriageReturn
  else if c = '-' then some .hyphen
  else if c = '/' then some .slash
  else if c = ')' || c = ']' then some .parenthesis
  else if n = 0xb || n = 0xc || n = 0x85 || n = 0x2028 || n = 0x2029 then some .hardBreak
  else if n = 0x200b then some .zeroWidthSpace
  else if n = 0x200d then some .joiner
  else if n = 0x2060 || n = 0xfeff then some .wordJoiner
  else if n = 0x2014 || n = 0x2e3a || n = 0x2e3b then some .breakBoth
  else if n = 0xfffc then some .contingent
  else if 0xac00 ≤ n && n ≤ 0xd7a3 then
    some (if (n - 0xac00) % 28 = 0 then .openSyllable else .closedSyllable)
  else if (0x1100 ≤ n && n ≤ 0x115f) || (0xa960 ≤ n && n ≤ 0xa97c) then some .leadingJamo
  else if (0x1160 ≤ n && n ≤ 0x11a7) || (0xd7b0 ≤ n && n ≤ 0xd7c6) then some .vowelJamo
  else if (0x11a8 ≤ n && n ≤ 0x11ff) || (0xd7cb ≤ n && n ≤ 0xd7fb) then some .trailingJamo
  else if 0x1f1e6 ≤ n && n ≤ 0x1f1ff then some .regional
  else if 0x1f3fb ≤ n && n ≤ 0x1f3ff then some .emojiModifier
  else none

/-- The class of a character. -/
def classify (c : Char) : Class :=
  match classifyAlone? c with
  | some found => found
  | none => ((tables.find? fun (_, set) => set.contains c).map Prod.fst).getD .letter

namespace Class

/-- Whether a line always ends after a character of the class. -/
def endsLine : Class → Bool
  | carriageReturn | lineFeed | hardBreak => true
  | _ => false

/-- Whether a character of the class takes part in what stands before it. -/
def attaches : Class → Bool
  | mark | joiner => true
  | _ => false

/-- Whether marks attach to a character of the class. -/
def takesMarks : Class → Bool
  | carriageReturn | lineFeed | hardBreak | zeroWidthSpace => false
  | _ => true

/-- Whether no line ends before a character of the class, even after spaces. -/
def closes : Class → Bool
  | closer | parenthesis | exclamation | withinNumber | slash => true
  | _ => false

/-- Whether a class holds opening punctuation. -/
def opens : Class → Bool
  | narrowOpener | wideOpener => true
  | _ => false

/-- Whether a class holds letters. -/
def isLetter : Class → Bool
  | letter | hebrewLetter => true
  | _ => false

/-- Whether a class holds ideographs or emoji. -/
def isIdeographic : Class → Bool
  | ideograph | emojiBase | emojiModifier => true
  | _ => false

/-- Whether a class holds Hangul. -/
def isHangul : Class → Bool
  | leadingJamo | vowelJamo | trailingJamo | openSyllable | closedSyllable => true
  | _ => false

/-- Whether spaces between two classes do not matter and no line ends there. -/
def holdsAcrossSpaces : Class → Class → Bool
  | quotation, next => next.opens
  | closer, next | parenthesis, next => next = nonStarter
  | breakBoth, next => next = breakBoth
  | last, _ => last.opens

/-- Whether two neighbours belong to a number or stand beside one. -/
def joinsNumber : Class → Class → Bool
  | closer, afterNumber | parenthesis, afterNumber | numeral, afterNumber => true
  | closer, beforeNumber | parenthesis, beforeNumber | numeral, beforeNumber => true
  | afterNumber, next | beforeNumber, next => next.opens || next = numeral
  | hyphen, numeral | withinNumber, numeral | numeral, numeral | slash, numeral => true
  | _, _ => false

/-- Whether two neighbouring parts of a Hangul syllable stay together. -/
def joinsJamo : Class → Class → Bool
  | leadingJamo, leadingJamo | leadingJamo, vowelJamo => true
  | leadingJamo, openSyllable | leadingJamo, closedSyllable => true
  | openSyllable, vowelJamo | openSyllable, trailingJamo => true
  | vowelJamo, vowelJamo | vowelJamo, trailingJamo => true
  | closedSyllable, trailingJamo | trailingJamo, trailingJamo => true
  | _, _ => false

/-- Whether two neighbouring words or signs stay together. -/
def joinsWords (last next : Class) : Bool :=
  (last.isLetter && (next.isLetter || next = numeral || next = narrowOpener))
    || (last = numeral && (next.isLetter || next = narrowOpener))
    || (last = parenthesis && (next.isLetter || next = numeral))
    || (last = withinNumber && next.isLetter)
    || (last = slash && next = hebrewLetter)
    || ((last = beforeNumber || last = afterNumber) && next.isLetter)
    || (last.isLetter && (next = beforeNumber || next = afterNumber))
    || (last = beforeNumber && (next.isIdeographic || next.isHangul))
    || ((last.isIdeographic || last.isHangul) && next = afterNumber)
    || (last = emojiBase && next = emojiModifier)

/-- Whether a character of the first class holds on to one of the second that comes right after. -/
def staysWith (last next : Class) : Bool :=
  next = breakAfter || next = hyphen || next = nonStarter || next = leader || last = breakBefore
    || joinsNumber last next || joinsJamo last next || joinsWords last next

end Class

/-- What the rules remember of the text before a place: the class of the last character that is
neither a space nor attached to another one, whether spaces follow it, whether the very last
character is a joiner, whether an odd number of regional indicators ends there, and whether the
last two characters are a Hebrew letter and a hyphen. -/
structure Context where
  last : Option Class
  spaced : Bool
  joined : Bool
  oddRegionals : Bool
  hebrewHyphen : Bool
  deriving DecidableEq, Repr

namespace Context

/-- Before the first character. -/
def start : Context := ⟨none, false, false, false, false⟩

/-- Whether a character of the class attaches to the last one. -/
def takes (context : Context) (next : Class) : Bool :=
  next.attaches && !context.spaced && (context.last.map Class.takesMarks).getD false

/-- The class that a character acts as here: one that would attach but cannot is a letter. -/
def role (next : Class) : Class := if next.attaches then .letter else next

/-- Whether a line may end between the last character and one right after it. -/
def breaksBetween (context : Context) (last next : Class) : Bool :=
  if next = .glue && last ≠ .breakAfter && last ≠ .hyphen then false
  else if last = .quotation || next = .quotation then false
  else if last = .contingent || next = .contingent then true
  else if context.hebrewHyphen || (context.oddRegionals && next = .regional) then false
  else !last.staysWith next

/-- Whether a line may end before a character of the class. -/
def breaksBefore (context : Context) (next : Class) : Bool :=
  match context.last with
  | none => context.spaced && !(next.endsLine || next = .space || next = .zeroWidthSpace
      || next = .wordJoiner || next.closes)
  | some last =>
    if !context.spaced && last.endsLine then !(last = .carriageReturn && next = .lineFeed)
    else if next.endsLine || next = .space || next = .zeroWidthSpace then false
    else if last = .zeroWidthSpace then true
    else if context.joined || context.takes next then false
    else
      let next := role next
      if next = .wordJoiner || (last = .wordJoiner && !context.spaced) then false
      else if last = .glue && !context.spaced then false
      else if next.closes || last.holdsAcrossSpaces next then false
      else context.spaced || context.breaksBetween last next

/-- The context after one more character. -/
def advance (context : Context) (next : Class) : Context :=
  if next = .space then { context with spaced := true, joined := false }
  else if context.takes next then { context with joined := next = .joiner }
  else
    let role := role next
    { last := some role
      spaced := false
      joined := next = .joiner
      oddRegionals := role = .regional && !(context.oddRegionals && !context.spaced)
      hebrewHyphen := (role = .hyphen || role = .breakAfter)
        && context.last = some .hebrewLetter && !context.spaced }

/-- For each character of a text whether a line may end before it, given the context. -/
def breaks (context : Context) : List Char → List Bool
  | [] => []
  | c :: cs =>
    let next := classify c
    context.breaksBefore next :: breaks (context.advance next) cs

end Context

/-- For each character of a text whether a line may end before it. -/
def breaksBefore (cs : List Char) : List Bool := Context.start.breaks cs

@[simp]
theorem Context.length_breaks (context : Context) (cs : List Char) :
    (context.breaks cs).length = cs.length := by
  induction cs generalizing context with
  | nil => rfl
  | cons c cs ih => simp [breaks, ih]

/-- Every character of a text has an answer. -/
@[simp]
theorem length_breaksBefore (cs : List Char) : (breaksBefore cs).length = cs.length :=
  Context.start.length_breaks cs

end SwiftStyle.Text.LineBreak
