import SwiftStyle.Text.Width.Tables

/-!
The number of columns a character takes on a terminal: two for a wide character, and none for a
control character or a mark that combines with what stands before it. The answer depends on the
version of the Unicode Character Database.
-/

namespace SwiftStyle.Text

/-- A version of the Unicode Character Database that widths are taken from. -/
inductive UnicodeVersion where
  /-- Version 15.1, for lines of source code. -/
  | v15
  /-- Version 17, for running text. -/
  | v17
  deriving DecidableEq, Repr

/-- Whether a character takes no column. -/
def isEmptyAt (version : UnicodeVersion) (c : Char) : Bool :=
  match version with
  | .v15 =>
    (Width.empty.contains c && !Width.emptyLater.contains c) || Width.emptyBefore.contains c
  | .v17 => Width.empty.contains c

/-- Whether a character takes two columns, unless it takes none. -/
def isWideAt (version : UnicodeVersion) (c : Char) : Bool :=
  match version with
  | .v15 => Width.wide.contains c && !Width.wideLater.contains c
  | .v17 => Width.wide.contains c

/-- The columns of a character. The Khmer sign for "and so forth" is drawn as three signs. -/
def charWidth (version : UnicodeVersion) (c : Char) : Nat :=
  if c.toNat < 0x20 || (0x7f ≤ c.toNat && c.toNat < 0xa0) then 0
  else if c.toNat < 0x7f then 1
  else if c = '\u17d8' then 3
  else if isEmptyAt version c then 0
  else if isWideAt version c then 2
  else 1

end SwiftStyle.Text
