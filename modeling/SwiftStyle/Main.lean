import SwiftStyle.Json.Printer
import SwiftStyle.Json.Reader
import SwiftStyle.Snapshot

/-!
The program: it takes a command line as its arguments and a snapshot of a directory tree as one line
of JSON on standard input, and answers with one line of JSON. Parsing Swift and changing files are
left to the caller.
-/

open SwiftStyle

/-- Answers one snapshot. The exit code is that of the command. -/
def main (arguments : List String) : IO UInt32 := do
  let line ← (← IO.getStdin).getLine
  match (Json.parse? line).bind Snapshot.ofJson? with
  | none =>
    IO.eprintln "There is no snapshot on standard input."
    return 1
  | some snapshot =>
    let outcome := snapshot.run arguments
    IO.println (snapshot.reply outcome).render
    return outcome.exitCode.toUInt32
