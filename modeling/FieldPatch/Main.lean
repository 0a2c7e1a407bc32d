import FieldPatch.Demo

/-!
# The command line

Runs the demonstration and prints the lines of its log. The first argument, if there is one, is the
text of the log filter; without it only errors are shown.
-/

open FieldPatch in
def main (args : List String) : IO UInt32 := do
  let performance := Demo.perform {} (args.headD "")
  for line in performance.lines do
    IO.println line
  if let some complaint := performance.complaint? then
    IO.eprintln complaint
  return performance.status
