import WordTrack.Demo

/-! The demo on the command line. The first argument names the least severity
that is logged; without one, errors only are. -/
namespace WordTrack

def printReport (name : String) (report : Demo.Report) : IO UInt32 := do
  for entry in Demo.visible name report.log do
    IO.eprintln ("[" ++ entry.severity.label ++ "] " ++ entry.message)
  for line in report.lines do
    IO.println line
  return report.code

end WordTrack

def main (args : List String) : IO UInt32 :=
  WordTrack.printReport (args.headD "error") WordTrack.Demo.run
