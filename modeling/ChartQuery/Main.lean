import ChartQuery.Command.Run

/-!
# The command line program

The files of the system, and the program that runs its arguments on them.
-/

namespace ChartQuery.Command

/-- Whether an action on a file succeeds. -/
def succeeds {α : Type} (action : IO α) : IO Bool :=
  try
    let _ ← action
    return true
  catch _ => return false

/-- The files of the system. -/
def systemFiles : FileAccess IO where
  exists? path := succeeds (IO.FS.realPath path)
  read? path :=
    try
      return some (← IO.FS.readFile path)
    catch _ => return none
  append path text := succeeds (do
    let handle ← IO.FS.Handle.mk path .append
    handle.putStr text)

end ChartQuery.Command

/-- Run the arguments of the program. -/
def main (arguments : List String) : IO UInt32 := do
  let home := (← IO.getEnv "HOME").getD "."
  let outcome ← ChartQuery.Command.run ChartQuery.Command.systemFiles home arguments
  IO.print outcome.output
  return UInt32.ofNat outcome.code
