import HrPipeline.CommandLine.Settings

/-!
# The command line

The first argument names a program and the others are that program's own. The program's settings
are read from them and from the environment, and shown without starting anything.
-/

namespace HrPipeline.CommandLine

/-- The variables of a program that are set in the environment. -/
def readEnvironment (program : Program) : IO (List (String × String)) :=
  program.flags.filterMapM fun flag => do
    return (← IO.getEnv flag.variableName).map fun value => (flag.variableName, value)

/-- Prints a reply; gives the exit code. -/
def printReply : Reply → IO UInt32
  | .accepted lines => do
    lines.forM fun line => IO.println line
    return 0
  | .usage error => do
    IO.eprintln error.name
    return 2
  | .refused error => do
    IO.eprintln error.message
    return 1

/-- Answers the arguments by the program that the first of them names. -/
def answer : List String → IO UInt32
  | "outbox-worker" :: rest => do
    printReply (workerReply (← readEnvironment workerProgram) rest)
  | "event-consumer" :: rest => do
    printReply (consumerReply (← readEnvironment consumerProgram) rest)
  | _ => do
    IO.eprintln "usage: (outbox-worker | event-consumer) arguments"
    return 2

end HrPipeline.CommandLine

/-- Shows the settings of the program that the first argument names. -/
def main (arguments : List String) : IO UInt32 :=
  HrPipeline.CommandLine.answer arguments
