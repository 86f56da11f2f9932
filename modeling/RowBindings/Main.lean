import RowBindings.Program

/-!
# Command line

Runs the program on the arguments of the process and the log setting of its environment.
-/

open RowBindings

/-- Print what a run leaves behind and exit with its code. -/
def main (arguments : List String) : IO UInt32 := do
  let setting ← IO.getEnv "RUST_LOG"
  match Program.run Log.Filter.reading setting arguments with
  | .finished transcript =>
    IO.print transcript.stdout
    transcript.log.forM IO.eprintln
    return UInt32.ofNat transcript.exit
  | .stopped stop =>
    stop.stdout?.forM fun text => IO.print text
    if let .fault fault := stop then fault.message?.forM IO.eprintln
    return UInt32.ofNat stop.exit
  | .brokenOff => throw (IO.userError "the log setting cannot be read")
