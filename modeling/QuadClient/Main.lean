import QuadClient.Demo

/-!
# Command line

Runs the demonstration, with the settings of a file if one is named.
-/

open QuadClient

/-- Shows the demonstration. The status is one if it failed. -/
def main (arguments : List String) : IO UInt32 := do
  let settings ← match arguments with
    | [] => pure (.ok Demo.usualSettings)
    | path :: _ => do
      -- A file that cannot be read counts as one that is not there.
      let bytes ← (IO.FS.readBinFile path).toBaseIO
      pure (Settings.ofBytes bytes.toOption)
  let (shown, failure) := Demo.run settings
  IO.print shown
  match failure with
  | none => return 0
  | some reason =>
    IO.eprintln ("Error: " ++ reason)
    return 1
