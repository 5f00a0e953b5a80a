import WifiStation.Cli.Plan

/-!
# WifiStation.Main

The program: reads its command line, follows the plan of it, and prints how that ends.

All decisions are in the plan. The program itself looks at files and at its environment; it has no
way to the network, so it finds nobody to ask and nobody to send to, and no interface to run a
daemon on.
-/

namespace WifiStation.Cli

/-- Looks at what stands at a path. -/
def lookAt (path : String) : IO Place := do
  try
    let content ← IO.FS.readBinFile path
    return .file content.toList
  catch
    | .noFileOrDirectory .. => return .absent
    | .inappropriateType .. => return .directory
    | _ => return .unreachable

/-- Follows a plan to its end; gives the code to exit with. -/
def Plan.perform : Plan → IO UInt32
  | .done ending => do
    (← IO.getStdout).putStr ending.out
    (← IO.getStderr).putStr ending.err
    return UInt32.ofNat ending.code
  | .look path next => do
    let place ← lookAt path
    (next place).perform
  | .fetch _ _ next => (next none).perform
  | .deliver _ _ next => (next (some PlaceError.notFound.message)).perform
  | .serve settings next =>
    (next (some (.kernel (.linkNotFound settings.supplicant.interface)))).perform

end WifiStation.Cli

/-- Runs the program with its arguments. -/
def main (arguments : List String) : IO UInt32 := do
  let psk ← IO.getEnv "WLINKD_PSK"
  (WifiStation.Cli.plan psk arguments).perform
