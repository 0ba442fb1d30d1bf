import MediaSearch.Command.Arguments
import MediaSearch.Command.Help
import MediaSearch.Command.Run

set_option autoImplicit false

namespace MediaSearch.Command

/-- The reason of a system error, by its number, which some calls give with a minus sign. -/
def reasonOf (code : UInt32) (details : String) : FileError :=
  match code.toInt32.toInt.natAbs with
  | 2 => .missing
  | 13 => .denied
  | 20 => .notDirectory
  | 21 => .isDirectory
  | code => .refused details code

def systemError : IO.Error → FileError
  | .alreadyExists _ code details => reasonOf code details
  | .otherError code details => reasonOf code details
  | .resourceBusy code details => reasonOf code details
  | .resourceVanished code details => reasonOf code details
  | .unsupportedOperation code details => reasonOf code details
  | .hardwareFault code details => reasonOf code details
  | .unsatisfiedConstraints code details => reasonOf code details
  | .illegalOperation code details => reasonOf code details
  | .protocolError code details => reasonOf code details
  | .timeExpired code details => reasonOf code details
  | .interrupted _ code details => reasonOf code details
  | .noFileOrDirectory _ code details => reasonOf code details
  | .invalidArgument _ code details => reasonOf code details
  | .permissionDenied _ code details => reasonOf code details
  | .resourceExhausted _ code details => reasonOf code details
  | .inappropriateType _ code details => reasonOf code details
  | .noSuchThing _ code details => reasonOf code details
  | .unexpectedEof => .refused "Unexpected end of file" 0
  | .userError details => .refused details 0

def attempt {α : Type} (run : IO α) : IO (Except FileError α) := do
  try return .ok (← run)
  catch error => return .error (systemError error)

def lookAt (path : Path) : IO (Except FileError Entry) := do
  match ← attempt (IO.FS.readBinFile path.text) with
  | .ok bytes => return .ok (.file bytes)
  | .error .isDirectory => return .ok .directory
  | .error .missing => return .error .missing
  | .error .notDirectory => return .error .notDirectory
  | .error reason => return .ok (.locked reason)

def lookAround (place : Place) : IO Look := do
  let seen ← place.watched.mapM fun path => return (path, ← lookAt path)
  return fun path => (seen.lookup path).getD (.error .missing)

/-- The working directory and the home directory. The working directory is unknown only if it has
been removed. -/
def findPlace : IO Place := do
  let directory ←
    match ← attempt IO.currentDir with
    | .ok file => pure (.ok ⟨file.toString⟩)
    | .error _ => pure (.error .missing)
  let home := (← IO.getEnv "HOME").filter (!·.isEmpty)
  return { directory, home := home.map (⟨·⟩) }

def Action.execute : Action → IO Report
  | .finish report => return report
  | .write path text report => do
    match ← attempt (IO.FS.writeBinFile path.text text.toUTF8) with
    | .ok () => return report none
    | .error reason => return report (some reason)

def runRequest (request : Request) : IO UInt32 := do
  let place ← findPlace
  let report ← (request.action (← lookAround place) place).execute
  IO.print report.output
  IO.eprint (report.errors (.named (← IO.getEnv "ADVQ_LOG")))
  return report.exitCode.toUInt32

def printUsage (usage : Usage) : IO UInt32 := do
  IO.print usage.output
  IO.eprint usage.errors
  return usage.exitCode.toUInt32

end MediaSearch.Command

open MediaSearch.Command in
def main (arguments : List String) : IO UInt32 :=
  match parseArguments arguments with
  | .ok request => runRequest request
  | .error usage => printUsage usage
