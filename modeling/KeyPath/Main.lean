import KeyPath.Command.Help
import KeyPath.Command.Run
/-!
# The executable

Reads what a run needs, runs the command, prints what it answers.
-/

open KeyPath KeyPath.Command

def KeyPath.Command.statusOf (path : String) : IO PathStatus := do
  match ← (IO.FS.readBinFile path).toBaseIO with
  | .ok bytes => return .file bytes
  | .error e =>
    match e with
    | .noFileOrDirectory _ _ _ => return .missing
    | .permissionDenied _ _ cause => return .file (.unreadable cause)
    | .hardwareFault _ cause => return .file (.unreadable cause)
    | _ => return .directory

def KeyPath.Command.readStdin : IO Content := do
  match ← (IO.FS.readBinFile "/dev/stdin").toBaseIO with
  | .ok bytes => return bytes
  | .error e => return .unreadable e.toString

def KeyPath.Command.worldFor (arguments : Arguments) : IO World := do
  let logFilter ← IO.getEnv "RUST_LOG"
  match arguments.input with
  | some path =>
    let status ← statusOf path
    return ⟨fun p => if p = path then status else .missing, ByteArray.empty, logFilter⟩
  | none =>
    return ⟨fun _ => .missing, ← readStdin, logFilter⟩

def main (words : List String) : IO UInt32 := do
  match Arguments.parse words with
  | .error e =>
    match e with
    | .helpRequested => IO.println help
    | _ => IO.eprintln usage
    return UInt32.ofNat e.exitCode
  | .ok arguments =>
    let response := arguments.respond (← worldFor arguments)
    for line in response.log do IO.eprintln line
    IO.print response.stdout
    for text in response.failure do IO.eprintln text
    return UInt32.ofNat response.exitCode
