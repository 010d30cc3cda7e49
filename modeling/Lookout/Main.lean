import Lookout.Cli.Program
import Lookout.Json.Printer
import Lookout.Platform.Entry

/-! # The executable
The outer layer of the program: it finds out what the files hold and what time it is, and hands out
what `Cli.start`, `Cli.Watch.refresh` and `Cli.Watch.conclude` say. -/

namespace Lookout

open Cli (Invocation Output Result Watch)

/-- Why a file could not be read. -/
def faultOf : IO.Error → ReadFault
  | .noFileOrDirectory .. => .notFound
  | .inappropriateType _ 20 _ => .notDirectory
  | .inappropriateType _ 21 _ => .isDirectory
  | e => .other (toString e)

/-- The text of a file, or why it has none. -/
def readText (path : String) : IO (Except ReadFault String) := do
  try
    return (Entry.file (← IO.FS.readBinFile path)).read
  catch e =>
    return .error (faultOf e)

/-- The layers of the configuration: that of the user, and that of the project. -/
def readLayers : IO (List Layer) := do
  let home ← IO.getEnv "HOME"
  let project ← IO.currentDir
  ((home.filter (· ≠ "")).toList ++ [project.toString]).mapM fun directory => do
    let path := Layer.pathUnder directory
    return ⟨path, ← readText path⟩

/-- Give something out. -/
def emit (quiet : Bool) : Output → IO Unit
  | .answer text => do
    let stdout ← IO.getStdout
    stdout.putStr text
    stdout.flush
  | .notice line => IO.eprintln line
  | .event e => do if Output.isLogged quiet e then IO.eprintln e.toTree.compact

/-- Wait for so many milliseconds. -/
partial def pause (ms : Nat) : IO Unit := do
  let now := min ms 1000000000
  IO.sleep now.toUInt32
  if now < ms then pause (ms - now)

/-- Watch until the watch ends. -/
partial def follow (quiet : Bool) (path : String) (w : Watch) : IO Result := do
  let begun ← IO.monoMsNow
  pause w.backend.latency
  let (w, output, verdict) := w.refresh (← readText path)
  output.forM (emit quiet)
  match verdict with
  | some v => return w.conclude v
  | none =>
    let passed := (← IO.monoMsNow) - begun
    pause (w.poller.interval - passed % w.poller.interval)
    follow quiet path w

/-- Run a command, and say how it ended. -/
def run (i : Invocation) : IO UInt32 := do
  let layers ← readLayers
  let source := i.source? layers
  let file ← source.mapM fun (_, path) => readText path
  let result ← match Cli.start ⟨layers, fun _ => file.getD (.error .notFound)⟩ i with
    | .done r => do
      if r.failure.isNone then pause ((source.map fun (c, _) => c.effectiveLatency).getD 0)
      pure r
    | .watching output path w => do
      output.forM (emit i.quiet)
      follow i.quiet path w
  (result.close i.command).output.forM (emit i.quiet)
  return if result.failure.isSome then 1 else 0

end Lookout

/-- Read the command line and do what it says. -/
def main (args : List String) : IO UInt32 := do
  match Lookout.Cli.Invocation.parse args with
  | .ok i => Lookout.run i
  | .error r => do
    if r.exitCode = 0 then IO.print r.text else IO.eprint r.text
    return r.exitCode.toUInt32
