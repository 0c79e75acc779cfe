import ServiceControl.Command.Server
import ServiceControl.Http.Service

/-!
# The gateway process

Starts a gateway for the command line and the files of the working directory, and answers the
requests that come in on standard input: a method, a target and a body on each line.
-/

namespace ServiceControl

/-- The files of the working directory. -/
def readFolder : IO Folder := do
  let entries ← (← IO.currentDir).readDir
  entries.foldlM (fun f e => do
    if ← e.path.isDir then return f
    else return f.insert e.fileName (← IO.FS.readBinFile e.path)) SortedMap.empty

/-- The request on a line. -/
def requestOn? (line : String) : Option Http.Request := do
  let (method, rest) ← Text.cut? " " line
  let (target, body) := (Text.cut? " " rest).getD (rest, "")
  Http.Request.ofParts? method target [] body.toUTF8

/-- Answers requests line by line until the input ends. -/
def answerLines (input output : IO.FS.Stream) (g : Gateway) : IO Gateway := do
  let mut g := g
  repeat
    let line ← input.getLine
    if line.isEmpty then break
    match requestOn? line.trimAscii.toString with
    | none => output.putStrLn "400"
    | some r =>
      let (answer, _, next) := Http.serve g r
      g := next.settle
      output.putStrLn s!"{answer.status} {answer.content.asText}"
    output.flush
  return g

/-- Writes the events for all reports that the log was given. -/
def writeEvents (errors : IO.FS.Stream) (p : Pipeline) : IO Unit := do
  for call in p.callsNamed Log.kind do
    for report in call.reports do
      for event in Log.events report do
        let fields := event.fields.map fun (name, value) => s!"{name}={value}"
        errors.putStrLn (" ".intercalate (event.level.name :: event.message :: fields))

end ServiceControl

open ServiceControl in
/-- Runs the gateway until its input ends. -/
def main (args : List String) : IO UInt32 := do
  let files ← readFolder
  let registries := (({} : Registries).registerBundled 0 true).toOption.getD {}
  match Command.Server.start args files registries with
  | .error refusal =>
    (← IO.getStderr).putStrLn refusal.message
    return refusal.exitCode.toUInt32
  | .ok (_, d) =>
    let g ← answerLines (← IO.getStdin) (← IO.getStdout) d.gateway
    writeEvents (← IO.getStderr) { d with gateway := g }.stop.gateway.pipeline
    return 0
