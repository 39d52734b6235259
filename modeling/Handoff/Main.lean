import Handoff.CommandLine
/-!
# The program

Reads the environment and standard input, runs the pipeline on what it read, and writes the output,
the log and the complaint.
-/
namespace Handoff.CommandLine

/-- Variables that the program looks at. -/
def variableNames : List String :=
  ["PIPELINE_BUFFER_TYPE", "PIPELINE_SHUTDOWN_TIMEOUT_MS", "PIPELINE_INBOUND_CAPACITY",
    "OTEL_SERVICE_NAME", "PIPELINE_LOG_LEVEL", "RUST_LOG", "PIPELINE_CONSOLE_OUTPUT",
    "PIPELINE_JSON_LOGS", "KUBERNETES_SERVICE_HOST", "DOCKER_CONTAINER"]

def readEnvironment : IO Environment := do
  let rows ← variableNames.filterMapM fun name => do
    let value ← IO.getEnv name
    return value.map fun text => (name, Text.Utf8.encode text)
  return ⟨⟨rows⟩⟩

/-- Reads to the end of the input. -/
partial def readAll (stream : IO.FS.Stream) (soFar : ByteArray) : IO ByteArray := do
  let piece ← stream.read 65536
  if piece.isEmpty then return soFar else readAll stream (soFar ++ piece)

def quoted (s : String) : String := String.ofList (Json.quote s.toList)

def fieldText : FieldValue → String
  | .text s => quoted s
  | v => v.plain

/-- An event as one line of JSON. -/
def jsonLine (e : Event) : String :=
  let fields := ("message", FieldValue.text e.message) :: e.fields
  let members := fields.map fun (name, v) => quoted name ++ ":" ++ fieldText v
  "\x7b\"level\":" ++ quoted e.level.name ++ ",\"fields\":\x7b" ++ ",".intercalate members ++
    "\x7d,\"target\":" ++ quoted e.origin ++ "\x7d"

/-- An event as one line of text. -/
def plainLine (e : Event) : String :=
  let fields := e.fields.map fun (name, v) => " " ++ name ++ "=" ++ v.plain
  e.level.name ++ " " ++ e.origin ++ ": " ++ e.message ++ String.join fields

def present (o : Outcome) : IO Unit := do
  let output ← IO.getStdout
  let errors ← IO.getStderr
  output.write ⟨o.output.toArray⟩
  output.flush
  let json := (o.log.map (·.json)).getD false
  for e in o.written do
    errors.putStrLn (if json then jsonLine e else plainLine e)
  for text in o.complaint do
    errors.putStrLn text

end Handoff.CommandLine

def main : IO UInt32 := do
  let env ← Handoff.CommandLine.readEnvironment
  let input ← Handoff.CommandLine.readAll (← IO.getStdin) ByteArray.empty
  let outcome := Handoff.CommandLine.run { env, input := input.toList }
  Handoff.CommandLine.present outcome
  return UInt32.ofNat outcome.code
