import DeferredDigest.Http.Front
import DeferredDigest.Server.Config
/-!
# The server program

Reads the options from the command line, then serves requests read one per line from standard
input (see `Request.ofLine?`), writing one response line each.  Background digests fall due by the
wall clock.  The program stops once a shutdown request has drained the service, or at the end of
the input, and then waits up to the shutdown timeout for digests still running.
-/

namespace DeferredDigest.Program

/-- Lets the service's clock catch up with the milliseconds elapsed since `start`. -/
def catchUp (s : Service) (start : Nat) : IO Service := do
  let now ← IO.monoMsNow
  return s.advance (now - start - s.worker.clock)

/-- Serves request lines until the service has drained after a shutdown, or the input ends. -/
partial def serve (stdin stdout : IO.FS.Stream) (start : Nat) (s : Service) : IO Service := do
  let line ← stdin.getLine
  if line.isEmpty then
    return { s with gate := s.gate.initiateShutdown.2 }
  let text := line.trimAscii.toString
  let s ← catchUp s start
  let s ← match Request.ofLine? text with
    | none =>
      stdout.putStrLn "400 malformed request line"
      pure s
    | some req =>
      match s.serve req with
      | .error e =>
        stdout.putStrLn ("400 " ++ e.message)
        pure s
      | .ok (r, s') =>
        stdout.putStrLn r.line
        pure s'
  stdout.flush
  if s.gate.ready then return s else serve stdin stdout start s

/-- Runs the server with checked settings. -/
def run (cfg : ServerConfig) : IO UInt32 := do
  let stderr ← IO.getStderr
  stderr.putStrLn ("Starting digest service on " ++ cfg.address.render)
  let start ← IO.monoMsNow
  let s ← serve (← IO.getStdin) (← IO.getStdout) start
    (Service.create cfg.service .sha512Base64 true)
  let s ← catchUp s start
  let pending := s.worker.pending.length
  if pending > 0 then
    stderr.putStrLn ("Waiting for " ++ toString pending ++ " digest(s) still in progress")
  let (left, _) := s.drainFor (cfg.shutdownTimeout * 1000)
  if left > 0 then
    stderr.putStrLn ("Gave up on " ++ toString left ++ " digest(s)")
  stderr.putStrLn "Service shut down successfully"
  return 0

end DeferredDigest.Program

open DeferredDigest in
def main (args : List String) : IO UInt32 := do
  match Options.parse args with
  | .error e =>
    if e.isInformational then
      IO.println e.message
      return 0
    IO.eprintln e.message
    return 2
  | .ok o =>
    match ServerConfig.ofOptions o with
    | .error e =>
      IO.eprintln ("Error: " ++ e.message)
      return 1
    | .ok cfg => Program.run cfg
