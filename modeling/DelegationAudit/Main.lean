import DelegationAudit.CommandLine

open DelegationAudit

def variableNames : List String := ["NSAUDIT_RESOLVER", "NSAUDIT_PORT", "NSAUDIT_TIMEOUT",
  "NSAUDIT_DEADLINE", "NSAUDIT_ENRICH", "NSAUDIT_PROBE", "NSAUDIT_CACHE_TTL", "NSAUDIT_LOG_LEVEL"]

def main (words : List String) : IO UInt32 := do
  let values ← variableNames.filterMapM fun key => do
    return (← IO.getEnv key).map fun value => (key, value)
  let run := CommandLine.run values words (Network.start 0 0 [] [])
  run.log.forM IO.eprintln
  if let some e := run.complaint then
    IO.eprintln (programName ++ ": error: " ++ e.message)
  IO.print run.output
  match run.exit with
  | .ok code => return code.toUInt32
  | .error e =>
    IO.eprintln (e.kindName ++ ": " ++ e.message)
    return 1
