import TableTransfer.CommandLine.Run

open TableTransfer TableTransfer.CommandLine

def contentOf (path : String) : IO (Except String String) := do
  try
    let bytes ← IO.FS.readBinFile path
    return match String.fromUTF8? bytes with
      | some text => .ok text
      | none => .error "stream did not contain valid UTF-8"
  catch e => return .error e.toString

def main (args : List String) : IO UInt32 := do
  let request := Request.ofArguments args
  let contents ← request.paths.mapM fun path => return (path, ← contentOf path)
  let outcome := request.outcome fun path => (contents.lookup path).getD (.error "not read")
  IO.print outcome.output
  if outcome.misused then IO.eprintln HelpTopic.program.text
  if let some e := outcome.error then IO.eprintln e.detailed
  return UInt32.ofNat outcome.exitCode
