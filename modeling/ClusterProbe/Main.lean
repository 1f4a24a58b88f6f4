import ClusterProbe.Program

/-!
# The command

Takes the command line, the key pair file and a random seed from the system, and hands them to the
program.  The command opens no connection of its own: standard input carries the bodies of the
node's replies, one on a line, in the order of the requests.
-/

namespace ClusterProbe.Main

/-- What the system says of a file that cannot be read. -/
def faultOf : IO.Error → FileFault
  | .noFileOrDirectory .. => .notFound
  | .inappropriateType _ 20 _ => .notDirectory
  | .inappropriateType _ 21 _ => .isDirectory
  | .invalidArgument _ 36 _ => .nameTooLong
  | e => .other (toString e)

def readFile (path : Path) : IO (Except FileFault (List UInt8)) := do
  if path.contains 0 then return .error .nulInName
  match Utf8.decode? path with
  | none => return .error .notFound
  | some name =>
    try
      return .ok (← IO.FS.readBinFile name).toList
    catch e => return .error (faultOf e)

partial def readReplies (stream : IO.FS.Stream) (before : List Rpc.Reply) :
    IO (List Rpc.Reply) := do
  let line ← stream.getLine
  if line.isEmpty then return before.reverse
  readReplies stream ({ body := fun _ => Utf8.encode line } :: before)

end ClusterProbe.Main

open ClusterProbe in
def main (args : List String) : IO UInt32 := do
  let name := CommandLine.Fault.calledName (some (Utf8.encode (← IO.appPath).toString))
  let arguments := args.map Utf8.encode
  let config := CommandLine.read arguments
  let path := config.toOption.bind (·.keypair)
  let content ← match path with
    | some path => ClusterProbe.Main.readFile path
    | none => pure (.error .notFound)
  let random ← IO.getRandomBytes 32
  let seed := (Octets.ofList? 32 random.toList).getD (.replicate 32 0)
  let replies ← match config with
    | .ok _ => ClusterProbe.Main.readReplies (← IO.getStdin) []
    | .error _ => pure []
  let trace := Program.run name arguments (fun _ => true)
    ⟨fun _ => content, Keypair.ofSeed seed⟩ replies
  IO.print trace.report.stdout
  IO.eprint trace.report.stderr
  unless trace.report.stderr.isEmpty || trace.report.stderr.endsWith "\n" do
    IO.eprint "\n"
  return UInt32.ofNat trace.report.exitCode
