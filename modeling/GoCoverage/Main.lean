import GoCoverage.Command.Run
import GoCoverage.Files.Snapshot
import Std.Time.DateTime.Timestamp

/-! # The program

Looks at the disk where the request says, and carries out what the request leads to. -/

namespace GoCoverage.Main

open Files

/-- The number and the words of an error. -/
def describe : IO.Error → Nat × String
  | .noFileOrDirectory _ code words
  | .inappropriateType _ code words
  | .permissionDenied _ code words
  | .invalidArgument _ code words
  | .resourceExhausted _ code words
  | .alreadyExists _ code words
  | .noSuchThing _ code words
  | .interrupted _ code words
  | .otherError code words
  | .resourceBusy code words
  | .resourceVanished code words
  | .unsupportedOperation code words
  | .hardwareFault code words
  | .unsatisfiedConstraints code words
  | .illegalOperation code words
  | .protocolError code words
  | .timeExpired code words =>
    (if code.toNat < 0x80000000 then code.toNat else 0x100000000 - code.toNat, words)
  | .unexpectedEof => (0, "unexpected end of file")
  | .userError words => (0, words)

/-- The fault that an error is. -/
def faultOf (error : IO.Error) : Fault :=
  match describe error with
  | (2, _) => .notFound
  | (13, _) => .other 13 "Permission denied"
  | (20, _) => .notADirectory
  | (21, _) => .isADirectory
  | (36, _) => .nameTooLong
  | (number, words) => .other number words

/-- What an action gives, or the fault that it ends with. -/
def attempt {α : Type} (action : IO α) : BaseIO (Except Fault α) := do
  match ← action.toBaseIO with
  | .ok a => return .ok a
  | .error error => return .error (faultOf error)

/-- The content of a file. -/
def contentOf (path : String) : BaseIO (Except Fault (List UInt8)) := do
  if let .error fault := Files.Tree.check path then
    return .error fault
  return (← attempt (IO.FS.readBinFile path)).map (·.toList)

/-- The absolute path of what is at a path.  If there is none, reading it tells why. -/
def placeOf (path : String) : BaseIO (Except Fault String) := do
  match ← attempt (IO.FS.realPath path) with
  | .ok place => return .ok (toString place)
  | .error fault =>
    match ← contentOf path with
    | .error reason => return .error reason
    | .ok _ => return .error fault

/-- There is a directory at a path. -/
def isDirectory (path : String) : BaseIO Bool := do
  if let .error _ := Files.Tree.check path then
    return false
  return (← attempt (IO.FS.realPath (path ++ "/."))) matches .ok _

/-- A name is that of a file, which need not be readable. -/
def isFile : Except Fault (List UInt8) → Bool
  | .ok _ | .error (.other _ _) => true
  | .error _ => false

/-- A snapshot that also holds the source file that a profile is about. -/
def seeSource (module : Module) (snapshot : Snapshot) (profile : Profile) : BaseIO Snapshot := do
  let some place := module.directory? profile.file | return snapshot
  let directory := Path.join module.root place
  let name := Path.baseName profile.file
  if (snapshot.names directory).contains name then
    return snapshot
  unless ← isDirectory directory do
    return snapshot
  let path := Path.join directory name
  let content ← contentOf path
  if isFile content then
    return (snapshot.addContent path content).addNames directory [name]
  return snapshot.addNames directory []

/-- A snapshot that also holds what there is to see for a report on a profile. -/
def survey (snapshot : Snapshot) (moduleRoot text : String) : BaseIO Snapshot := do
  let place ← placeOf moduleRoot
  let snapshot := { snapshot with places := (moduleRoot, place) :: snapshot.places }
  let .ok root := place | return snapshot
  let modFile := Path.join root Module.fileName
  let snapshot := snapshot.addContent modFile (← contentOf modFile)
  match Module.load snapshot.files moduleRoot, Profile.parse text with
  | .ok module, .ok profiles => profiles.foldlM (seeSource module) snapshot
  | _, _ => return snapshot

/-- The profile's file, if there is one, and what is on standard input if there is none. -/
def seeInput : Option String → IO (Snapshot × List UInt8)
  | some path => do
    let content ← contentOf path
    return (Snapshot.empty.addContent path content, [])
  | none => do
    let stdin ← IO.getStdin
    let bytes ← stdin.readBinToEnd
    return (.empty, bytes.toList)

/-- What there is to see of the disk for a request, and what is on standard input if it is asked
for. -/
def gather : Command.Request → IO (Snapshot × List UInt8)
  | .coverage input _ options => do
    let (snapshot, stdin) ← seeInput input
    match Command.profileText snapshot.files stdin input with
    | .error _ => return (snapshot, stdin)
    | .ok text => return (← survey snapshot options.moduleRoot text, stdin)
  | _ => return (.empty, [])

/-- Shows the outcome of a run. -/
def present (outcome : Command.Outcome) : IO UInt32 := do
  IO.print outcome.stdout
  IO.eprint outcome.stderr
  return outcome.exit.toUInt32

/-- Carries out what the arguments ask for. -/
def carryOut (arguments : List String) : IO UInt32 := do
  match Command.Request.ofArguments? arguments with
  | none => present .misused
  | some request =>
    let (snapshot, stdin) ← gather request
    let now ← Std.Time.Timestamp.now
    match Command.answer snapshot.files stdin now.toMillisecondsSinceUnixEpoch.toInt request with
    | .misused => present .misused
    | .failed chain => present (.failed chain)
    | .printed text => present (.printed text)
    | .delivered path text =>
      match ← attempt (IO.FS.writeFile path text) with
      | .ok () => present (.printed "")
      | .error fault => present (.failed (Command.writeChain path fault))

end GoCoverage.Main

/-- The program. -/
def main (arguments : List String) : IO UInt32 := GoCoverage.Main.carryOut arguments
