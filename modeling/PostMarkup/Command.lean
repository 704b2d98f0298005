import PostMarkup.Command.Arguments
import PostMarkup.Command.Failure
import PostMarkup.Document
import PostMarkup.Sections.Json

/-!
A run of the command: arguments and files in; an exit code, printed text and at most one written
file out. The order of the steps decides which of several failures is reported. Log output is not
modelled.
-/

namespace PostMarkup.Command

structure Outcome where
  code : UInt32
  stdout : Text
  stderr : Text

namespace Outcome

def success (stdout : Text) : Outcome := ⟨0, stdout, []⟩

def failure (cause : Failure) : Outcome := ⟨1, [], cause.report⟩

/-- Refused arguments. Nothing is printed for them here. -/
def refusal : Outcome := ⟨2, [], []⟩

end Outcome

def release : Text := "blagh 0.1.0\n".toList

def usage : Text :=
  ("Compile a blagh document into an HTML blog post\n\n" ++
    "Usage: blagh [OPTIONS] --file <FILE>\n\n" ++
    "Options:\n" ++
    "  -f, --file <FILE>          Document to compile\n" ++
    "  -t, --template <FILE>      HTML template with $placeholders$\n" ++
    "  -o, --output-dir <DIR>     Directory that receives <slug>/index.html [default: .]\n" ++
    "      --stdout               Print the compiled HTML instead of writing it\n" ++
    "      --strict               Fail on references to undefined variables\n" ++
    "      --max-macro-depth <N>  Maximum number of macros a call may be nested inside (default 50)\n" ++
    "      --dump-sections        Print the validated sections as JSON and exit\n" ++
    "      --debug                Enable debug logging (ignored when RUST_LOG is set)\n" ++
    "  -h, --help                 Print help\n" ++
    "  -V, --version              Print version\n").toList

def indexFile : Text := "index.html".toList

variable {m : Type → Type} [Monad m]

/-- An operation on files as a step of a run. -/
def onDisk {Value : Type} (failure : DiskFault → Failure) (operation : m (Except DiskFault Value)) :
    ExceptT Failure m Value :=
  ExceptT.mk ((·.mapError failure) <$> operation)

def inMemory {Cause Value : Type} (failure : Cause → Failure) (value : Except Cause Value) :
    ExceptT Failure m Value :=
  ExceptT.mk (pure (value.mapError failure))

def renderInto (disk : Disk m) (order : Order) (document : Document) (template : Text) :
    ExceptT Failure m Text := do
  let page ← onDisk (.templateUnread template) (disk.read template)
  inMemory (.documentUncompiled order.file) (document.render order.options page)

def writePost (disk : Disk m) (directory name post : Text) : ExceptT Failure m Unit := do
  let own := Path.join directory name
  onDisk (.directoryUnmade own) (disk.makeDirectories own)
  let path := Path.join own indexFile
  onDisk (.postUnwritten path) (disk.write path post)

def perform (disk : Disk m) (order : Order) : ExceptT Failure m Text := do
  let source ← onDisk (.documentUnread order.file) (disk.read order.file)
  let document ← inMemory (.documentRefused order.file) (Document.ofText source)
  match order.job with
  | .dumpSections => return document.sections.toJson ++ ['\n']
  | .print template => renderInto disk order document template
  | .write template directory => do
      let post ← renderInto disk order document template
      let name ← inMemory .postUnnamed (Slug.ofPath order.file)
      writePost disk directory name post
      return []

def run (disk : Disk m) (arguments : List Text) : m Outcome :=
  match Request.ofArguments arguments with
  | none => return .refusal
  | some .version => return .success release
  | some .help => return .success usage
  | some (.order order) => do
      match ← (perform disk order).run with
      | .ok printed => return .success printed
      | .error cause => return .failure cause

end PostMarkup.Command
