import PostMarkup.Fault
import PostMarkup.Files.Disk
import PostMarkup.Slug

/-!
The ways in which a run of the command can fail, and the report that is printed for each: what was
being done, and below it the cause where there is one.
-/

namespace PostMarkup.Command

inductive Failure where
  | documentUnread (path : Text) (cause : DiskFault)
  | documentRefused (path : Text) (cause : Fault)
  | templateUnread (path : Text) (cause : DiskFault)
  | documentUncompiled (path : Text) (cause : Fault)
  | postUnnamed (cause : Slug.NameFault)
  | directoryUnmade (path : Text) (cause : DiskFault)
  | postUnwritten (path : Text) (cause : DiskFault)
deriving DecidableEq

namespace Failure

open Text (quoted)

def headline : Failure → Text
  | documentUnread path _ => "Failed to read document: ".toList ++ quoted path
  | documentRefused path _ => "Failed to parse document: ".toList ++ quoted path
  | templateUnread path _ => "Failed to read template: ".toList ++ quoted path
  | documentUncompiled path _ => "Failed to compile ".toList ++ quoted path
  | postUnnamed cause => cause.message
  | directoryUnmade path _ => "Failed to create output directory: ".toList ++ quoted path
  | postUnwritten path _ => "Failed to write output file: ".toList ++ quoted path

/-- Why it failed, unless the headline says so already. -/
def cause? : Failure → Option Text
  | documentUnread _ cause => some cause.message
  | documentRefused _ cause => some cause.message
  | templateUnread _ cause => some cause.message
  | documentUncompiled _ cause => some cause.message
  | postUnnamed _ => none
  | directoryUnmade _ cause => some cause.message
  | postUnwritten _ cause => some cause.message

def report (failure : Failure) : Text :=
  "Error: ".toList ++ failure.headline ++
    match failure.cause? with
    | some cause => "\n\nCaused by:\n    ".toList ++ cause ++ ['\n']
    | none => ['\n']

end Failure

end PostMarkup.Command
