import Telemetry.Document.Reader
import Telemetry.Document.Schema
import Telemetry.Files

namespace Telemetry

/-- What is wrong with a file. -/
inductive FileFault where
  | unreadable (reason : String)
  | notText
  | document (fault : Document.Fault)
  | notMapping
  | rejected (rejection : Rejection)
deriving Repr

namespace FileFault

/-- Is the fault contained? The others end whatever reads the file. -/
def isContained : FileFault → Bool
  | unreadable _ => true
  | notText => false
  | document .malformed => true
  | document (.duplicateKey _) => true
  | document _ => false
  | notMapping => true
  | rejected rejection => rejection.isTold

def message (path : String) : FileFault → String
  | unreadable reason => "Could not read file " ++ path ++ ": " ++ reason
  | document (.duplicateKey key) => "Duplicate key '" ++ key ++ "' in YAML document"
  | document _ => "Invalid YAML in " ++ path ++ ": <yaml error>"
  | notMapping => "File " ++ path ++ " must contain a mapping at root"
  | rejected rejection => rejection.message path
  | notText => ""

end FileFault

namespace Document

/-- The mapping that a text stands for. -/
def readMapping (text : String) : Except FileFault Document :=
  match read text with
  | .error fault => .error (.document fault)
  | .ok (.mapping entries) => .ok (.mapping entries)
  | .ok _ => .error .notMapping

/-- The mapping in a file. -/
def ofFile (files : Files) (path : String) : Except FileFault Document :=
  match files.text path with
  | .ok text => readMapping text
  | .error .notText => .error .notText
  | .error .folder => .error (.unreadable ("[Errno 21] Is a directory: " ++ Text.quoted path))
  | .error .missing =>
    .error (.unreadable ("[Errno 2] No such file or directory: " ++ Text.quoted path))

end Document

end Telemetry
