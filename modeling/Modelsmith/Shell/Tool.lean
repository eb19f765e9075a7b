import Modelsmith.Shell.Tool.Archiving
import Modelsmith.Shell.Tool.Arranging
import Modelsmith.Shell.Tool.Checking
import Modelsmith.Shell.Tool.Copying
import Modelsmith.Shell.Tool.Differing
import Modelsmith.Shell.Tool.Editing
import Modelsmith.Shell.Tool.Extracting
import Modelsmith.Shell.Tool.Finding
import Modelsmith.Shell.Tool.Joining
import Modelsmith.Shell.Tool.Normalizing
import Modelsmith.Shell.Tool.Parting
import Modelsmith.Shell.Tool.Paths
import Modelsmith.Shell.Tool.Quantities
import Modelsmith.Shell.Tool.Scanning
import Modelsmith.Shell.Tool.Searching
import Modelsmith.Shell.Tool.Tabs
import Modelsmith.Shell.Tool.Translating

/-! The programs of a host, by their names. -/

set_option autoImplicit false

namespace Modelsmith.Shell.Tool

def find? : String → Option Tool
  | "true" | "sync" => some fun _ => return 0
  | "false" => some fun _ => return 1
  | "[" => some (test true)
  | "basename" => some basename
  | "cat" => some cat
  | "chmod" => some chmod
  | "cksum" => some cksum
  | "cp" => some cp
  | "csplit" => some csplit
  | "cut" => some cut
  | "date" => some date
  | "dd" => some dd
  | "diff" => some diff
  | "dirname" => some dirname
  | "echo" => some echo
  | "egrep" => some (grepWith 'E')
  | "expand" => some expand
  | "expr" => some expr
  | "factor" => some factor
  | "find" => some find
  | "fgrep" => some (grepWith 'F')
  | "getopt" => some getopt
  | "grep" => some (grepWith 'G')
  | "head" => some head
  | "join" => some join
  | "ln" => some ln
  | "ls" => some ls
  | "mawk" => some awk
  | "mkdir" => some mkdir
  | "mv" => some mv
  | "numfmt" => some numfmt
  | "od" => some od
  | "perl" => some perl
  | "printenv" => some printenv
  | "printf" => some printf
  | "pwd" => some pwd
  | "readlink" => some readlink
  | "rm" => some rm
  | "rmdir" => some rmdir
  | "sed" => some sed
  | "seq" => some seq
  | "shuf" => some shuf
  | "sleep" => some sleep
  | "sort" => some sort
  | "split" => some split
  | "sum" => some sum
  | "tail" => some tail
  | "tar" => some tar
  | "tee" => some tee
  | "test" => some (test false)
  | "touch" => some touch
  | "tr" => some tr
  | "truncate" => some truncate
  | "tsort" => some tsort
  | "tty" => some fun _ => do
    Step.printLine "not a tty"
    return 1
  | "unexpand" => some unexpand
  | "uniq" => some uniq
  | "wc" => some wc
  | "which" => some which
  | "yes" => some yes
  | _ => none

def starter? : String → Option (Start → Tool)
  | "env" => some env
  | "nice" => some nice
  | "nohup" => some nohup
  | "setsid" => some setsid
  | "stdbuf" => some stdbuf
  | "timeout" => some timeout
  | _ => none

end Modelsmith.Shell.Tool
