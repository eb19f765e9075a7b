import Modelsmith.Files.System
import Modelsmith.Run.Pool

/-! What surrounds a run: the environment, the network, the workers of a pool, the files of the
system, and the programs that can be started. -/

set_option autoImplicit false

namespace Modelsmith

structure Host where
  environment : List (String × String)
  /-- Tells the temporary directory of a run from those of others. -/
  fresh : String := "0"
  /-- What is found at an address. -/
  download : String → Option Octets := fun _ => none
  processors : Nat := 1
  /-- The turns of a pool of workers; none when no pool can be started. -/
  turns : Option Run.Turns := some fun _ => (0, 0)

namespace Host

def tools : List String :=
  ["[", "addpart", "apt", "apt-cache", "apt-config", "apt-get", "arch", "b2sum", "base32",
    "base64", "basename", "basenc", "bash", "captoinfo", "cat", "chage", "chattr", "chcon",
    "chfn", "chgrp", "chmod", "choom", "chown", "chrt", "chsh", "cksum", "clear", "cmp", "comm",
    "cp", "csplit", "cut", "dash", "date", "dd", "deb-systemd-helper", "debconf", "delpart", "df",
    "diff", "diff3", "dir", "dircolors", "dirname", "dmesg", "dpkg", "dpkg-deb", "dpkg-query",
    "du", "echo", "egrep", "env", "expand", "expiry", "expr", "factor", "faillog", "fallocate",
    "false", "fgrep", "find", "findmnt", "flock", "fmt", "fold", "getconf", "getent", "getopt",
    "gpasswd", "grep", "groups", "gunzip", "gzexe", "gzip", "hardlink", "head", "hostid",
    "hostname", "iconv", "id", "infocmp", "install", "ionice", "ipcmk", "ipcrm", "ipcs",
    "ischroot", "join", "kill", "last", "lastlog", "ldd", "link", "ln", "locale", "localedef",
    "logger", "login", "logname", "ls", "lsattr", "lsblk", "lscpu", "lsipc", "lslocks",
    "lslogins", "lsmem", "lsns", "mawk", "mcookie", "md5sum", "mesg", "mkdir", "mkfifo", "mknod",
    "mktemp", "more", "mount", "mountpoint", "mv", "namei", "newgrp", "nice", "nl", "nohup",
    "nproc", "nsenter", "numfmt", "od", "partx", "passwd", "paste", "pathchk", "perl", "pinky",
    "pldd", "pr", "printenv", "printf", "prlimit", "ptx", "pwd", "readlink", "realpath",
    "renice", "resizepart", "rev", "rgrep", "rm", "rmdir", "run-parts", "runcon", "savelog",
    "script", "scriptreplay", "sdiff", "sed", "seq", "setarch", "setpriv", "setsid", "setterm",
    "sha1sum", "sha224sum", "sha256sum", "sha384sum", "sha512sum", "shred", "shuf", "sleep",
    "sort", "split", "stat", "stdbuf", "stty", "su", "sum", "sync", "tabs", "tac", "tail", "tar",
    "taskset", "tee", "test", "tic", "timeout", "toe", "touch", "tput", "tr", "true", "truncate",
    "tset", "tsort", "tty", "tzselect", "umount", "uname", "uncompress", "unexpand", "uniq",
    "unlink", "unshare", "update-alternatives", "users", "utmpdump", "vdir", "wall", "wc",
    "wdctl", "whereis", "which", "who", "whoami", "xargs", "yes", "zcat", "zcmp", "zdiff",
    "zdump", "zgrep", "zless", "zmore"]

/-- The first octets of a program. No text starts with them. -/
def programMark : Octets := Char.ofNat 127 :: "ELF" ++ [Char.ofNat 255]

def program (name : String) : Octets := programMark ++ name

def toolOf? (content : Octets) : Option String :=
  if programMark.isPrefixOf content then some (String.ofList (content.drop programMark.length))
  else none

def users : List (String × String) :=
  [("root", "/root"), ("daemon", "/usr/sbin"), ("bin", "/bin"), ("sys", "/dev"),
    ("sync", "/bin"), ("games", "/usr/games"), ("man", "/var/cache/man"), ("lp", "/var/spool/lpd"),
    ("mail", "/var/mail"), ("news", "/var/spool/news"), ("uucp", "/var/spool/uucp"),
    ("proxy", "/bin"), ("www-data", "/var/www"), ("backup", "/var/backups"), ("list", "/var/list"),
    ("irc", "/run/ircd"), ("_apt", "/nonexistent"), ("nobody", "/nonexistent")]

def userTable : String :=
  String.join <| users.mapIdx fun number (name, directory) =>
    s!"{name}:x:{number}:{number}:{name}:{directory}:/usr/sbin/nologin\n"

def directories : List String :=
  ["boot", "dev", "dev/pts", "etc", "etc/alternatives", "home", "media", "mnt", "opt", "proc",
    "proc/1", "proc/self", "proc/self/fd", "proc/sys", "run", "srv", "sys", "usr", "usr/bin",
    "usr/games", "usr/include", "usr/lib", "usr/lib64", "usr/local", "usr/local/bin",
    "usr/local/etc", "usr/local/lib", "usr/local/sbin", "usr/local/share", "usr/sbin",
    "usr/share", "usr/src", "var", "var/backups", "var/cache", "var/lib", "var/log", "var/mail",
    "var/spool"]

def sharedDirectories : List String := ["dev/shm", "run/lock", "tmp", "var/tmp"]

def links : List (String × String) :=
  [("bin", "usr/bin"), ("sbin", "usr/sbin"), ("lib", "usr/lib"), ("lib64", "usr/lib64"),
    ("dev/fd", "/proc/self/fd"), ("dev/stdin", "/proc/self/fd/0"),
    ("dev/stdout", "/proc/self/fd/1"), ("dev/stderr", "/proc/self/fd/2"),
    ("etc/alternatives/awk", "/usr/bin/mawk"), ("etc/alternatives/nawk", "/usr/bin/mawk"),
    ("etc/mtab", "/proc/mounts"), ("etc/os-release", "../usr/lib/os-release"),
    ("usr/bin/awk", "/etc/alternatives/awk"), ("usr/bin/nawk", "/etc/alternatives/nawk"),
    ("usr/bin/rbash", "bash"), ("usr/bin/sh", "dash"), ("var/lock", "/run/lock"),
    ("var/run", "/run")]

def devices : List (String × Files.Device) :=
  [("dev/null", .null), ("dev/zero", .zero), ("dev/full", .full), ("dev/tty", .terminal),
    ("dev/random", .zero), ("dev/urandom", .zero), ("proc/self/fd/0", .descriptor 0),
    ("proc/self/fd/1", .descriptor 1), ("proc/self/fd/2", .descriptor 2)]

def texts : List (String × String) :=
  [("etc/passwd", userTable), ("etc/group", "root:x:0:\nnogroup:x:65534:\n"),
    ("etc/hostname", "host\n"), ("etc/hosts", "127.0.0.1\tlocalhost\n"),
    ("etc/resolv.conf", "nameserver 127.0.0.1\n"), ("etc/shells", "/bin/sh\n/usr/bin/sh\n"),
    ("etc/profile", "# profile\n"), ("etc/fstab", "# none\n"), ("etc/issue", "host \\n \\l\n\n"),
    ("etc/nsswitch.conf", "passwd: files\n"), ("etc/environment", ""),
    ("usr/lib/os-release", "ID=host\n"), ("proc/version", "version\n"),
    ("proc/cpuinfo", "processor\t: 0\n"), ("proc/meminfo", "MemTotal: 1 kB\n"),
    ("proc/mounts", "rootfs / rootfs rw 0 0\n"), ("proc/uptime", "1.00 1.00\n"),
    ("proc/loadavg", "0.00 0.00 0.00 1/1 1\n"), ("proc/stat", "cpu 0\n"),
    ("proc/self/comm", "host\n"), ("proc/self/status", "Name:\thost\n"),
    ("proc/self/cmdline", "host\x00"), ("proc/self/environ", "")]

def entries : List (Files.Location × Files.Node) :=
  let shared (kind : Files.Kind) (mode : Nat) : Files.Node := { kind, mode, owned := false }
  directories.map (fun path => (Path.names path, shared .directory 0o755)) ++
    sharedDirectories.map (fun path => (Path.names path, shared .directory 0o1777)) ++
    [(["root"], { kind := .directory, mode := 0o700 }),
      (["etc", "shadow"], shared (.file []) 0o640)] ++
    links.map (fun (path, target) => (Path.names path, shared (.link target) 0o777)) ++
    devices.map (fun (path, device) => (Path.names path, shared (.device device) 0o666)) ++
    texts.map (fun (path, text) => (Path.names path, shared (.file (Text.octets text)) 0o644)) ++
    tools.map fun name => (["usr", "bin", name], shared (.file (program name)) 0o755)

/-- Files on a host, with all that belongs to the system and is not there yet. -/
def installed (files : Files) : Files :=
  let missing := entries.filter fun (location, _) => (files.get? location).isNone
  let first := files.nodes.size
  { files with
    names := files.names ++ missing.mapIdx fun index (location, _) => (location, first + index)
    nodes := files.nodes ++ (missing.map Prod.snd).toArray }

def standard : Host where
  environment := []

def searchPath : String := "/usr/local/sbin:/usr/local/bin:/usr/sbin:/usr/bin:/sbin:/bin"

def directoriesIn (path : String) : List String :=
  (path.splitOn ":").map fun directory => if directory = "" then "." else directory

def executable (files : Files) (path : String) : Except FileFault Octets := do
  let node ← files.lookup path
  match node.content? with
  | some content => if node.allows .search then return content else throw .denied
  | none => throw .denied

/-- Looks for a program in directories. Where none can be started, one that may not be weighs more
than one that is missing. -/
def search (files : Files) (name : String) : Bool → List String →
    Except FileFault (String × Octets)
  | denied, [] => .error (if denied then .denied else .notFound)
  | denied, directory :: rest =>
    let path := Path.join directory name
    match executable files path with
    | .ok content => .ok (path, content)
    | .error fault => search files name (denied || fault = .denied) rest

def locate (path : String) (files : Files) (name : String) : Except FileFault (String × Octets) :=
  if name.toList.contains '\x00' then .error .nulInPath
  else if name = "" then .error .notFound
  else if name.toList.contains '/' then (executable files name).map fun content => (name, content)
  else search files name false (directoriesIn path)

/-- What one text that is handed to a program takes at most, its end included. -/
def textLimit : Nat := 131072

/-- What all texts that are handed to a program take at most, with a pointer to each. -/
def textsLimit : Nat := 2097152

def canTake (texts : List Octets) : Bool :=
  let sizes := texts.map fun text => text.length + 1
  sizes.all (decide <| · ≤ textLimit) && decide (sizes.sum + 8 * sizes.length ≤ textsLimit)

def path (host : Host) : String := (host.environment.lookup "PATH").getD searchPath

def freshDirectory (host : Host) : String :=
  Path.join ((host.environment.lookup "TMPDIR").getD "/tmp") ("porter-" ++ host.fresh)

def startFault? (host : Host) (files : Files) (program : String) : Option FileFault :=
  match locate host.path files program with
  | .ok _ => none
  | .error fault => some fault

def canStart (host : Host) (files : Files) (program : String) : Bool :=
  (host.startFault? files program).isNone

end Host

end Modelsmith
