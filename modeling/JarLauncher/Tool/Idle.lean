import JarLauncher.Tool.Option

/-! Tools that have nothing to do in this system, or nothing that leaves a trace in it. They refuse
options that they do not know, and nothing comes of their operands. Some fail in any case: they need
what is not there. -/

namespace JarLauncher.Tool

open Shell (text)

/-- a tool without options -/
def idle : Routine := fun args => do
  let _ ← Work.flags { letters := "" } args

/-- a tool that cannot open what it is given, or lacks it -/
def helpless : Routine := fun args => do
  match args with
  | [] => throw (← get).failure
  | x :: _ => Work.fail [text "cannot open ", Quoting.always x]

def idleNames : List String :=
  ["addpart", "chcon", "choom", "csplit", "delpart", "df", "dircolors", "dmesg",
   "du", "fallocate", "findmnt", "fmt", "free", "getopt", "gunzip", "gzip", "hardlink", "hostid",
   "ipcmk", "ipcrm", "ipcs", "ischroot", "last", "lastb", "lastlog", "logger", "lsblk", "lscpu",
   "lsipc", "lslocks", "lslogins", "lsmem", "lsns", "mcookie", "mesg", "more", "mount",
   "mountpoint", "namei", "numfmt", "partx", "pinky", "pmap", "pr", "ps", "ptx", "pwdx",
   "resizepart", "run-parts", "script", "scriptlive", "scriptreplay", "setarch", "setterm",
   "shred", "skill", "slabtop", "snice", "su", "tempfile", "tload", "top", "umount", "uncompress",
   "uptime", "utmpdump", "vmstat", "w", "wall", "wdctl", "who", "zcat"]

/-- the tools that fail in another way, with their statuses -/
def helplessNames : List (String × Nat) :=
  [("awk", 2), ("captoinfo", 1), ("chrt", 1), ("clear", 1), ("clear_console", 1), ("dpkg", 2),
   ("dpkg-deb", 2), ("dpkg-divert", 2), ("dpkg-query", 2), ("dpkg-split", 2),
   ("dpkg-statoverride", 2), ("dpkg-trigger", 2), ("flock", 66), ("getconf", 2), ("infocmp", 1),
   ("infotocap", 1), ("ldd", 1), ("locale-check", 1), ("login", 1), ("mawk", 2), ("newgrp", 1),
   ("passwd", 6), ("perl", 2), ("pidof", 1), ("renice", 1), ("reset", 1), ("runcon", 125),
   ("savelog", 4), ("sg", 1), ("stty", 1), ("tabs", 1), ("tar", 64), ("taskset", 1), ("tic", 1),
   ("toe", 1), ("tput", 2), ("tset", 1), ("tzselect", 1), ("update-alternatives", 2), ("watch", 1),
   ("whereis", 1), ("zcmp", 2), ("zdiff", 2), ("zdump", 1), ("zegrep", 2), ("zfgrep", 2),
   ("zforce", 1), ("zgrep", 2), ("znew", 1)]

/-- tools that refuse what they do not know with a status of their own -/
def strictNames : List (String × Nat) :=
  [("apt", 100), ("apt-cache", 100), ("apt-cdrom", 100), ("apt-config", 100), ("apt-get", 100),
   ("apt-mark", 100), ("chage", 2), ("chfn", 2), ("chsh", 2), ("diff", 2), ("diff3", 2),
   ("dnsdomainname", 255), ("domainname", 255), ("expiry", 2), ("faillog", 2), ("getent", 64),
   ("gpasswd", 2), ("hostname", 255), ("iconv", 64), ("locale", 64), ("localedef", 4),
   ("nisdomainname", 255), ("pgrep", 2), ("pidwait", 2), ("pkill", 2), ("pldd", 64), ("sdiff", 2),
   ("ypdomainname", 255)]

end JarLauncher.Tool
