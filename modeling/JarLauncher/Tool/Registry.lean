import JarLauncher.Tool.Blocks
import JarLauncher.Tool.Checksum
import JarLauncher.Tool.Comparison
import JarLauncher.Tool.Cut
import JarLauncher.Tool.Dump
import JarLauncher.Tool.Distinct
import JarLauncher.Tool.Encoding
import JarLauncher.Tool.Ends
import JarLauncher.Tool.Expression
import JarLauncher.Tool.Factor
import JarLauncher.Tool.Find.Search
import JarLauncher.Tool.Grep.Search
import JarLauncher.Tool.Idle
import JarLauncher.Tool.Joining
import JarLauncher.Tool.Layout
import JarLauncher.Tool.Translate
import JarLauncher.Tool.Environment
import JarLauncher.Tool.Timing
import JarLauncher.Tool.Xargs
import JarLauncher.Tool.Listing.List
import JarLauncher.Tool.Name
import JarLauncher.Tool.Ordering
import JarLauncher.Tool.Ownership
import JarLauncher.Tool.Placement
import JarLauncher.Tool.Print
import JarLauncher.Tool.Removal
import JarLauncher.Tool.Saying
import JarLauncher.Tool.Sed.Edit
import JarLauncher.Tool.Sequence
import JarLauncher.Tool.Sorting.Sort
import JarLauncher.Tool.Split
import JarLauncher.Tool.Stat
import JarLauncher.Tool.Tabs
import JarLauncher.Tool.Transfer.Copy
import JarLauncher.Tool.Transfer.Link
import JarLauncher.Tool.Transfer.Move

/-! The tools of the system by their names, each with the status of its failures. -/

namespace JarLauncher.Tool

open Unix

/-- a tool's name, the status of its failures, and what it does -/
structure Entry where
  name : String
  failure : Nat
  routine : Routine

/-- the tools that do something -/
def working : List Entry :=
  [⟨"[", 2, bracket⟩, ⟨"arch", 1, arch⟩, ⟨"b2sum", 1, b2sum⟩, ⟨"base32", 1, base32⟩,
   ⟨"base64", 1, base64⟩, ⟨"basename", 1, basename⟩, ⟨"basenc", 1, basenc⟩,
   ⟨"bash", 1, otherShell⟩, ⟨"cat", 1, cat⟩, ⟨"chgrp", 1, chgrp⟩, ⟨"chmod", 1, chmod⟩,
   ⟨"chown", 1, chown⟩, ⟨"cksum", 1, cksum⟩, ⟨"cmp", 2, cmp⟩, ⟨"comm", 1, comm⟩, ⟨"cp", 1, cp⟩,
   ⟨"cut", 1, cut⟩, ⟨"date", 1, date⟩, ⟨"dd", 1, dd⟩, ⟨"dir", 2, dir⟩, ⟨"dirname", 1, dirname⟩,
   ⟨"echo", 1, echo⟩, ⟨"egrep", 2, grepAs { wording := some .extended }⟩, ⟨"env", 125, env⟩,
   ⟨"expand", 1, expand⟩, ⟨"expr", 2, expr⟩, ⟨"factor", 1, factor⟩, ⟨"false", 1, refuse⟩,
   ⟨"fgrep", 2, grepAs { wording := some .fixed }⟩, ⟨"find", 1, find⟩, ⟨"fold", 1, fold⟩,
   ⟨"grep", 2, grep⟩, ⟨"groups", 1, groups⟩, ⟨"head", 1, head⟩, ⟨"id", 1, id⟩,
   ⟨"install", 1, install⟩, ⟨"ionice", 1, launcher⟩, ⟨"join", 1, join⟩, ⟨"kill", 1, kill⟩,
   ⟨"link", 1, link⟩, ⟨"linux64", 1, launcher⟩, ⟨"ln", 1, ln⟩, ⟨"logname", 1, logname⟩,
   ⟨"ls", 2, ls⟩, ⟨"md5sum", 1, checksumBy .md5⟩, ⟨"mkdir", 1, mkdir⟩, ⟨"mkfifo", 1, mkfifo⟩,
   ⟨"mknod", 1, mknod⟩, ⟨"mktemp", 1, mktemp⟩, ⟨"mv", 1, mv⟩, ⟨"nice", 125, nice⟩, ⟨"nl", 1, nl⟩,
   ⟨"nohup", 125, nohup⟩, ⟨"nproc", 1, nproc⟩, ⟨"nsenter", 1, launcher⟩, ⟨"od", 1, od⟩,
   ⟨"paste", 1, paste⟩, ⟨"pathchk", 1, pathchk⟩, ⟨"printenv", 2, printenv⟩, ⟨"printf", 1, printf⟩,
   ⟨"prlimit", 1, launcher⟩, ⟨"pwd", 1, pwd⟩, ⟨"rbash", 1, otherShell⟩, ⟨"readlink", 1, readlink⟩,
   ⟨"realpath", 1, realpath⟩, ⟨"rev", 1, rev⟩, ⟨"rgrep", 2, grepAs { directories := .recurse }⟩,
   ⟨"rm", 1, rm⟩, ⟨"rmdir", 1, rmdir⟩, ⟨"sed", 1, sed⟩, ⟨"seq", 1, seq⟩,
   ⟨"setpriv", 127, launcher⟩, ⟨"setsid", 1, launcher⟩, ⟨"sha1sum", 1, checksumBy .sha1⟩,
   ⟨"sha224sum", 1, checksumBy .sha224⟩, ⟨"sha256sum", 1, checksumBy .sha256⟩,
   ⟨"sha384sum", 1, checksumBy .sha384⟩, ⟨"sha512sum", 1, checksumBy .sha512⟩, ⟨"shuf", 1, shuf⟩,
   ⟨"sleep", 1, sleep⟩, ⟨"sort", 2, sort⟩, ⟨"split", 1, split⟩, ⟨"stat", 1, stat⟩,
   ⟨"stdbuf", 125, stdbuf⟩, ⟨"sum", 1, sum⟩, ⟨"sync", 1, sync⟩, ⟨"tac", 1, tac⟩, ⟨"tail", 1, tail⟩,
   ⟨"tee", 1, tee⟩, ⟨"test", 2, test⟩, ⟨"timeout", 125, timeout⟩, ⟨"touch", 1, touch⟩,
   ⟨"tr", 1, tr⟩, ⟨"true", 1, succeed⟩, ⟨"truncate", 1, truncate⟩, ⟨"tsort", 1, tsort⟩,
   ⟨"tty", 2, tty⟩, ⟨"uname", 1, uname⟩, ⟨"unexpand", 1, unexpand⟩, ⟨"uniq", 1, uniq⟩,
   ⟨"unlink", 1, unlink⟩, ⟨"unshare", 1, launcher⟩, ⟨"users", 1, users⟩, ⟨"vdir", 2, vdir⟩,
   ⟨"wc", 1, wc⟩, ⟨"which", 2, which⟩, ⟨"whoami", 1, whoami⟩, ⟨"xargs", 1, xargs⟩, ⟨"yes", 1, yes⟩]

def registry : List Entry :=
  working ++ idleNames.map (⟨·, 1, idle⟩) ++ strictNames.map (fun (name, n) => ⟨name, n, idle⟩) ++
    helplessNames.map fun (name, n) => ⟨name, n, helpless⟩

def ofName? (name : String) : Option Entry := registry.find? fun e => e.name = name

/-- the work of a tool from its start to its end -/
def Entry.activity (e : Entry) (i : Image) : Activity := (e.routine.run e.failure i) .exit

end JarLauncher.Tool
