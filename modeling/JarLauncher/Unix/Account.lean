import JarLauncher.Utf8

/-! The accounts of the system and their home directories. -/

namespace JarLauncher.Unix

structure Account where
  name : String
  id : Nat
  group : Nat
  comment : String
  home : String
  shell : String

namespace Account

/-- what those who never log in have for a shell -/
def noLogin : String := "/usr/sbin/nologin"

/-- an account of the system itself -/
def service (name : String) (id : Nat) (home : String) : Account :=
  ⟨name, id, id, name, home, noLogin⟩

/-- the group of those who have none -/
def noGroup : Nat := 65534

def all : List Account :=
  [⟨"root", 0, 0, "root", "/root", "/bin/bash"⟩, service "daemon" 1 "/usr/sbin",
   service "bin" 2 "/bin", service "sys" 3 "/dev",
   ⟨"sync", 4, noGroup, "sync", "/bin", "/bin/sync"⟩,
   { service "games" 5 "/usr/games" with group := 60 },
   { service "man" 6 "/var/cache/man" with group := 12 }, service "lp" 7 "/var/spool/lpd",
   service "mail" 8 "/var/mail", service "news" 9 "/var/spool/news",
   service "uucp" 10 "/var/spool/uucp", service "proxy" 13 "/bin", service "www-data" 33 "/var/www",
   service "backup" 34 "/var/backups",
   { service "list" 38 "/var/list" with comment := "Mailing List Manager" },
   { service "irc" 39 "/run/ircd" with comment := "ircd" },
   ⟨"_apt", 42, noGroup, "", "/nonexistent", noLogin⟩,
   ⟨"nobody", 65534, noGroup, "nobody", "/nonexistent", noLogin⟩]

def ofName? (name : Bytes) : Option Account := all.find? fun a => Utf8.encode a.name = name

/-- the name of an account's group -/
def groupName (a : Account) : String := if a.group = noGroup then "nogroup" else a.name

/-- an account as the list of accounts holds it -/
def line (a : Account) : String :=
  ":".intercalate [a.name, "x", toString a.id, toString a.group, a.comment, a.home, a.shell] ++ "\n"

end Account
end JarLauncher.Unix
