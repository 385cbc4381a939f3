import StaleBuild.Files.Tree
import StaleBuild.Host.Text

/-!
The files that every host has: the directories of the system, its devices, and the programs that are
installed. A program is a file that starts with a mark and goes on with the name of the program.

`Installation` gives the launcher that the program runs with. The theorems about builds hold for every
launcher, so nothing is proved about this one.
-/

namespace StaleBuild.Installation

open Host (Str str)

/-- What the file of a program starts with. -/
def programMark : Str := ['\x7f', 'E', 'L', 'F']

/-- The contents of the file of a program. -/
def contents (name : String) : Bytes := Host.toBytes (programMark ++ str name)

/-- The name of the program whose file has some contents. -/
def programName? (bytes : Bytes) : Option Str :=
  programMark.isPrefixOf? (Host.ofBytes (bytes.take 256))

/-- A path as a location. -/
def location (path : String) : Location :=
  ((Path.segments (Utf8.encode path)).filter (· ≠ [])).reverse

/-- The time at which the system was installed. -/
def installedAt : Time := 1700000000000000000

/-- An entry of the system. -/
def entry (path : String) (node : Node) (mode : Nat) : Location × Entry :=
  (location path, { Entry.new node installedAt with mode })

/-- The directories of the system. -/
def directories : List (Location × Entry) :=
  (["", "usr", "usr/bin", "usr/sbin", "usr/lib", "usr/lib64", "usr/include", "usr/share", "usr/local",
    "usr/local/bin", "usr/local/sbin", "usr/local/lib", "dev", "dev/fd", "etc", "home", "var", "var/lib",
    "var/log", "boot", "media", "mnt", "opt", "proc", "run", "srv", "sys"].map fun p =>
      entry p .directory 0o755) ++
  [entry "tmp" .directory 0o1777, entry "var/tmp" .directory 0o1777, entry "root" .directory 0o700]

/-- The links of the system. -/
def links : List (Location × Entry) :=
  ["bin", "sbin", "lib", "lib64"].map fun n => entry n (.link (.ofString ("usr/" ++ n))) 0o777

/-- The devices of the system. -/
def devices : List (Location × Entry) :=
  [entry "dev/null" (.special .null) 0o666, entry "dev/zero" (.special .zero) 0o666,
    entry "dev/full" (.special .full) 0o666, entry "dev/random" (.special .zero) 0o666,
    entry "dev/urandom" (.special .zero) 0o666, entry "dev/tty" (.special .device) 0o666,
    entry "dev/stdin" (.special (.descriptor 0)) 0o666,
    entry "dev/stdout" (.special (.descriptor 1)) 0o666,
    entry "dev/stderr" (.special (.descriptor 2)) 0o666] ++
  (List.range 64).map fun n => entry ("dev/fd/" ++ toString n) (.special (.descriptor n)) 0o666

/-- The texts of the system. -/
def texts : List (Location × Entry) :=
  [("etc/passwd", "root:x:0:0:root:/root:/bin/bash\ndaemon:x:1:1:daemon:/usr/sbin:/usr/sbin/nologin\n" ++
      "nobody:x:65534:65534:nobody:/nonexistent:/usr/sbin/nologin\n"),
    ("etc/group", "root:x:0:\ndaemon:x:1:\nnogroup:x:65534:\n"),
    ("etc/hosts", "127.0.0.1\tlocalhost\n"), ("etc/hostname", "localhost\n"),
    ("etc/resolv.conf", ""), ("etc/fstab", ""), ("etc/profile", ""),
    ("etc/shells", "# /etc/shells: valid login shells\n/bin/sh\n/bin/bash\n/bin/dash\n"),
    ("etc/debian_version", "12.0\n"), ("etc/os-release", "NAME=\"Debian GNU/Linux\"\nID=debian\n")].map
    fun (p, t) => entry p (.file (Utf8.encode t)) 0o644

/-- The programs of the system, given their names. -/
def programs (names : List String) : List (Location × Entry) :=
  names.map fun n => entry ("usr/bin/" ++ n) (.file (contents n)) 0o755

/-- Every entry of a system with some programs. -/
def entries (names : List String) : List (Location × Entry) :=
  directories ++ links ++ devices ++ texts ++ programs names

/-- Every file of a system is at one location. -/
theorem shared_of_mem_entries (names : List String) : ∀ e ∈ entries names, e.2.shared = none := by
  have single (path : String) (node : Node) (mode : Nat) :
      (entry path node mode).2.shared = none := rfl
  simp only [entries, directories, links, devices, texts, programs, List.forall_mem_append,
    List.forall_mem_map, List.forall_mem_cons, single]
  simp

/-- A tree with the files of the system where it has none of its own. -/
def furnish (names : List String) (tree : FileTree) : FileTree :=
  let own := tree.entries.map Prod.fst
  { tree with
    entries := tree.entries ++ (entries names).filter fun e => !own.contains e.1
    agreeing := tree.agreeing.append_single fun e h =>
      shared_of_mem_entries names e ((List.mem_filter.1 h).1) }

end StaleBuild.Installation
