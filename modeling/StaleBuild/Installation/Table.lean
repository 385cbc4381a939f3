import StaleBuild.Installation.Start
import StaleBuild.Shell.Start
import StaleBuild.Utility.Calculating
import StaleBuild.Utility.Checking
import StaleBuild.Utility.Chunking
import StaleBuild.Utility.Coding
import StaleBuild.Utility.Columns
import StaleBuild.Utility.Comparing
import StaleBuild.Utility.Consulting
import StaleBuild.Utility.Copying
import StaleBuild.Utility.Dating
import StaleBuild.Utility.Declining
import StaleBuild.Utility.Editing
import StaleBuild.Utility.Interpreting
import StaleBuild.Utility.Listing
import StaleBuild.Utility.Matching
import StaleBuild.Utility.Ordering
import StaleBuild.Utility.Precedence
import StaleBuild.Utility.Printing
import StaleBuild.Utility.Reading
import StaleBuild.Utility.Recording
import StaleBuild.Utility.Running
import StaleBuild.Utility.Searching

/-!
The programs that are installed. Those that write as they go hold nothing back; the others write at
their end what they put out.
-/

namespace StaleBuild.Installation

open Host (Program)

/-- A program that writes at its end. -/
def late (name : String) (program : Program) : Installed := ⟨name, true, program⟩

/-- A program that writes at once. -/
def prompt (name : String) (program : Program) : Installed := ⟨name, false, program⟩

/-- The programs that mostly decline what they are given. -/
def declining : List Installed :=
  [late "chcon" (Utility.needing 1 "HLPRhvu:r:t:l:" [] 2 "missing operand"),
    late "chroot" (Utility.needing 125 "+" [] 1 "missing operand"),
    late "csplit" (Utility.needing 1 "f:b:kn:sqz" [] 2 "missing operand"),
    late "df" (Utility.needing 1 "aB:iF:hHklmPTt:vx:" [] 0 ""),
    late "dircolors" (Utility.needing 1 "bcp" [] 0 ""),
    late "fmt" (Utility.needing 1 "cstuw:p:g:" [] 0 ""), late "hostid" Utility.hostid,
    late "mknod" (Utility.mknod Utility.mkfifo), late "pathchk" Utility.pathchk,
    late "ptx" (Utility.needing 1 "AF:GM:ORS:TW:b:i:fg:o:trw:" [] 0 ""),
    late "runcon" (Utility.needing 125 "+r:t:u:l:c" [] 0 ""),
    late "shred" (Utility.needing 1 "fn:s:uvxz" [] 1 "missing file operand"),
    late "flock" (Utility.needing 64 "+sexnoFw:uc:E:" [] 1 "not enough arguments"),
    late "ionice" (Utility.needing 1 "+n:c:p:P:u:t" [] 0 ""),
    late "lscpu" (Utility.needing 1 "aBbCcephJs:xyV" [] 0 ""),
    late "mount" (Utility.needing 1 "aBcfFhilL:Mn:No:O:rRsT:U:vVwt:" [] 0 ""),
    late "mcookie" (Utility.needing 1 "f:m:vVh" [] 0 ""),
    late "diff3" (Utility.comparing 3 3 "AeE3xXimL:aT"),
    late "sdiff" (Utility.comparing 2 2 "abBdEHiI:lo:stvw:WZ"),
    late "gzip" (Utility.gzip false false), late "gunzip" (Utility.gzip true false),
    late "zcat" (Utility.gzip true true), late "tar" Utility.tar, late "more" Utility.more]

/-- The programs that are installed. -/
def installed : List Installed :=
  [prompt "sh" (Shell.Start.program .basic), prompt "dash" (Shell.Start.program .basic),
    prompt "bash" (Shell.Start.program .extended),
    late "true" Utility.succeed, late "false" Utility.fail, late "echo" Utility.echo,
    late "printf" Utility.printf, late "test" Utility.test, late "[" Utility.test,
    late "pwd" Utility.pwd, late "yes" Utility.yes, late "seq" Utility.seq,
    late "basename" Utility.basename, late "dirname" Utility.dirname, late "whoami" Utility.whoami,
    late "id" Utility.identity, late "uname" Utility.uname, late "nproc" (Utility.telling "1"),
    late "hostname" Utility.hostname, late "arch" (Utility.telling "x86_64"),
    late "env" Utility.env, late "printenv" Utility.printenv, prompt "nice" Utility.nice,
    prompt "nohup" Utility.nohup, prompt "setsid" Utility.setsid, prompt "sleep" Utility.sleep,
    prompt "timeout" Utility.timeout, prompt "xargs" Utility.xargs,
    prompt "cat" Utility.cat, late "tac" Utility.tac, late "rev" Utility.rev, prompt "tee" Utility.tee,
    late "head" Utility.head, late "tail" Utility.tail, late "wc" Utility.wc, late "nl" Utility.nl,
    late "touch" Utility.touch, late "mkdir" Utility.mkdir, late "rmdir" Utility.rmdir,
    late "rm" Utility.rm, late "unlink" Utility.unlink, late "chmod" Utility.chmod,
    late "chown" (Utility.chown false), late "chgrp" (Utility.chown true),
    late "mkfifo" Utility.mkfifo, late "truncate" Utility.truncate, late "mktemp" Utility.mktemp,
    late "cp" Utility.cp, late "mv" Utility.mv, late "ln" Utility.ln, late "link" Utility.link,
    late "install" Utility.install,
    late "grep" Utility.grep, late "egrep" (Utility.grepWith "-E"),
    late "fgrep" (Utility.grepWith "-F"), late "rgrep" (Utility.grepWith "-r"), late "sed" Utility.sed,
    late "sort" Utility.sort, late "uniq" Utility.uniq, late "comm" Utility.comm,
    late "join" Utility.join, late "shuf" Utility.shuf, late "cut" Utility.cut,
    late "paste" Utility.paste, late "tr" Utility.tr, late "fold" Utility.fold,
    late "expand" Utility.expand, late "unexpand" Utility.unexpand,
    late "date" Utility.date, late "ls" Utility.ls, late "dir" (Utility.lsAs .down true),
    late "vdir" (Utility.lsAs .long true), late "stat" Utility.stat, late "readlink" Utility.readlink,
    late "realpath" Utility.realpath, late "du" Utility.du,
    late "md5sum" (Utility.checksum Utility.Check.md5),
    late "sha1sum" (Utility.checksum Utility.Check.sha1),
    late "sha224sum" (Utility.checksum Utility.Check.sha224),
    late "sha256sum" (Utility.checksum Utility.Check.sha256),
    late "sha384sum" (Utility.checksum Utility.Check.sha384),
    late "sha512sum" (Utility.checksum Utility.Check.sha512),
    late "b2sum" Utility.b2sum, late "cksum" Utility.cksum, late "sum" Utility.sum,
    late "od" Utility.od, late "base64" (Utility.coding Utility.Alphabet.base64),
    late "base32" (Utility.coding Utility.Alphabet.base32),
    late "find" Utility.find, late "awk" Utility.awk, late "mawk" Utility.awk,
    prompt "dd" Utility.dd, late "split" Utility.split, late "cmp" Utility.cmp,
    late "diff" Utility.diff, late "expr" Utility.expr, late "factor" Utility.factor,
    late "numfmt" Utility.numfmt,
    late "tty" Utility.tty, late "stty" Utility.stty, late "who" (Utility.silent 2 "abdHilmpqrstTuw"),
    late "users" (Utility.silent 1 ""), late "pinky" (Utility.silent 9 "sfwiqbhlp"),
    late "groups" Utility.groups, late "logname" Utility.logname, late "sync" Utility.sync,
    prompt "stdbuf" Utility.stdbuf, late "which" Utility.which, late "kill" Utility.kill,
    late "getopt" Utility.getopt, late "basenc" Utility.basenc, late "tsort" Utility.tsort,
    late "python3" Utility.interpreter] ++ declining

/-- The names of the programs that are installed. -/
def names : List String := installed.map Installed.name

/-- A way to start the programs that are installed. -/
def starter : Host.Starter := start installed deepest

end StaleBuild.Installation
