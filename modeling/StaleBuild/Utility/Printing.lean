import StaleBuild.Host.Options
import StaleBuild.Host.Signal
import StaleBuild.Utility.Condition
import StaleBuild.Utility.Format

/-!
Utilities that write what they are told or what they know: texts, numbers, names of files without
their directories, and facts about the host.
-/

namespace StaleBuild.Utility

open Host (Str str Call Program Given)

/-- Succeed. -/
def succeed : Program := fun _ _ => return 0

/-- Fail. -/
def fail : Program := fun _ _ => return 1

/-- Write the arguments with blanks between them. -/
def echo : Program := fun _ c => do
  let isOption (a : Str) : Bool := match a with
    | '-' :: d :: rest => (d :: rest).all fun e => e = 'n' || e = 'e' || e = 'E'
    | _ => false
  let flags := c.args.takeWhile isOption
  let letters := flags.flatten.filter fun d => d = 'e' || d = 'E'
  let text := Host.joinWith [' '] (c.args.drop flags.length)
  let (text, goesOn) := if letters.getLast? = some 'e' then Escapes.program.read text else (text, true)
  Act.say text
  if goesOn && !flags.any (·.contains 'n') then Act.say ['\n']
  return 0

/-- Write the arguments through a format. -/
def printf : Program := fun _ c => do
  let args := match c.args with
    | ['-', '-'] :: rest => rest
    | args => args
  match args with
  | [] => c.misused 1 (str "missing operand")
  | format :: args => do
    let (events, status) := Format.run .program format args
    for e in events do
      match e with
      | .put text => Act.say text
      | .complain words => c.warn words
    return status

/-- Evaluate a condition. -/
def test : Program := fun _ c => do
  let h ← get
  let subject : Condition.Subject :=
    ⟨h.files, fun n => h.process.environment.any fun v => v.1 = n, fun _ => false⟩
  let name := if c.name.getLast? = some '[' then ['['] else str "test"
  match Condition.forName .program subject name c.args with
  | .ok yes => return if yes then 0 else 1
  | .error words => c.die 2 words

/-- Write the path of the current directory. -/
def pwd : Program := fun _ c => do
  let g ← c.read 1 "LP" [⟨"logical", .nothing, 'L'⟩, ⟨"physical", .nothing, 'P'⟩] true
  if g.operands ≠ [] then c.warn (str "ignoring non-option arguments")
  Act.say (Host.ofPath (← Act.tree).currentPath ++ ['\n'])
  return 0

/-- Write a line over and over, as long as someone reads. -/
def yes : Program := fun _ c => do
  let g ← c.read 1 "" [] true
  let line := (if g.operands = [] then ['y'] else Host.joinWith [' '] g.operands) ++ ['\n']
  Act.say (List.replicate (Host.endless / line.length + 1) line).flatten
  let _ ← Act.flush
  throw (.killed Host.Signal.pipe)

/-! ## Numbers in a row -/

/-- A decimal number of a user: its value in units of its last place, and how many places it has. -/
structure Numeral where
  units : Int
  places : Nat

/-- Read a decimal number. -/
def Numeral.read? (s : Str) : Option Numeral :=
  let (isNegative, t) := match s with
    | '-' :: rest => (true, rest)
    | '+' :: rest => (false, rest)
    | rest => (false, rest)
  let (mantissa, exponent) := match t.span fun c => c ≠ 'e' && c ≠ 'E' with
    | (m, []) => (m, some 0)
    | (m, _ :: e) => (m, Host.integer? e)
  let (whole, fraction) := match Host.cut '.' mantissa with
    | (w, none) => (w, [])
    | (w, some f) => (w, f)
  match exponent with
  | none => none
  | some e =>
    if whole ++ fraction = [] || !(whole ++ fraction).all Char.isDigit then none
    else
      let units : Int := Host.foldDigits 10 (whole ++ fraction)
      let places : Int := fraction.length - e
      let units := if isNegative then -units else units
      some (if places < 0 then ⟨units * 10 ^ (-places).toNat, 0⟩ else ⟨units, places.toNat⟩)

/-- A decimal number in finer units. -/
def Numeral.scaled (d : Numeral) (places : Nat) : Int := d.units * 10 ^ (places - d.places)

/-- A decimal number with all its places. -/
def Numeral.shown (places : Nat) (units : Int) : Str :=
  let digits := Host.padZero (places + 1) units.natAbs
  let whole := digits.take (digits.length - places)
  (if units < 0 then ['-'] else []) ++ whole ++
    if places = 0 then [] else '.' :: digits.drop whole.length

/-- A text with zeros behind its sign up to a width. -/
def zeroFilled (width : Nat) (s : Str) : Str :=
  match s with
  | '-' :: rest => '-' :: Host.run (width - 1 - rest.length) '0' ++ rest
  | s => Host.run (width - s.length) '0' ++ s

/-- The longest row of numbers. -/
def longestRow : Nat := 2000000

/-- Write numbers in a row. -/
def seq : Program := fun _ c => do
  -- a negative number is no option
  let isNumber (a : Str) : Bool := match a with
    | '-' :: d :: _ => d.isDigit || d = '.'
    | _ => false
  let options := c.args.takeWhile fun a => a.head? = some '-' && !isNumber a
  let rest := c.args.drop options.length
  let (options, rest) := match options.getLast?, rest with
    | some last, value :: more =>
      if last = ['-', 's'] || last = ['-', 'f'] || last = str "--separator" then
        let behind := more.takeWhile fun a => a.head? = some '-' && !isNumber a
        (options ++ value :: behind, more.drop behind.length)
      else (options, rest)
    | _, _ => (options, rest)
  let g ← { c with args := options ++ ['-', '-'] :: rest }.read 1 "f:s:w"
    [⟨"format", .value, 'f'⟩, ⟨"separator", .value, 's'⟩, ⟨"equal-width", .nothing, 'w'⟩] true
  let operands := match g.operands with
    | ['-', '-'] :: rest => rest
    | l => l
  let read (s : Str) : Act Numeral :=
    match Numeral.read? s with
    | some d => return d
    | none => c.misused 1 (str "invalid floating point argument: " ++ Host.Quote.curly s)
  let one : Numeral := ⟨1, 0⟩
  let (first, step, last) ← match operands with
    | [] => c.misused 1 (str "missing operand")
    | [last] => pure (one, one, ← read last)
    | [first, last] => do
      let first ← read first
      pure (first, one, ← read last)
    | [first, step, last] => do
      let first ← read first
      let step ← read step
      pure (first, step, ← read last)
    | _ :: _ :: _ :: extra :: _ => c.misused 1 (str "extra operand " ++ Host.Quote.curly extra)
  if step.units = 0 then
    c.misused 1 (str "invalid Zero increment value: " ++ Host.Quote.curly (operands[1]?.getD []))
  let places := max first.places step.places
  let finest := max places last.places
  let (a, d, z) := (first.scaled finest, step.scaled finest, last.scaled finest)
  let count := if (0 < d && z < a) || (d < 0 && a < z) then 0
    else ((z - a).fdiv d).toNat + 1
  let coarse (n : Int) : Int := n / 10 ^ (finest - places)
  let numbers := (List.range (min count longestRow)).map fun (i : Nat) => a + d * i
  let width := (numbers.map fun n => (Numeral.shown places (coarse n)).length).foldl max 0
  let show' (n : Int) : Str :=
    let s := Numeral.shown places (coarse n)
    match g.value? 'f' with
    | some format => Format.written (Format.run .program format [s]).1
    | none => if g.has 'w' then zeroFilled width s else s
  let separator := (g.value? 's').getD ['\n']
  if numbers ≠ [] then Act.say (Host.joinWith separator (numbers.map show') ++ ['\n'])
  return 0

/-! ## Names of files -/

/-- A name without an ending that is not all of it. -/
def withoutSuffix (suffix name : Str) : Str :=
  if suffix ≠ name && suffix.isSuffixOf name then name.take (name.length - suffix.length) else name

/-- Write names of files without their directories. -/
def basename : Program := fun _ c => do
  let g ← c.readSome 1 "as:z"
    [⟨"multiple", .nothing, 'a'⟩, ⟨"suffix", .value, 's'⟩, ⟨"zero", .nothing, 'z'⟩] "operand" false
  let ending := if g.has 'z' then ['\x00'] else ['\n']
  if g.has 'a' || g.has 's' then
    for n in g.operands do
      Act.say (withoutSuffix ((g.value? 's').getD []) (Host.baseName n) ++ ending)
  else match g.operands with
    | [n] => Act.say (Host.baseName n ++ ending)
    | [n, suffix] => Act.say (withoutSuffix suffix (Host.baseName n) ++ ending)
    | _ :: _ :: extra :: _ => c.misused 1 (str "extra operand " ++ Host.Quote.curly extra)
    | [] => pure ()
  return 0

/-- Write the directories of names of files. -/
def dirname : Program := fun _ c => do
  let g ← c.readSome 1 "z" [⟨"zero", .nothing, 'z'⟩] "operand" true
  for n in g.operands do
    Act.say (Host.dirName n ++ if g.has 'z' then ['\x00'] else ['\n'])
  return 0

/-! ## Facts -/

/-- A program that writes one line, whatever it is asked. -/
def telling (line : String) : Program := fun _ c => do
  let g ← c.read 1 "" [⟨"all", .nothing, 'a'⟩, ⟨"ignore", .value, 'i'⟩] true
  match g.operands with
  | extra :: _ => c.misused 1 (str "extra operand " ++ Host.Quote.curly extra)
  | [] => do
    Act.say (str line ++ ['\n'])
    return 0

/-- How the name of the host is asked for. -/
def hostnameUsage : Str := str "Usage: hostname [-b] \x7bhostname|-F file\x7d         set host name (from file)
       hostname [-a|-A|-d|-f|-i|-I|-s|-y]       display formatted name
       hostname                                 display host name

       \x7byp,nis,\x7ddomainname \x7bnisdomain|-F file\x7d  set NIS domain name (from file)
       \x7byp,nis,\x7ddomainname                      display NIS domain name

       dnsdomainname                            display dns domain name

       hostname -V|--version|-h|--help          print info and exit

Program name:
       \x7byp,nis,\x7ddomainname=hostname -y
       dnsdomainname=hostname -d

Program options:
    -a, --alias            alias names
    -A, --all-fqdns        all long host names (FQDNs)
    -b, --boot             set default hostname if none available
    -d, --domain           DNS domain name
    -f, --fqdn, --long     long host name (FQDN)
    -F, --file             read host name or NIS domain name from given file
    -i, --ip-address       addresses for the host name
    -I, --all-ip-addresses all addresses for the host
    -s, --short            short host name
    -y, --yp, --nis        NIS/YP domain name

Description:
   This command can get or set the host name or the NIS domain name. You can
   also get the DNS domain or the FQDN (fully qualified domain name).
   Unless you are using bind or NIS for host lookups you can change the
   FQDN (Fully Qualified Domain Name) and the DNS domain name (which is
   part of the FQDN) in the /etc/hosts file.
"

/-- Write the name of the host, which has no domain. -/
def hostname : Program := fun _ c => do
  match Host.OptionTable.read ⟨"aAdfbF:h?iIsVy",
      [⟨"alias", .nothing, 'a'⟩, ⟨"all-fqdns", .nothing, 'A'⟩, ⟨"boot", .nothing, 'b'⟩,
        ⟨"domain", .nothing, 'd'⟩, ⟨"fqdn", .nothing, 'f'⟩, ⟨"long", .nothing, 'f'⟩,
        ⟨"file", .value, 'F'⟩, ⟨"help", .nothing, 'h'⟩, ⟨"ip-address", .nothing, 'i'⟩,
        ⟨"all-ip-addresses", .nothing, 'I'⟩, ⟨"short", .nothing, 's'⟩, ⟨"version", .nothing, 'V'⟩,
        ⟨"yp", .nothing, 'y'⟩, ⟨"nis", .nothing, 'y'⟩], true⟩ c.args with
  | .error complaint => do
    c.warn complaint
    Act.complain hostnameUsage
    return 255
  | .ok g => do
    let asks := g.options.any fun o => o.1 ≠ 'b'
    if g.has 'h' then
      Act.say hostnameUsage
      return 0
    if (asks && !g.operands.isEmpty) || 1 < g.operands.length then
      Act.complain hostnameUsage
      return 255
    if !g.operands.isEmpty then c.die 1 (str "you must be root to change the host name")
    if g.has 'd' then return 0
    Act.say (str (if g.has 'i' || g.has 'I' then "127.0.0.1\n" else "localhost\n"))
    return 0

/-- Write the name of the user. -/
def whoami : Program := telling "root"

/-- Say who the user is. -/
def identity : Program := fun _ c => do
  let g ← c.read 1 "agGnruzZ"
    [⟨"user", .nothing, 'u'⟩, ⟨"group", .nothing, 'g'⟩, ⟨"groups", .nothing, 'G'⟩,
      ⟨"name", .nothing, 'n'⟩, ⟨"real", .nothing, 'r'⟩] true
  let short := g.has 'u' || g.has 'g' || g.has 'G'
  Act.say (str (if short then (if g.has 'n' then "root\n" else "0\n")
    else "uid=0(root) gid=0(root) groups=0(root)\n"))
  return 0

/-- Say what system the host runs. -/
def uname : Program := fun _ c => do
  let g ← c.read 1 "asnrvmpio"
    [⟨"all", .nothing, 'a'⟩, ⟨"kernel-name", .nothing, 's'⟩, ⟨"nodename", .nothing, 'n'⟩,
      ⟨"machine", .nothing, 'm'⟩, ⟨"operating-system", .nothing, 'o'⟩] true
  let parts : List (Char × String) :=
    [('s', "Linux"), ('n', "localhost"), ('r', "6.1.0"), ('v', "#1 SMP"), ('m', "x86_64"),
      ('o', "GNU/Linux")]
  let wanted := parts.filter fun p => g.has p.1 || g.has 'a' || (g.options = [] && p.1 = 's')
  Act.say (Host.joinWith [' '] (wanted.map fun p => str p.2) ++ ['\n'])
  return 0

end StaleBuild.Utility
