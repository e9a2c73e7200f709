/-!
# Command-line arguments

What a command line asks for. It names one of two commands, or asks for help or for the version
instead. The command `compile` takes options, some with values. A value stands in the next
argument or, behind `=` or directly behind a short option, in the same one. Short options without
values can share one argument. An argument that begins with a hyphen is not taken for the value
of the option before it, unless it is the hyphen alone.

A command line that does not have this form is refused as a whole.
-/

namespace TwoPhase.CommandLine

/-- The options of all commands. -/
inductive Opt where
  | module
  | plugin
  | pluginOption
  | emitIr
  | call
  | json
  | verbose
  | help
deriving DecidableEq, Repr

/-- Whether the option has a value. -/
def Opt.takesValue : Opt → Bool
  | module | plugin | pluginOption | call => true
  | emitIr | json | verbose | help => false

/-- The options of one command, by their long and short names. -/
structure Grammar where
  long : List (String × Opt)
  short : List (Char × Opt)

/-- The options that every command takes. -/
def Grammar.common : Grammar where
  long := [("verbose", .verbose), ("help", .help)]
  short := [('v', .verbose), ('h', .help)]

/-- The options of the command `compile`. -/
def Grammar.compile : Grammar where
  long := [("module", .module), ("plugin", .plugin), ("plugin-option", .pluginOption),
    ("emit-ir", .emitIr), ("call", .call)] ++ common.long
  short := [('m', .module), ('P', .pluginOption)] ++ common.short

/-- The options of the command `identity`. -/
def Grammar.identity : Grammar where
  long := ("json", .json) :: common.long
  short := common.short

/-- An option as it was given; an option without a value has the empty one. -/
structure Given where
  opt : Opt
  value : String
deriving DecidableEq, Repr

/-- What one argument holds: options with their values, and possibly a last option whose value
is in the next argument. -/
structure Reading where
  given : List Given
  waiting : Option Opt

namespace Grammar

/-- Reads a long option, from behind its two hyphens. -/
def readLong (g : Grammar) (chars : List Char) : Option Reading := do
  let name := chars.takeWhile (· != '=')
  let opt ← g.long.lookup (String.ofList name)
  match chars.dropWhile (· != '='), opt.takesValue with
  | [], true => some ⟨[], some opt⟩
  | [], false => some ⟨[⟨opt, ""⟩], none⟩
  | _ :: value, true => some ⟨[⟨opt, String.ofList value⟩], none⟩
  | _ :: _, false => none

/-- Reads short options, from behind their hyphen. -/
def readShort (g : Grammar) : List Char → Option Reading
  | [] => some ⟨[], none⟩
  | c :: rest => do
      let opt ← g.short.lookup c
      if opt.takesValue then
        match rest with
        | [] => some ⟨[], some opt⟩
        | '=' :: value => some ⟨[⟨opt, String.ofList value⟩], none⟩
        | value => some ⟨[⟨opt, String.ofList value⟩], none⟩
      else
        let reading ← g.readShort rest
        some { reading with given := ⟨opt, ""⟩ :: reading.given }

/-- Reads one argument. One that is no option is refused. -/
def readArgument (g : Grammar) (argument : String) : Option Reading :=
  match argument.toList with
  | '-' :: '-' :: chars => g.readLong chars
  | '-' :: c :: chars => g.readShort (c :: chars)
  | _ => none

/-- Whether an argument can be the value of the option before it. -/
def isValue (argument : String) : Bool :=
  argument == "-" || argument.toList.head? != some '-'

/-- Reads all arguments of a command. Behind two hyphens alone there must be nothing. -/
def read (g : Grammar) : List String → Option (List Given)
  | [] => some []
  | "--" :: rest => if rest.isEmpty then some [] else none
  | argument :: rest =>
      match g.readArgument argument, rest with
      | none, _ => none
      | some ⟨given, none⟩, rest => (g.read rest).map (given ++ ·)
      | some ⟨_, some _⟩, [] => none
      | some ⟨given, some opt⟩, value :: rest =>
          if isValue value then (g.read rest).map (given ++ ⟨opt, value⟩ :: ·) else none

end Grammar

/-- The settings of the command `compile`. -/
structure CompileOptions where
  /-- The name of the module. -/
  module : String
  /-- Further plugins to attach. -/
  plugins : List String
  /-- Options for plugins, not yet taken apart. -/
  pluginOptions : List String
  /-- Whether to print the lowered module. -/
  emitIr : Bool
  /-- The method to call afterwards, behind its class. -/
  call : Option String
deriving DecidableEq, Repr

/-- What a command line asks for. -/
inductive Request where
  | version
  | help
  | compile (options : CompileOptions)
  | identity (json : Bool)
deriving DecidableEq, Repr

/-- The values given for an option. -/
def valuesOf (given : List Given) (opt : Opt) : List String :=
  (given.filter (·.opt == opt)).map Given.value

/-- Whether an option is given at most once. -/
def atMostOnce (given : List Given) (opt : Opt) : Bool := (valuesOf given opt).length ≤ 1

/-- What the arguments of `compile` ask for. -/
def compileRequest (given : List Given) : Option Request :=
  if ([.module, .emitIr, .call] : List Opt).all (atMostOnce given) then
    if (valuesOf given .help).isEmpty then
      some (.compile
        { module := (valuesOf given .module).headD "main"
          plugins := valuesOf given .plugin
          pluginOptions := valuesOf given .pluginOption
          emitIr := !(valuesOf given .emitIr).isEmpty
          call := (valuesOf given .call).head? })
    else some .help
  else none

/-- What the arguments of `identity` ask for. -/
def identityRequest (given : List Given) : Option Request :=
  if atMostOnce given .json then
    if (valuesOf given .help).isEmpty then some (.identity (!(valuesOf given .json).isEmpty))
    else some .help
  else none

/-- What short options in front of the command ask for: nothing by themselves, or to stop at
one of them. The outer `none` refuses them. -/
def leadingShort : List Char → Option (Option Request)
  | [] => some none
  | 'v' :: rest => leadingShort rest
  | 'V' :: _ => some (some .version)
  | 'h' :: _ => some (some .help)
  | _ => none

/-- What the arguments of `help` ask for: they may name one command. -/
def helpRequest : List String → Option Request
  | [] => some .help
  | [topic] => if ["compile", "identity", "help"].contains topic then some .help else none
  | _ => none

/-- What a command line asks for, if it has the right form. -/
def parse : List String → Option Request
  | [] => none
  | "compile" :: rest => Grammar.compile.read rest >>= compileRequest
  | "identity" :: rest => Grammar.identity.read rest >>= identityRequest
  | "help" :: rest => helpRequest rest
  | "--version" :: _ => some .version
  | "--help" :: _ => some .help
  | "--verbose" :: rest => parse rest
  | argument :: rest =>
      match argument.toList with
      | '-' :: c :: chars =>
          match leadingShort (c :: chars) with
          | none => none
          | some none => parse rest
          | some (some request) => some request
      | _ => none

end TwoPhase.CommandLine
