/-! # The command line

Arguments are read from left to right. An option whose value stands in the next argument stays
open until the following option begins, and only then its value is looked at; an unknown argument
is refused as soon as it is met.
-/
set_option autoImplicit false
namespace Handheld

inductive Switch
  | app
  | config
  | width
  | height
  | exitOnFinish
  | timeout
  | dumpText
  | help
  | version
  deriving DecidableEq

namespace Switch

def all : List Switch :=
  [app, config, width, height, exitOnFinish, timeout, dumpText, help, version]

def long : Switch → String
  | app => "app"
  | config => "config"
  | width => "width"
  | height => "height"
  | exitOnFinish => "exit-on-finish"
  | timeout => "timeout"
  | dumpText => "dump-text"
  | help => "help"
  | version => "version"

def short? : Switch → Option Char
  | app => some 'a'
  | config => some 'c'
  | exitOnFinish => some 'e'
  | timeout => some 't'
  | help => some 'h'
  | version => some 'V'
  | width | height | dumpText => none

def takesValue : Switch → Bool
  | app | config | width | height | timeout => true
  | exitOnFinish | dumpText | help | version => false

def ofLong? (name : String) : Option Switch := all.find? fun switch => switch.long == name

def ofShort? (letter : Char) : Option Switch := all.find? fun switch => switch.short? == some letter

end Switch

inductive UsageError
  | unknownArgument
  | missingValue
  | badValue
  | repeated
  | unneededValue
  | missingApp
  | helpWanted
  | versionWanted
  deriving DecidableEq

/-- The options given so far; absent ones have their standard values later. -/
structure Options where
  app : Option String
  config : Option String
  width : Option Nat
  height : Option Nat
  exitOnFinish : Bool
  timeout : Option Nat
  dumpText : Bool

structure Arguments where
  app : String
  config : String
  width : Option Nat
  height : Option Nat
  exitOnFinish : Bool
  /-- The longest time to run, in milliseconds. -/
  timeout : Nat
  dumpText : Bool

namespace Options

def none : Options := ⟨.none, .none, .none, .none, false, .none, false⟩

/-- A number below a limit: digits behind a plus sign at most, or a zero behind a minus sign where
numbers with signs are read. -/
def number? (signed : Bool) (limit : Nat) (text : String) : Option Nat :=
  let (negative, digits) := match text.toList with
    | '+' :: rest => (false, rest)
    | '-' :: rest => (true, rest)
    | cs => (false, cs)
  if digits.isEmpty || !digits.all Char.isDigit || (negative && !signed) then .none
  else
    let n := digits.foldl (fun n c => n * 10 + (c.toNat - 48)) 0
    if (negative && n != 0) || limit ≤ n then .none else some n

def setValue (options : Options) (switch : Switch) (value : String) : Except UsageError Options :=
  match switch with
  | .app => if options.app.isSome then .error .repeated else .ok { options with app := value }
  | .config =>
    if options.config.isSome then .error .repeated else .ok { options with config := value }
  | .width =>
    if options.width.isSome then .error .repeated
    else
      match number? true 0x100000000 value with
      | some n => .ok { options with width := n }
      | .none => .error .badValue
  | .height =>
    if options.height.isSome then .error .repeated
    else
      match number? true 0x100000000 value with
      | some n => .ok { options with height := n }
      | .none => .error .badValue
  | .timeout =>
    if options.timeout.isSome then .error .repeated
    else
      match number? false 0x10000000000000000 value with
      | some n => .ok { options with timeout := n }
      | .none => .error .badValue
  | .exitOnFinish | .dumpText | .help | .version => .error .unneededValue

def setFlag (options : Options) (switch : Switch) : Except UsageError Options :=
  match switch with
  | .exitOnFinish =>
    if options.exitOnFinish then .error .repeated else .ok { options with exitOnFinish := true }
  | .dumpText =>
    if options.dumpText then .error .repeated else .ok { options with dumpText := true }
  | .help => .error .helpWanted
  | .version => .error .versionWanted
  | .app | .config | .width | .height | .timeout => .error .missingValue

end Options

structure OpenOption where
  switch : Switch
  value : Option String

structure ArgumentReader where
  options : Options
  opened : Option OpenOption
  /-- Whether the mark was met behind which there are no options. -/
  closed : Bool

namespace ArgumentReader

def start : ArgumentReader := ⟨.none, none, false⟩

def settle (reader : ArgumentReader) : Except UsageError ArgumentReader :=
  match reader.opened with
  | none => .ok reader
  | some ⟨_, none⟩ => .error .missingValue
  | some ⟨switch, some value⟩ => do
    return { reader with options := ← reader.options.setValue switch value, opened := none }

def meet (reader : ArgumentReader) (switch : Switch) (attached : Option String) :
    Except UsageError ArgumentReader :=
  match switch.takesValue, attached with
  | false, some _ => .error .unneededValue
  | false, none => do
    let reader ← reader.settle
    return { reader with options := ← reader.options.setFlag switch }
  | true, some value => do
    let reader ← reader.settle
    return { reader with options := ← reader.options.setValue switch value }
  | true, none => do
    let reader ← reader.settle
    return { reader with opened := some ⟨switch, none⟩ }

/-- A run of letters behind a single dash. The rest behind a letter that takes a value is the value,
without an equals sign at its start. -/
def meetLetters (reader : ArgumentReader) : List Char → Except UsageError ArgumentReader
  | [] => .ok reader
  | letter :: rest =>
    match Switch.ofShort? letter with
    | none => .error .unknownArgument
    | some switch =>
      if switch.takesValue then
        match rest with
        | [] => reader.meet switch none
        | '=' :: value => reader.meet switch (some (String.ofList value))
        | value => reader.meet switch (some (String.ofList value))
      else do (← reader.meet switch none).meetLetters rest

def meetName (reader : ArgumentReader) (text : List Char) : Except UsageError ArgumentReader :=
  match Switch.ofLong? (String.ofList (text.takeWhile (· != '='))) with
  | none => .error .unknownArgument
  | some switch =>
    match text.dropWhile (· != '=') with
    | [] => reader.meet switch none
    | _ :: value => reader.meet switch (some (String.ofList value))

def meetPlain (reader : ArgumentReader) (text : String) : Except UsageError ArgumentReader :=
  match reader.opened with
  | some ⟨switch, none⟩ => .ok { reader with opened := some ⟨switch, some text⟩ }
  | _ => .error .unknownArgument

def read (reader : ArgumentReader) (argument : String) : Except UsageError ArgumentReader :=
  if reader.closed then .error .unknownArgument
  else
    match argument.toList with
    | ['-', '-'] => .ok { reader with closed := true }
    | '-' :: '-' :: name => reader.meetName name
    | '-' :: letter :: letters => reader.meetLetters (letter :: letters)
    | _ => reader.meetPlain argument

def readAll (reader : ArgumentReader) : List String → Except UsageError ArgumentReader
  | [] => .ok reader
  | argument :: rest => do (← reader.read argument).readAll rest

end ArgumentReader

def Arguments.parse (argv : List String) : Except UsageError Arguments := do
  let reader ← ArgumentReader.start.readAll argv
  let options := (← reader.settle).options
  match options.app with
  | none => .error .missingApp
  | some app =>
    return {
      app := app
      config := options.config.getD "profile/config.toml"
      width := options.width
      height := options.height
      exitOnFinish := options.exitOnFinish
      timeout := options.timeout.getD 5000
      dumpText := options.dumpText }

end Handheld
