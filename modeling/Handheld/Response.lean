import Handheld.Session

/-! # Responses

What the program answers to its arguments: text for the standard output, text for the standard
error, and an exit code.
-/
set_option autoImplicit false
namespace Handheld

structure Response where
  code : UInt8
  out : String
  err : String
  /-- Milliseconds to wait for a program that does not leave by itself. -/
  wait : Nat

namespace UsageError

def message : UsageError → String
  | unknownArgument => "unexpected argument found"
  | missingValue => "a value is required but none was supplied"
  | badValue => "invalid value"
  | repeated => "an argument cannot be used multiple times"
  | unneededValue => "unexpected value for an argument that takes none"
  | missingApp => "the following required arguments were not provided:\n  --app <APP>"
  | helpWanted | versionWanted => ""

end UsageError

namespace Response

def usage : String := "Usage: lavvm [OPTIONS] --app <APP>"

def help : String :=
  "Runtime core of a Lav bytecode virtual machine for handheld devices\n\n" ++ usage ++ "\n\n" ++
  "Options:\n" ++
  "  -a, --app <APP>          Lav 程序路径\n" ++
  "  -c, --config <CONFIG>    配置文件地址 [default: profile/config.toml]\n" ++
  "      --width <WIDTH>      屏幕宽度 (像素), 覆盖配置文件\n" ++
  "      --height <HEIGHT>    屏幕高度 (像素), 覆盖配置文件\n" ++
  "  -e, --exit-on-finish     程序结束后立即退出\n" ++
  "  -t, --timeout <TIMEOUT>  最长运行时间 (毫秒), 超时后终止 [default: 5000]\n" ++
  "      --dump-text          退出后以十六进制打印文本缓冲区\n" ++
  "  -h, --help               Print help\n" ++
  "  -V, --version            Print version\n"

def version : String := "lavvm 0.1.0\n"

def ofUsageError : UsageError → Response
  | .helpWanted => ⟨0, help, "", 0⟩
  | .versionWanted => ⟨0, version, "", 0⟩
  | e => ⟨2, "", s!"error: {e.message}\n\n{usage}\n\nFor more information, try '--help'.\n", 0⟩

def toArguments (files : Files) (base : String) (argv : List String) : Response :=
  match Arguments.parse argv with
  | .error e => ofUsageError e
  | .ok arguments =>
    match Session.run files base arguments with
    | .error e => ⟨1, "", s!"Error: {e.message}\n", 0⟩
    | .ok outcome =>
      ⟨0, outcome.output, "", if outcome.exited then 0 else arguments.timeout⟩

end Response
end Handheld
