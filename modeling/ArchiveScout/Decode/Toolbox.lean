import ArchiveScout.Text.Blank
import ArchiveScout.Text.Utf8

/-!
# ArchiveScout.Decode.Toolbox

**The tools that turn a class into text**: a decompiler run by `java`, and `javap` for
listings. A tool is called with its arguments and replies with what it printed; the
text of a class is what it printed on success, with damage in it replaced.
-/

namespace ArchiveScout.Decode

/-- What a tool printed, and whether it succeeded. -/
structure ToolReply where
  success : Bool
  stdout : List UInt8
  stderr : List UInt8
deriving DecidableEq, Repr

/-- The tools at hand. -/
structure Toolbox where
  /-- The name under which `java` is called. -/
  java : String
  /-- The name under which `javap` is called. -/
  javap : String
  /-- The reply of a tool to its arguments; `none` when there is no such tool. -/
  call : String → List String → Option ToolReply

/-- Why a class has no text. -/
inductive ToolError where
  | cannotExecute (tool : String)
  /-- No tool can be given an argument with a NUL in it. -/
  | nulInArgument (tool : String)
  | decompilation (stderr : String)
  | disassembly (stderr : String)
  | noOutput (className : String)
deriving DecidableEq, Repr

/-- The wording for a tool that does not run. -/
def notExecuted (tool : String) : String :=
  s!"Failed to execute {tool} (ensure JRE/JDK is installed)"

/-- The wording of an error, from the outermost circumstance to the cause. -/
def ToolError.chain : ToolError → List String
  | .cannotExecute tool => [notExecuted tool, "No such file or directory (os error 2)"]
  | .nulInArgument tool => [notExecuted tool, "nul byte found in provided data"]
  | .decompilation stderr => [s!"CFR decompilation failed: {stderr}"]
  | .disassembly stderr => [s!"javap disassembly failed: {stderr}"]
  | .noOutput className => [s!"CFR produced no output for {className}"]

/-- How the decompiler is run. -/
structure Cfr where
  jar : String
  /-- Whether identifiers that are not legal are renamed. -/
  rename : Bool := true
deriving DecidableEq, Repr

/-- The arguments of `java` for decompiling a class. -/
def Cfr.arguments (cfr : Cfr) (archive className : String) : List String :=
  ["-jar", cfr.jar, "--extraclasspath", archive, className, "--silent", "true", "--comments",
    "false", "--renameillegalidents", if cfr.rename then "true" else "false"]

/-- The arguments of `javap` for listing a class. -/
def listingArguments (archive className : String) : List String :=
  ["-c", "-p", "-classpath", archive, className]

namespace Toolbox

/-- What a tool printed, or why it did not. -/
def output (tools : Toolbox) (tool : String) (arguments : List String)
    (failure : String → ToolError) : Except ToolError String :=
  if arguments.any fun argument => argument.toList.contains '\x00' then
    .error (.nulInArgument tool)
  else match tools.call tool arguments with
    | none => .error (.cannotExecute tool)
    | some reply =>
      if reply.success then .ok (Text.decodeLossy reply.stdout)
      else .error (failure (Text.trimmed (Text.decodeLossy reply.stderr)))

/-- The source text of a class. -/
def decompile (tools : Toolbox) (cfr : Cfr) (archive className : String) :
    Except ToolError String :=
  tools.output tools.java (cfr.arguments archive className) .decompilation

/-- The listing of a class. -/
def disassemble (tools : Toolbox) (archive className : String) : Except ToolError String :=
  tools.output tools.javap (listingArguments archive className) .disassembly

end Toolbox

end ArchiveScout.Decode
