import ZigAdvisor.Text.Basic

/-!
# Commands and their options

What each command accepts, and the pages that say so.
-/

namespace ZigAdvisor.Command

inductive Purpose
  | help
  | version
  /-- The settings of the user in place of those of the workspace. -/
  | everywhere
  /-- The preview edition of the editor. -/
  | insiders
  /-- The focus of a review, which is given as a value. -/
  | prompt
deriving DecidableEq

namespace Purpose

def takesValue (p : Purpose) : Bool := p == prompt

end Purpose

structure CommandOption where
  spellings : List String
  purpose : Purpose

namespace CommandOption

def title (o : CommandOption) : Text := .join "/" (o.spellings.map .ofString)

end CommandOption

inductive Operand
  | none
  | file
  /-- A command with everything after it. -/
  | command

structure Grammar where
  program : String
  usage : List String
  details : List String
  options : List CommandOption
  operand : Operand

def helpOption : CommandOption := ⟨["-h", "--help"], .help⟩

def scopeOptions : List CommandOption :=
  [helpOption, ⟨["--global", "-g"], .everywhere⟩, ⟨["--insiders", "-i"], .insiders⟩]

inductive Name
  | install
  | uninstall
  | serve
  | check
  | checkBuild
deriving DecidableEq

namespace Name

def all : List Name := [install, uninstall, serve, check, checkBuild]

def text : Name → String
  | install => "install"
  | uninstall => "uninstall"
  | serve => "serve"
  | check => "check"
  | checkBuild => "check-build"

def ofText? (t : Text) : Option Name := all.find? fun n => Text.ofString n.text == t

end Name

namespace Grammar

def main : Grammar where
  program := "zig-mcp"
  usage := [
    "usage: zig-mcp [-h] [--version]",
    "               \x7binstall,uninstall,serve,check,check-build\x7d ..."]
  details := [
    "",
    "Zig MCP Server - Zig code analysis and generation",
    "",
    "positional arguments:",
    "  \x7binstall,uninstall,serve,check,check-build\x7d",
    "                        Available commands",
    "    install             Install MCP server configuration",
    "    uninstall           Remove MCP server configuration",
    "    serve               Run the MCP server on stdio",
    "    check               Review a Zig source file",
    "    check-build         Analyze a build.zig file",
    "",
    "options:",
    "  -h, --help            show this help message and exit",
    "  --version, -v         show program's version number and exit"]
  options := [helpOption, ⟨["--version", "-v"], .version⟩]
  operand := .command

def install : Grammar where
  program := "zig-mcp install"
  usage := ["usage: zig-mcp install [-h] [--global] [--insiders]"]
  details := [
    "",
    "options:",
    "  -h, --help      show this help message and exit",
    "  --global, -g    Install to user-level VS Code config instead of workspace",
    "  --insiders, -i  Use VS Code Insiders config path (only with --global)"]
  options := scopeOptions
  operand := .none

def uninstall : Grammar where
  program := "zig-mcp uninstall"
  usage := ["usage: zig-mcp uninstall [-h] [--global] [--insiders]"]
  details := [
    "",
    "options:",
    "  -h, --help      show this help message and exit",
    "  --global, -g    Remove from user-level VS Code config instead of workspace",
    "  --insiders, -i  Use VS Code Insiders config path (only with --global)"]
  options := scopeOptions
  operand := .none

def serve : Grammar where
  program := "zig-mcp serve"
  usage := ["usage: zig-mcp serve [-h]"]
  details := [
    "",
    "options:",
    "  -h, --help  show this help message and exit"]
  options := [helpOption]
  operand := .none

def check : Grammar where
  program := "zig-mcp check"
  usage := ["usage: zig-mcp check [-h] [--prompt PROMPT] file"]
  details := [
    "",
    "positional arguments:",
    "  file                  Path to a .zig file",
    "",
    "options:",
    "  -h, --help            show this help message and exit",
    "  --prompt PROMPT, -p PROMPT",
    "                        Focus area for extra recommendations (e.g.",
    "                        performance)"]
  options := [helpOption, ⟨["--prompt", "-p"], .prompt⟩]
  operand := .file

def checkBuild : Grammar where
  program := "zig-mcp check-build"
  usage := ["usage: zig-mcp check-build [-h] file"]
  details := [
    "",
    "positional arguments:",
    "  file        Path to build.zig",
    "",
    "options:",
    "  -h, --help  show this help message and exit"]
  options := [helpOption]
  operand := .file

def ofName : Name → Grammar
  | .install => install
  | .uninstall => uninstall
  | .serve => serve
  | .check => check
  | .checkBuild => checkBuild

def usagePage (g : Grammar) : Text := .ofLines g.usage

def helpPage (g : Grammar) : Text := .ofLines (g.usage ++ g.details)

end Grammar

end ZigAdvisor.Command
