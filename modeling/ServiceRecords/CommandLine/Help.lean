import ServiceRecords.CommandLine.Reading

set_option autoImplicit false

/-!
What the program tells about its command line: its help, its version, and scripts that let shells
complete its arguments.
-/

namespace ServiceRecords.CommandLine

def program : String := "rpc-controller"

def versionText : String := program ++ " 0.1.0\n"

/-- The options that can stand at a place. -/
def options : Place → List String
  | .top => Setting.all.map (·.name) ++ ["help", "version"]
  | .help => []
  | _ => Setting.all.map (·.name) ++ ["help"]

def usage : Place → String
  | .top => program ++ " [OPTIONS] [COMMAND]"
  | .run => program ++ " run [OPTIONS]"
  | .completions => program ++ " completions [OPTIONS] <SHELL>"
  | .help => program ++ " help [COMMAND]"

def helpText (place : Place) : String :=
  let commands := if place = .top then
    "\nCommands:\n" ++ String.join (Place.commands.map fun place => "  " ++ place.name ++ "\n")
    else ""
  let listed := String.join ((options place).map fun option => "      --" ++ option ++ "\n")
  "Usage: " ++ usage place ++ "\n" ++ commands ++
    (if listed = "" then "" else "\nOptions:\n" ++ listed)

/-- The words that a shell can complete with two dashes before each option. -/
def optionWords : List String := (options .top).map ("--" ++ ·)

/-- A script that lets a shell complete the options of the program. -/
def Shell.script : Shell → String
  | bash => "complete -W '" ++ String.intercalate " " optionWords ++ "' " ++ program ++ "\n"
  | zsh =>
    "#compdef " ++ program ++ "\n_arguments" ++
      String.join (optionWords.map fun word => " '" ++ word ++ "'") ++ "\n"
  | fish =>
    String.join ((options .top).map fun option =>
      "complete -c " ++ program ++ " -l " ++ option ++ "\n")
  | powershell =>
    "Register-ArgumentCompleter -Native -CommandName '" ++ program ++
      "' -ScriptBlock \x7b param($word) @(" ++
      String.intercalate ", " (optionWords.map fun word => "'" ++ word ++ "'") ++
      ") | Where-Object \x7b $_ -like \"$word*\" \x7d \x7d\n"
  | elvish =>
    "set edit:completion:arg-completer[" ++ program ++ "] = \x7b|@words| put " ++
      String.intercalate " " optionWords ++ " \x7d\n"

/-- Two dashes and the letters and dashes after them, wherever they stand in a text. -/
def mentions (isOption : Char → Bool) : List Char → List (List Char)
  | '-' :: '-' :: rest =>
    if (rest.takeWhile isOption).isEmpty then mentions isOption ('-' :: rest)
    else ('-' :: '-' :: rest.takeWhile isOption) :: mentions isOption (rest.dropWhile isOption)
  | _ :: rest => mentions isOption rest
  | [] => []
termination_by text => text.length
decreasing_by
  · simp
  · have := (List.dropWhile_sublist isOption (l := rest)).length_le
    simp only [List.length_cons]
    omega
  · simp

/-- The options that a text mentions, in order and without repetition. -/
def mentionedOptions (text : String) : List String :=
  let found := mentions (fun c => c.isLower || c == '-') text.toList
  ((found.map String.ofList).mergeSort fun a b => a ≤ b).eraseDups

end ServiceRecords.CommandLine
