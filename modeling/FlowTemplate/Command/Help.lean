import FlowTemplate.Command.Basic
/-!
# Help texts

A usage line, what a command does, and its options and commands in two columns. Texts are wrapped
at eighty characters.
-/

namespace FlowTemplate.Command

def helpWidth : Nat := 80

/-- Words filled into lines of a width. A word that is too long has a line of its own. -/
def fillWords (width : Nat) (line : String) : List String → List String
  | [] => [line]
  | word :: rest =>
    if line.isEmpty then fillWords width word rest
    else if line.length + 1 + word.length ≤ width then
      fillWords width (line ++ " " ++ word) rest
    else line :: fillWords width word rest

def wrapText (width : Nat) (text : String) : List String :=
  fillWords width "" ((text.toList.splitOn ' ').map String.ofList)

def indented (width : Nat) (line : String) : String :=
  String.ofList (List.replicate width ' ') ++ line

def Spec.usage (s : Spec) : String :=
  "Usage: " ++ " ".intercalate (s.path :: "[OPTIONS]" :: s.arguments)

def Paragraph.lines : Paragraph → List String
  | .wrapped text => (wrapText (helpWidth - 2) text).map (indented 2)
  | .verbatim lines => lines.map (indented 2)

/-- Rows in two columns, the second wrapped. -/
def twoColumns (rows : List (String × String)) : List String :=
  let first := (rows.map fun (term, _) => term.length).foldl max 0 + 2
  rows.flatMap fun (term, text) =>
    match wrapText (helpWidth - first - 2) text with
    | [] => [indented 2 term]
    | line :: rest =>
      (indented 2 term ++ indented (first - term.length) line) :: rest.map (indented (first + 2))

/-- How an option is written, with the mark of its value: the short way first. -/
def OptionSpec.term (o : OptionSpec) : String :=
  let names := ", ".intercalate o.names.reverse
  match o.form with
  | .toggle off => names ++ " / " ++ off
  | .version | .help | .flag =>
    if o.names.length == 1 then names else ", ".intercalate o.names.reverse
  | _ => names ++ o.valueMark

/-- A heading and the lines under it. -/
def helpSection (heading : String) (rows : List (String × String)) : List String :=
  if rows.isEmpty then [] else "" :: heading :: twoColumns rows

/-- The help text of a command. -/
def Spec.help (s : Spec) : String :=
  let lines := s.usage :: s.about.flatMap (fun p => "" :: p.lines)
    ++ helpSection "Options:" (s.options.map fun o => (o.term, o.help))
    ++ helpSection "Commands:" s.commands
  String.join (lines.map (· ++ "\n"))

end FlowTemplate.Command
