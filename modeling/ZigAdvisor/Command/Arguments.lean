import ZigAdvisor.Command.Option
import ZigAdvisor.Text.Classes
import ZigAdvisor.Text.Quoted

/-!
# Arguments of the command line

Each argument is first classified by itself, and then the arguments are taken in order. A long
option may be shortened as long as it is clear which one is meant, short options may be run
together, and after a double dash nothing is an option.
-/

namespace ZigAdvisor.Command

structure Match where
  spelling : Text
  option : CommandOption
  /-- What follows in the argument, with the equals sign in front left out. -/
  attached : Option Text

inductive Token
  | plain
  /-- The double dash. -/
  | separator
  | option (found : Match)
  | unknownOption

inductive UsageFault
  | ambiguous (argument : Text) (candidates : List Text)
  | missingValue (option : CommandOption)
  | unwantedValue (option : CommandOption) (value : Text)
  | missingFile
  | unknownCommand (name : Text)
  | extraArguments (arguments : List Text)

namespace UsageFault

def message : UsageFault → Text
  | ambiguous argument candidates =>
    .concat ["ambiguous option: ", argument, " could match ", .join ", " candidates]
  | missingValue o => .concat ["argument ", o.title, ": expected one argument"]
  | unwantedValue o value =>
    .concat ["argument ", o.title, ": ignored explicit argument ", value.quoted]
  | missingFile => "the following arguments are required: file"
  | unknownCommand name =>
    .concat [
      "argument command: invalid choice: ", name.quoted, " (choose from ",
      .join ", " (Name.all.map fun n => Text.quoted n.text), ")"]
  | extraArguments arguments => .concat ["unrecognized arguments: ", .join " " arguments]

end UsageFault

/-! ## Single arguments -/

namespace Grammar

def spellings (g : Grammar) : List (Text × CommandOption) :=
  g.options.flatMap fun o => o.spellings.map fun s => (Text.ofString s, o)

def option? (g : Grammar) (spelling : Text) : Option CommandOption := g.spellings.lookup spelling

end Grammar

def splitAssignment (t : Text) : Text × Option Text :=
  match t.span (· ≠ ('=' : CodePoint)) with
  | (before, []) => (before, none)
  | (before, _ :: after) => (before, some after)

/-- The options that an argument may stand for: those it is the beginning of if it has two dashes,
and the one of its first letter if it has one. -/
def candidates (g : Grammar) (argument : Text) : List Match :=
  if argument.startsWith "--" then
    let (beginning, attached) := splitAssignment argument
    (g.spellings.filter fun s => s.1.startsWith beginning).map fun (spelling, option) =>
      { spelling, option, attached }
  else
    (g.spellings.filter fun s => s.1 = argument.take 2).map fun (spelling, option) =>
      { spelling, option, attached := some (argument.drop 2) }

def isNegativeNumber (argument : Text) : Bool :=
  let body := argument.drop 1
  let body := if body.getLast? = some ('\n' : CodePoint) then body.dropLast else body
  let (whole, rest) := body.span CodePoint.isDecimal
  match rest with
  | [] => !whole.isEmpty
  | c :: fraction => c = '.' && !fraction.isEmpty && fraction.all CodePoint.isDecimal

def classify (g : Grammar) (argument : Text) : Except UsageFault Token :=
  if argument.head? ≠ some ('-' : CodePoint) then .ok .plain
  else match g.option? argument with
    | some option => .ok (.option ⟨argument, option, none⟩)
    | none =>
      if argument.length = 1 then .ok .plain
      else
        let (before, attached) := splitAssignment argument
        match attached, g.option? before with
        | some value, some option => .ok (.option ⟨before, option, some value⟩)
        | _, _ =>
          match candidates g argument with
          | [found] => .ok (.option found)
          | [] =>
            if isNegativeNumber argument || argument.contains " " then .ok .plain
            else .ok .unknownOption
          | several => .error (.ambiguous argument (several.map Match.spelling))

def tokens (g : Grammar) : List Text → Except UsageFault (List (Text × Token))
  | [] => .ok []
  | argument :: rest =>
    if argument = ("--" : Text) then
      .ok ((argument, .separator) :: rest.map fun a => (a, .plain))
    else do
      let token ← classify g argument
      return (argument, token) :: (← tokens g rest)

/-! ## Options in one argument -/

structure Reading where
  /-- The options in order, with their values. -/
  options : List (CommandOption × Text)
  /-- The file, or the command with everything after it. -/
  operand : List Text
  extras : List Text

structure Bundle where
  complete : List (CommandOption × Text)
  waiting : Option CommandOption

def alone (option : CommandOption) : Bundle :=
  if option.purpose.takesValue then ⟨[], some option⟩ else ⟨[(option, [])], none⟩

def withValue (option : CommandOption) (value : Text) : Except UsageFault Bundle :=
  if option.purpose.takesValue then .ok ⟨[(option, value)], none⟩
  else .error (.unwantedValue option value)

/-- An option with a text attached, which is its value or the letters of further options. -/
def runTogether (g : Grammar) (option : CommandOption) : Text → Except UsageFault Bundle
  | [] => withValue option []
  | letter :: rest =>
    match if option.purpose.takesValue then none else g.option? ['-', letter] with
    | none => withValue option (letter :: rest)
    | some next => do
      let further ← if rest.isEmpty then .ok (alone next) else runTogether g next rest
      return { further with complete := (option, []) :: further.complete }

def bundle (g : Grammar) (found : Match) : Except UsageFault Bundle :=
  match found.attached with
  | none => .ok (alone found.option)
  | some t =>
    if found.spelling.startsWith "--" then withValue found.option t
    else runTogether g found.option t

/-! ## All arguments -/

inductive Stop
  | refused (fault : UsageFault)
  | help
  | version

def stop? (options : List (CommandOption × Text)) : Option Stop :=
  options.findSome? fun (o, _) =>
    match o.purpose with
    | .help => some .help
    | .version => some .version
    | _ => none

def take (r : Reading) (b : Bundle) : Except Stop Reading :=
  match stop? b.complete with
  | some stop => .error stop
  | none => .ok { r with options := r.options ++ b.complete }

/-- Takes arguments in order. An operand is taken as soon as it can be; a double dash before or
after a file belongs to it. -/
def takeAll (g : Grammar) (r : Reading) : List (Text × Token) → Except Stop Reading
  | [] => .ok r
  | (argument, .unknownOption) :: rest =>
    takeAll g { r with extras := r.extras ++ [argument] } rest
  | (_, .option found) :: rest =>
    match bundle g found with
    | .error fault => .error (.refused fault)
    | .ok b =>
      match b.waiting, rest with
      | none, rest =>
        match take r b with
        | .error stop => .error stop
        | .ok r => takeAll g r rest
      | some option, (value, .plain) :: rest =>
        match take r b with
        | .error stop => .error stop
        | .ok r => takeAll g { r with options := r.options ++ [(option, value)] } rest
      | some option, _ => .error (.refused (.missingValue option))
  | (argument, .plain) :: rest =>
    match g.operand with
    | .command => .ok { r with operand := argument :: rest.map Prod.fst }
    | .file =>
      if r.operand.isEmpty then
        match rest with
        | (_, .separator) :: rest => takeAll g { r with operand := [argument] } rest
        | rest => takeAll g { r with operand := [argument] } rest
      else takeAll g { r with extras := r.extras ++ [argument] } rest
    | .none => takeAll g { r with extras := r.extras ++ [argument] } rest
  | (dashes, .separator) :: rest =>
    match g.operand, rest with
    | .command, _ :: _ => .ok { r with operand := dashes :: rest.map Prod.fst }
    | .file, (argument, .plain) :: rest =>
      if r.operand.isEmpty then takeAll g { r with operand := [argument] } rest
      else takeAll g { r with extras := r.extras ++ [dashes, argument] } rest
    | _, rest => takeAll g { r with extras := r.extras ++ [dashes] } rest

def read (g : Grammar) (arguments : List Text) : Except Stop Reading :=
  match tokens g arguments with
  | .error fault => .error (.refused fault)
  | .ok tokens =>
    match takeAll g ⟨[], [], []⟩ tokens with
    | .error stop => .error stop
    | .ok r =>
      match g.operand, r.operand with
      | .file, [] => .error (.refused .missingFile)
      | _, _ => .ok r

namespace Reading

def has (r : Reading) (p : Purpose) : Bool := r.options.any fun o => o.1.purpose == p

/-- The value of an option; the last one counts. -/
def value (r : Reading) (p : Purpose) : Text :=
  ((r.options.filter fun o => o.1.purpose == p).getLast?.map Prod.snd).getD []

end Reading

/-! ## Requests -/

inductive Request
  /-- No command is named. -/
  | overview
  | help (g : Grammar)
  | version
  | refused (g : Grammar) (fault : UsageFault)
  | install (everywhere insiders : Bool)
  | uninstall (everywhere insiders : Bool)
  | serve
  | check (file prompt : Text)
  | checkBuild (file : Text)

namespace Request

def ofStop (g : Grammar) : Stop → Request
  | .refused fault => refused g fault
  | .help => help g
  | .version => version

def ofReading (name : Name) (r : Reading) : Request :=
  let file := r.operand.head?.getD []
  match name with
  | .install => install (r.has .everywhere) (r.has .insiders)
  | .uninstall => uninstall (r.has .everywhere) (r.has .insiders)
  | .serve => serve
  | .check => check file (r.value .prompt)
  | .checkBuild => checkBuild file

/-- What arguments ask for. Arguments that nothing accepts are refused after all else. -/
def ofArguments (arguments : List Text) : Request :=
  match read .main arguments with
  | .error stop => ofStop .main stop
  | .ok outer =>
    match outer.operand with
    | [] => if outer.extras.isEmpty then overview else refused .main (.extraArguments outer.extras)
    | word :: rest =>
      match Name.ofText? word with
      | none => refused .main (.unknownCommand word)
      | some name =>
        match read (.ofName name) rest with
        | .error stop => ofStop (.ofName name) stop
        | .ok inner =>
          match outer.extras ++ inner.extras with
          | [] => ofReading name inner
          | extras => refused .main (.extraArguments extras)

end Request

end ZigAdvisor.Command
