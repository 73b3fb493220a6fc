namespace Tenancy.CommandLine

/-- Which tenant's catalog is wanted, and the document that stands in for its identity service. -/
structure Query where
  provider : String
  tenant : String
  document : String
  deriving DecidableEq

inductive Command where
  | check
  | catalog (query : Query)
  | resolve (query : Query) (url : String)
  deriving DecidableEq

structure Invocation where
  config : String
  command : Command
  deriving DecidableEq

/-- What help is wanted on. -/
inductive Topic where
  | program
  | check
  | catalog
  | resolve
  | help
  deriving DecidableEq

inductive Parsed where
  | invocation (invocation : Invocation)
  | help (topic : Topic)
  | misuse
  deriving DecidableEq

def defaultConfig : String := "tenant-pool.toml"

/-- How one argument reads on its own. -/
inductive Token where
  /-- Two hyphens alone. -/
  | endOfOptions
  /-- A long option, and the value behind its equals sign. -/
  | long (name : String) (value : Option String)
  /-- Short options in one word. -/
  | short (first : Char) (rest : List Char)
  | word (text : String)

def Token.ofLong (cs : List Char) : Token :=
  match cs.dropWhile (· != '=') with
  | _ :: value => .long (String.ofList (cs.takeWhile (· != '='))) (some (String.ofList value))
  | [] => .long (String.ofList cs) none

def Token.of (argument : String) : Token :=
  match argument.toList with
  | ['-', '-'] => .endOfOptions
  | '-' :: '-' :: name => .ofLong name
  | '-' :: c :: rest => .short c rest
  | _ => .word argument

/-- The value of an option: what is attached to it, or else the next argument if that is a word. -/
def valueOf (attached : Option String) (arguments : List String) :
    Option (String × { after : List String // after.length ≤ arguments.length }) :=
  match attached, arguments with
  | some value, arguments => some (value, ⟨arguments, Nat.le_refl _⟩)
  | none, argument :: rest =>
    match Token.of argument with
    | .word value => some (value, ⟨rest, by simp⟩)
    | _ => none
  | none, [] => none

/-- What is known of a command's own arguments. -/
structure Given where
  provider : Option String := none
  tenant : Option String := none
  document : Option String := none
  url : Option String := none

/-- Fills a place that must be empty. -/
def fill? (place : Option String) (value : String) : Option (Option String) :=
  match place with
  | none => some (some value)
  | some _ => none

/-- An option of the command and its value. A path may not be empty. -/
def Given.option? (g : Given) (name value : String) : Option Given :=
  match name with
  | "provider" => (fill? g.provider value).map fun provider => { g with provider }
  | "tenant" => (fill? g.tenant value).map fun tenant => { g with tenant }
  | "catalog" =>
    if value.isEmpty then none
    else (fill? g.document value).map fun document => { g with document }
  | _ => none

def isOption (name : String) : Bool := name == "provider" || name == "tenant" || name == "catalog"

/-- Words that belong to no option: one URL, if the command takes one. -/
def Given.words? (takesUrl : Bool) (g : Given) : List String → Option Given
  | [] => some g
  | word :: rest =>
    if takesUrl then (fill? g.url word).bind fun url => words? takesUrl { g with url } rest
    else none

/-- How the arguments of a command end: all of them read, help wanted, or neither. -/
inductive Ending where
  | given (given : Given)
  | help
  | misuse

/-- Reads the arguments behind `catalog` and `resolve`. -/
def readGiven (takesUrl : Bool) (g : Given) (arguments : List String) : Ending :=
  match arguments with
  | [] => .given g
  | argument :: rest =>
    match Token.of argument with
    | .endOfOptions => ((g.words? takesUrl rest).map .given).getD .misuse
    | .long "help" none => .help
    | .long name attached =>
      if isOption name then
        match valueOf attached rest with
        | none => .misuse
        | some (value, after) =>
          match g.option? name value with
          | none => .misuse
          | some g => readGiven takesUrl g after.1
      else .misuse
    | .short 'h' _ => .help
    | .short _ _ => .misuse
    | .word word =>
      match g.words? takesUrl [word] with
      | none => .misuse
      | some g => readGiven takesUrl g rest
  termination_by arguments.length
  decreasing_by
    · have := after.2
      simp
      omega
    · simp

def Given.query? (g : Given) : Option Query := do
  return ⟨← g.provider, ← g.tenant, ← g.document⟩

/-- The command with its arguments. Only `resolve` takes a word, and it needs one. -/
def readCommand (config : String) (topic : Topic) (arguments : List String) : Parsed :=
  match readGiven (topic == .resolve) {} arguments with
  | .help => .help topic
  | .misuse => .misuse
  | .given g =>
    match topic, g.query?, g.url with
    | .catalog, some query, none => .invocation ⟨config, .catalog query⟩
    | .resolve, some query, some url => .invocation ⟨config, .resolve query url⟩
    | _, _, _ => .misuse

def readCheck (config : String) (arguments : List String) : Parsed :=
  match arguments with
  | [] => .invocation ⟨config, .check⟩
  | argument :: rest =>
    match Token.of argument with
    | .endOfOptions => if rest.isEmpty then .invocation ⟨config, .check⟩ else .misuse
    | .long "help" none | .short 'h' _ => .help .check
    | _ => .misuse

def readHelp : List String → Parsed
  | [] => .help .program
  | ["check"] => .help .check
  | ["catalog"] => .help .catalog
  | ["resolve"] => .help .resolve
  | ["help"] => .help .help
  | _ => .misuse

/-- What stands behind the letter of a short option; an equals sign between them does not count. -/
def attachedTo : List Char → Option String
  | [] => none
  | '=' :: value => some (String.ofList value)
  | value => some (String.ofList value)

def readProgram (config : Option String) (arguments : List String) : Parsed :=
  match arguments with
  | [] => .misuse
  | argument :: rest =>
    match Token.of argument with
    | .long "help" none | .short 'h' _ => .help .program
    | .long "config" attached =>
      match valueOf attached rest with
      | none => .misuse
      | some (value, after) =>
        if config.isSome || value.isEmpty then .misuse else readProgram (some value) after.1
    | .short 'c' attached =>
      match valueOf (attachedTo attached) rest with
      | none => .misuse
      | some (value, after) =>
        if config.isSome || value.isEmpty then .misuse else readProgram (some value) after.1
    | .word "check" => readCheck (config.getD defaultConfig) rest
    | .word "catalog" => readCommand (config.getD defaultConfig) .catalog rest
    | .word "resolve" => readCommand (config.getD defaultConfig) .resolve rest
    | .word "help" => readHelp rest
    | _ => .misuse
  termination_by arguments.length
  decreasing_by
    all_goals
      have := after.2
      simp
      omega

/-- Options of the program itself stand before the command, and those of a command behind it; two
hyphens end the options. -/
def parse (arguments : List String) : Parsed := readProgram none arguments

end Tenancy.CommandLine
