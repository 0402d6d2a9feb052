import ProseLinter.Files.Path

/-!
# Arguments

The arguments of the command line are read from left to right. An option takes its value from the
same argument or from the next one; everything else is a file. The first argument that asks for
help or for the version ends the reading, and so does the first error.

* `Arguments.parse` reads the arguments.
-/

namespace ProseLinter.CommandLine

/-- What the arguments ask for. -/
structure Arguments where
  files : List Path := []
  config : Option Path := none
  rules : List String := []
  ruleDirectories : List Path := []
  plugins : List String := []
  baseDirectory : Option Path := none
  format : Option String := none
  outputFile : Option Path := none
  readsStdin : Bool := false
  extensions : List String := []
  isVerbose : Bool := false
deriving DecidableEq, Repr

/-- What is wrong with the arguments. -/
inductive UsageError where
  | unknown (argument : String)
  | missingValue (option : String)
  | unexpectedValue (option : String)
  | repeated (option : String)
  | emptyPath (option : String)
deriving DecidableEq, Repr

/-- The text of an error. -/
def UsageError.message : UsageError → String
  | unknown argument => "unexpected argument '" ++ argument ++ "'"
  | missingValue option => "a value is required for '" ++ option ++ "'"
  | unexpectedValue option => "no value is expected for '" ++ option ++ "'"
  | repeated option => "'" ++ option ++ "' cannot be used multiple times"
  | emptyPath option => "a value is required for '" ++ option ++ "' but none was supplied"

/-- What to do. -/
inductive Request where
  | lint (arguments : Arguments)
  | help
  | version
deriving DecidableEq, Repr

/-- The options that take a value. -/
inductive Setting where
  | config
  | rule
  | ruleDirectory
  | plugin
  | baseDirectory
  | format
  | outputFile
  | extensions
deriving DecidableEq, Repr

/-- The options without a value. -/
inductive Switch where
  | stdin
  | verbose
  | help
  | version
deriving DecidableEq, Repr

/-- An option of either kind. -/
inductive Choice where
  | setting (s : Setting)
  | switch (s : Switch)
deriving DecidableEq, Repr

/-- The options with their long names and their letters. -/
def choices : List (Choice × String × Option Char) :=
  [(.setting .config, "config", some 'c'),
   (.setting .rule, "rule", none),
   (.setting .ruleDirectory, "rulesdir", none),
   (.setting .plugin, "plugin", none),
   (.setting .baseDirectory, "rules-base-directory", none),
   (.setting .format, "format", some 'f'),
   (.setting .outputFile, "output-file", some 'o'),
   (.switch .stdin, "stdin", none),
   (.setting .extensions, "ext", none),
   (.switch .verbose, "verbose", some 'v'),
   (.switch .help, "help", some 'h'),
   (.switch .version, "version", some 'V')]

/-- The option of a long name. -/
def choiceOfName? (name : String) : Option Choice :=
  (choices.find? fun entry => entry.2.1 == name).map (·.1)

/-- The option of a letter. -/
def choiceOfLetter? (letter : Char) : Option Choice :=
  (choices.find? fun entry => entry.2.2 == some letter).map (·.1)

/-- The text that begins an argument which is an option, unless it is a lone dash. -/
def isOption (argument : String) : Bool :=
  argument.toList.head? == some '-' && argument != "-"

namespace Arguments

/-- Sets a field that can be set once. -/
def once {α : Type} (option : String) (old : Option α) (new : α) :
    Except UsageError (Option α) :=
  if old.isSome then .error (.repeated option) else .ok (some new)

/-- A path, which must not be empty. -/
def nonemptyPath (option value : String) : Except UsageError Path :=
  if value == "" then .error (.emptyPath option) else .ok ⟨value⟩

/-- The arguments with a file added. -/
def addFile (a : Arguments) (value : String) : Except UsageError Arguments := do
  return { a with files := a.files ++ [← nonemptyPath "[FILES]..." value] }

/-- The items of a list that is written with commas between them. -/
def listOf (value : String) : List String :=
  (Text.splitOn ',' value.toList).map String.ofList

/-- The arguments with a setting given a value. -/
def set (a : Arguments) (s : Setting) (option value : String) : Except UsageError Arguments :=
  match s with
  | .config => do
    return { a with config := ← once option a.config (← nonemptyPath option value) }
  | .rule => return { a with rules := a.rules ++ [value] }
  | .ruleDirectory => do
    return { a with ruleDirectories := a.ruleDirectories ++ [← nonemptyPath option value] }
  | .plugin => return { a with plugins := a.plugins ++ [value] }
  | .baseDirectory => do
    return { a with baseDirectory := ← once option a.baseDirectory (← nonemptyPath option value) }
  | .format => do return { a with format := ← once option a.format value }
  | .outputFile => do
    return { a with outputFile := ← once option a.outputFile (← nonemptyPath option value) }
  | .extensions => return { a with extensions := a.extensions ++ listOf value }

/-- What comes after a switch: the arguments with it turned on, or a request that it makes. -/
def turnOn (a : Arguments) (s : Switch) (option : String) :
    Except UsageError (Arguments ⊕ Request) :=
  match s with
  | .stdin =>
    if a.readsStdin then .error (.repeated option)
    else .ok (.inl { a with readsStdin := true })
  | .verbose =>
    if a.isVerbose then .error (.repeated option)
    else .ok (.inl { a with isVerbose := true })
  | .help => .ok (.inr .help)
  | .version => .ok (.inr .version)

/-- What has become of the arguments after one of them. -/
inductive Progress where
  | continue (arguments : Arguments)
  /-- The next argument is the value of a setting. -/
  | awaiting (arguments : Arguments) (s : Setting) (option : String)
  | done (request : Request)

/-- Reads an option with a long name, without its two dashes. -/
def readLong (a : Arguments) (text : String) : Except UsageError Progress :=
  let name := String.ofList (text.toList.takeWhile (· != '='))
  let value? := match text.toList.dropWhile (· != '=') with
    | _ :: value => some (String.ofList value)
    | [] => none
  let option := "--" ++ name
  match choiceOfName? name, value? with
  | none, _ => .error (.unknown option)
  | some (.setting s), some value => (a.set s option value).map .continue
  | some (.setting s), none => .ok (.awaiting a s option)
  | some (.switch _), some _ => .error (.unexpectedValue option)
  | some (.switch s), none => (a.turnOn s option).map (Sum.elim .continue .done)

/-- Reads letters after a dash; the letter of a setting ends them, and what follows it is its
value. -/
def readLetters (a : Arguments) : List Char → Except UsageError Progress
  | [] => .ok (.continue a)
  | letter :: rest =>
    let option := String.ofList ['-', letter]
    match choiceOfLetter? letter with
    | none => .error (.unknown option)
    | some (.setting s) =>
      match rest with
      | [] => .ok (.awaiting a s option)
      | '=' :: value => (a.set s option (String.ofList value)).map .continue
      | value => (a.set s option (String.ofList value)).map .continue
    | some (.switch s) => do
      match ← a.turnOn s option with
      | .inl a => readLetters a rest
      | .inr request => .ok (.done request)

/-- Reads one argument. -/
def readOne (a : Arguments) (argument : String) : Except UsageError Progress :=
  if !isOption argument then (a.addFile argument).map .continue
  else match argument.toList with
    | '-' :: '-' :: name => a.readLong (String.ofList name)
    | _ :: letters => a.readLetters letters
    | [] => .ok (.continue a)

/-- Reads arguments. After two dashes all are files. -/
def parseFrom (a : Arguments) : List String → Except UsageError Request
  | [] => .ok (.lint a)
  | argument :: rest =>
    if argument == "--" then (rest.foldlM addFile a).map .lint
    else
      match a.readOne argument, rest with
      | .error e, _ => .error e
      | .ok (.done request), _ => .ok request
      | .ok (.continue a), rest => parseFrom a rest
      | .ok (.awaiting _ _ option), [] => .error (.missingValue option)
      | .ok (.awaiting a s option), value :: rest =>
        if isOption value then .error (.missingValue option)
        else
          match a.set s option value with
          | .error e => .error e
          | .ok a => parseFrom a rest

/-- Reads the arguments of the command line. -/
def parse (arguments : List String) : Except UsageError Request :=
  parseFrom {} arguments

end Arguments

end ProseLinter.CommandLine
