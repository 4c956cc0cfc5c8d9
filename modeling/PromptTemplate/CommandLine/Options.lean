import PromptTemplate.Preview
import PromptTemplate.Settings
/-!
# Command-line options

An option is written with two dashes and its name. One that takes a value has it behind `=` or as
the next argument. One that takes no value may have a short form, a dash and one character; short
forms may be grouped behind one dash. Two dashes alone end the options. Arguments that are no
options are not allowed.

Arguments are first cut into items, and the items are then taken in order, so the first item that
is wrong is the one that is reported.
-/

namespace PromptTemplate

/-- An option, by what it does. -/
inductive OptionKey where
  | template
  | templates
  | inline
  | dictionary
  | secrets
  | context
  | json
  | verbose
  | noColor
  | help
  deriving Repr, DecidableEq

namespace OptionKey

/-- Every option. -/
def all : List OptionKey :=
  [template, templates, inline, dictionary, secrets, context, json, verbose, noColor, help]

/-- The name of an option, without its dashes. -/
def name : OptionKey → String
  | template => "template"
  | templates => "templates"
  | inline => "inline"
  | dictionary => "dictionary"
  | secrets => "secrets"
  | context => "context"
  | json => "json"
  | verbose => "verbose"
  | noColor => "no-color"
  | help => "help"

/-- The option takes a value. -/
def takesValue : OptionKey → Bool
  | template | templates | inline | dictionary | secrets | context => true
  | json | verbose | noColor | help => false

/-- The character of an option's short form. -/
def short? : OptionKey → Option Char
  | help => some 'h'
  | _ => none

/-- The option of a name. -/
def ofName? (name : String) : Option OptionKey := all.find? fun key => key.name = name

/-- The option of a short form. -/
def ofShort? (c : Char) : Option OptionKey := all.find? fun key => key.short? = some c

/-- An option as reports show it. -/
def shown (key : OptionKey) : String :=
  (key.short?.elim "" fun c => "-" ++ c.toString ++ ", ") ++ "--" ++ key.name

@[simp] theorem ofName?_name (key : OptionKey) : ofName? key.name = some key := by
  cases key <;> decide

end OptionKey

/-! ## Items -/

/-- The value that is written for an option. -/
inductive OptionValue where
  | none
  /-- Behind `=`. -/
  | joined (text : String)
  /-- As an argument of its own. -/
  | next (text : String)
  deriving Repr, DecidableEq

/-- A part of a command line. -/
inductive ArgItem where
  /-- An option as it is written, what it is if it is known, and its value. -/
  | option (written : String) (key : Option OptionKey) (value : OptionValue)
  | argument (text : String)
  deriving Repr, DecidableEq

namespace ArgItem

/-- The option of a short form. -/
def ofShort (c : Char) : ArgItem := option ("-" ++ c.toString) (OptionKey.ofShort? c) .none

/-- The items of grouped short forms, and what a dash among them leaves: from there on everything is
an argument. -/
def ofShorts : List Char → List ArgItem × Option (List ArgItem)
  | [] => ([], none)
  | c :: cs =>
    if c = '-' then ([], some (cs.map fun c => argument ("-" ++ c.toString)))
    else
      let (items, rest) := ofShorts cs
      (ofShort c :: items, rest)

/-- The characters of a text, with a character that takes two units as two unreadable ones. -/
def shortForms (cs : List Char) : List Char :=
  cs.flatMap fun c => if Text.isWide c then [Text.replacement, Text.replacement] else [c]

/-- The option that is written as two dashes and `text`, where the value is behind `=`; the first
character of the text belongs to the name. -/
def joined? (text : List Char) : Option ArgItem :=
  if (text.drop 1).contains '=' then
    let name := String.ofList (text.takeWhile (· ≠ '='))
    let value := String.ofList ((text.dropWhile (· ≠ '=')).drop 1)
    some (option ("--" ++ name) (OptionKey.ofName? name) (.joined value))
  else none

/-- The items of a list of arguments, behind an option that waits for its value, if there is one. -/
def ofArgsAfter (waiting : Option (String × OptionKey)) : List String → List ArgItem
  | [] => (waiting.map fun w => option w.1 (some w.2) .none).toList
  | arg :: rest =>
    match waiting with
    | some (written, key) => option written (some key) (.next arg) :: ofArgsAfter none rest
    | none =>
      match arg.toList with
      | ['-', '-'] => rest.map argument
      | '-' :: '-' :: text =>
        match joined? text with
        | some item => item :: ofArgsAfter none rest
        | none =>
          match OptionKey.ofName? (String.ofList text) with
          | none => option arg none .none :: ofArgsAfter none rest
          | some key =>
            if key.takesValue then ofArgsAfter (some (arg, key)) rest
            else option arg (some key) .none :: ofArgsAfter none rest
      | '-' :: c :: text =>
        match ofShorts (shortForms (c :: text)) with
        | (items, none) => items ++ ofArgsAfter none rest
        | (items, some arguments) => items ++ arguments ++ rest.map argument
      | _ => argument arg :: ofArgsAfter none rest

/-- The items of a list of arguments. -/
def ofArgs (args : List String) : List ArgItem := ofArgsAfter none args

end ArgItem

/-! ## Options -/

/-- What a command line asks for. -/
structure Options where
  template : Option String := none
  templates : String
  inline : Option String := none
  dictionary : String
  secrets : String
  context : Option String := none
  json : Bool := false
  verbose : Bool := false
  noColor : Bool := false
  help : Bool := false
  deriving Repr, DecidableEq

namespace Options

/-- The options of an empty command line. -/
def ofSettings (settings : Settings) : Options where
  templates := settings.templateDir
  dictionary := settings.dictionaryPath
  secrets := settings.secretsPath

/-- The same options with the value of one that takes a value. -/
def setText (options : Options) (value : String) : OptionKey → Options
  | .template => { options with template := some value }
  | .templates => { options with templates := value }
  | .inline => { options with inline := some value }
  | .dictionary => { options with dictionary := value }
  | .secrets => { options with secrets := value }
  | .context => { options with context := some value }
  | .json | .verbose | .noColor | .help => options

/-- The same options with one that takes no value. -/
def setFlag (options : Options) : OptionKey → Options
  | .json => { options with json := true }
  | .verbose => { options with verbose := true }
  | .noColor => { options with noColor := true }
  | .help => { options with help := true }
  | .template | .templates | .inline | .dictionary | .secrets | .context => options

/-- A value looks like an option. A dash alone does not. -/
def looksLikeOption (value : String) : Bool :=
  match value.toList with
  | '-' :: _ :: _ => true
  | _ => false

/-- Take one item into the options. -/
def take (options : Options) : ArgItem → Except OptionError Options
  | .argument text => .error (.unexpectedArgument text)
  | .option written none _ => .error (.unknownOption written)
  | .option written (some key) value =>
    match key.takesValue, value with
    | true, .none => .error (.missingValue key.shown)
    | true, .next text =>
      if looksLikeOption text then .error (.ambiguousValue written)
      else .ok (options.setText text key)
    | true, .joined text => .ok (options.setText text key)
    | false, .none => .ok (options.setFlag key)
    | false, _ => .error (.unwantedValue key.shown)

/-- The options of a command line, with defaults from settings; of an option that is given twice
the last value counts. -/
def parse (settings : Settings) (args : List String) : Except OptionError Options :=
  (ArgItem.ofArgs args).foldlM take (ofSettings settings)

/-- What the options ask to be rendered. -/
def request (options : Options) : RenderRequest where
  template := options.template
  templateDir := options.templates
  inline := options.inline
  dictionaryPath := options.dictionary
  secretsPath := options.secrets
  contextPath := options.context

end Options

end PromptTemplate
