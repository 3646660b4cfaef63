import Switchboard.Json.Reader

/-!
# Options of the channel viewer

The viewer joins one topic and prints what it receives.  Its arguments are long options; an option
takes its value from behind `=` or from the next argument, unless that one starts with a dash.  The
value of an option is checked when the next option comes, or at the end.

Main definitions

* `Tail.Settings`, `Tail.Settings.invalid?`: the options, and what is wrong with them;
* `Tail.parse`: the options of an argument list.
-/

set_option autoImplicit false

namespace Switchboard.Tail

/-- Why arguments are not accepted; `help` asks for the list of options. -/
inductive ArgumentError where
  | missingRequired
  | missingValue
  | invalidNumber
  | unknownArgument
  | repeatedArgument
  | unneededValue
  | help
  deriving DecidableEq, Repr, Inhabited

namespace ArgumentError

/-- The wording of an error. -/
def message : ArgumentError → String
  | .missingRequired => "the option --topic is missing"
  | .missingValue => "an option needs a value"
  | .invalidNumber => "--heartbeat-secs needs a number"
  | .unknownArgument => "unexpected argument"
  | .repeatedArgument => "an option is given twice"
  | .unneededValue => "a flag takes no value"
  | .help =>
    "options: --endpoint URL, --topic TOPIC, --params JSON, --heartbeat-secs N, --longpoll,"
      ++ " --presence"

end ArgumentError

/-- The options. -/
structure Settings where
  endpoint : String
  topic : String
  params : String
  longPoll : Bool
  heartbeatSeconds : Nat
  presence : Bool
  deriving DecidableEq, Repr, Inhabited

namespace Settings

/-- The parameters of the join; nothing if they are not JSON. -/
def joinParams? (s : Settings) : Option Json := Json.read? s.params

/-- What is wrong with the options: the topic is looked at first, then the heartbeat. -/
def invalid? (s : Settings) : Option String :=
  if s.topic = "" then some "topic must not be empty"
  else if s.heartbeatSeconds = 0 then some "heartbeat_secs must be greater than 0"
  else
    match s.joinParams? with
    | some (.object _) => none
    | some _ => some "params must be a JSON object"
    | none => some "params are not valid JSON"

end Settings

/-! ### Reading arguments -/

/-- The options that take a value. -/
inductive Valued where
  | endpoint
  | topic
  | params
  | heartbeat
  deriving DecidableEq, Repr

/-- The options that take none. -/
inductive Flag where
  | longPoll
  | presence
  | help
  deriving DecidableEq, Repr

/-- What is known after some arguments; `pending` is an option whose value is not checked yet. -/
structure Progress where
  endpoint : Option String
  topic : Option String
  params : Option String
  heartbeat : Option Nat
  longPoll : Bool
  presence : Bool
  pending : Option (Valued × Option String)
  deriving Repr

namespace Progress

/-- Nothing is known. -/
def start : Progress := ⟨none, none, none, none, false, false, none⟩

/-- A number below `2 ^ 64`, with an optional plus sign. -/
def number? (s : String) : Option Nat :=
  let ds := match s.toList with
    | '+' :: rest => rest
    | cs => cs
  if ds ≠ [] ∧ ds.all Char.isDigit ∧ digitsValue ds ≤ wordLimit then some (digitsValue ds) else none

/-- Sets an option that was not set before. -/
def setOnce {α : Type} (old : Option α) (value : Except ArgumentError α) :
    Except ArgumentError (Option α) :=
  if old.isSome then .error .repeatedArgument else value.map some

/-- Sets the value of an option. -/
def set (p : Progress) (option : Valued) (value : String) : Except ArgumentError Progress :=
  match option with
  | .endpoint => (setOnce p.endpoint (.ok value)).map fun v => { p with endpoint := v }
  | .topic => (setOnce p.topic (.ok value)).map fun v => { p with topic := v }
  | .params => (setOnce p.params (.ok value)).map fun v => { p with params := v }
  | .heartbeat =>
    let n := match number? value with
      | some n => .ok n
      | none => .error .invalidNumber
    (setOnce p.heartbeat n).map fun v => { p with heartbeat := v }

/-- Checks the option that is still open. -/
def close (p : Progress) : Except ArgumentError Progress :=
  match p.pending with
  | none => .ok p
  | some (_, none) => .error .missingValue
  | some (option, some value) => { p with pending := none }.set option value

/-- Raises a flag that was not raised before. -/
def raise (p : Progress) (flag : Flag) : Except ArgumentError Progress := do
  let p ← p.close
  match flag with
  | .help => throw .help
  | .longPoll =>
    if p.longPoll then throw .repeatedArgument else return { p with longPoll := true }
  | .presence =>
    if p.presence then throw .repeatedArgument else return { p with presence := true }

/-- An option with its value, if one is attached. -/
def valued (p : Progress) (option : Valued) (attached : Option String) :
    Except ArgumentError Progress := do
  let p ← p.close
  match attached with
  | some value => p.set option value
  | none => return { p with pending := some (option, none) }

end Progress

/-- The option that a name stands for. -/
def optionNamed? (name : String) : Option (Valued ⊕ Flag) :=
  if name = "endpoint" then some (.inl .endpoint)
  else if name = "topic" then some (.inl .topic)
  else if name = "params" then some (.inl .params)
  else if name = "heartbeat-secs" then some (.inl .heartbeat)
  else if name = "longpoll" then some (.inr .longPoll)
  else if name = "presence" then some (.inr .presence)
  else if name = "help" then some (.inr .help)
  else none

/-- A long option behind its two dashes. -/
def longOption (p : Progress) (cs : List Char) : Except ArgumentError Progress :=
  let name := String.ofList (cs.takeWhile (· ≠ '='))
  let attached := match cs.dropWhile (· ≠ '=') with
    | [] => none
    | _ :: value => some (String.ofList value)
  match optionNamed? name with
  | none => .error .unknownArgument
  | some (.inl option) => p.valued option attached
  | some (.inr flag) => if attached.isSome then .error .unneededValue else p.raise flag

/-- An argument that is no option: the value of the open option, or one too many. -/
def plainArgument (p : Progress) (arg : String) : Except ArgumentError Progress :=
  match p.pending with
  | some (option, none) => .ok { p with pending := some (option, some arg) }
  | _ => .error .unknownArgument

/-- One argument. -/
def argument (p : Progress) (arg : String) : Except ArgumentError Progress :=
  match arg.toList with
  | '-' :: '-' :: cs => longOption p cs
  | ['-'] => plainArgument p arg
  | '-' :: 'h' :: _ => p.raise .help
  | '-' :: _ => .error .unknownArgument
  | _ => plainArgument p arg

/-- The arguments up to a bare double dash, behind which nothing is expected. -/
def arguments (p : Progress) : List String → Except ArgumentError Progress
  | [] => .ok p
  | arg :: rest =>
    -- Behind a bare double dash only plain arguments could follow, and there are none.
    if arg = "--" then if rest.isEmpty then .ok p else .error .unknownArgument
    else (argument p arg).bind fun p => arguments p rest

/-- The options of an argument list; only the topic has to be there. -/
def parse (args : List String) : Except ArgumentError Settings := do
  let p ← (← arguments .start args).close
  match p.topic with
  | none => throw .missingRequired
  | some topic =>
    return {
      topic
      endpoint := p.endpoint.getD "ws://localhost:4000/socket"
      params := p.params.getD "\x7b\x7d"
      longPoll := p.longPoll
      heartbeatSeconds := p.heartbeat.getD 30
      presence := p.presence }

end Switchboard.Tail
