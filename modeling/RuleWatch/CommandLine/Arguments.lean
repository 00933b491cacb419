import RuleWatch.CommandLine.Option

/-!
Reading the arguments of the command line. An option that still waits for its
value, or whose value has not been looked at, is settled when the next option is
met or the arguments end; an argument that fits nowhere is refused before that.
-/

namespace RuleWatch.CommandLine

/-- An option with its value, if that has been met. -/
structure Pending where
  name : Name
  value : Option String
  deriving DecidableEq, Repr

/-- What has been read so far. The options that were accepted are listed, the
first one first. -/
structure Progress where
  options : Options := {}
  accepted : List Name := []
  pending : Option Pending := none
  deriving DecidableEq, Repr

/-- What an argument is by its form. -/
inductive Form
  | escape
  | long (name : String) (value : Option String)
  | short (letter : Char)
  | plain
  deriving DecidableEq, Repr

def Form.ofArgument (arg : String) : Form :=
  match arg.toList with
  | ['-', '-'] => escape
  | '-' :: '-' :: cs =>
      let name := String.ofList (cs.takeWhile (· ≠ '='))
      match cs.dropWhile (· ≠ '=') with
      | [] => long name none
      | _ :: value => long name (some (.ofList value))
  | '-' :: c :: _ => short c
  | _ => plain

namespace Progress

def accept (p : Progress) (n : Name) (value : String) :
    Except Refusal Progress :=
  if p.accepted.contains n then .error (.repeated n)
  else match p.options.put n value with
    | .error r => .error r
    | .ok options => .ok { p with options, accepted := p.accepted ++ [n] }

def settle (p : Progress) : Except Refusal Progress :=
  match p.pending with
  | none => .ok p
  | some ⟨n, none⟩ => .error (.missingValue n)
  | some ⟨n, some value⟩ => accept { p with pending := none } n value

/-- Takes an option written with its name and perhaps a value behind an equals
sign. -/
def takeLong (p : Progress) (name : String) (value : Option String) :
    Except Refusal Progress :=
  match Name.ofLong? name with
  | none => .error (.unexpectedArgument ("--" ++ name))
  | some n =>
      match n.value?, value with
      | some _, some value => do (← p.settle).accept n value
      | some _, none => return { (← p.settle) with pending := some ⟨n, none⟩ }
      | none, some value => .error (.unexpectedValue value n)
      | none, none => do (← p.settle).accept n ""

/-- Takes an option written with its letter. All of these end the reading. -/
def takeShort (p : Progress) (letter : Char) : Except Refusal Progress :=
  match Name.ofShort? letter with
  | none => .error (.unexpectedArgument ("-" ++ letter.toString))
  | some n => do (← p.settle).accept n ""

/-- Takes an argument that is no option: the value that an option waits for. -/
def takePlain (p : Progress) (arg : String) : Except Refusal Progress :=
  match p.pending with
  | some ⟨n, none⟩ => .ok { p with pending := some ⟨n, some arg⟩ }
  | _ => .error (.unexpectedArgument arg)

/-- Takes the arguments one by one. Behind two dashes nothing may follow. -/
def takeAll (p : Progress) : List String → Except Refusal Progress
  | [] => p.settle
  | arg :: args =>
      match Form.ofArgument arg with
      | .escape =>
          match args with
          | [] => p.settle
          | next :: _ => .error (.unexpectedArgument next)
      | .long name value => do (← p.takeLong name value).takeAll args
      | .short letter => do (← p.takeShort letter).takeAll args
      | .plain => do (← p.takePlain arg).takeAll args

/-- Options that exclude each other are reported in the order in which they were
accepted. -/
def finish (p : Progress) : Except Refusal Options :=
  if p.options.once && p.options.scan.isSome then
    .error (if p.accepted.idxOf .once < p.accepted.idxOf .scan then
      .conflict .once .scan
      else .conflict .scan .once)
  else .ok p.options

end Progress

def Options.ofArguments (args : List String) : Except Refusal Options := do
  (← Progress.takeAll {} args).finish

end RuleWatch.CommandLine
