/-!
The arguments of a command: options, and others that have their places. Options may stand
before, between and after the others; after two hyphens everything is one of the others. The
arguments are taken from left to right, and no option may be given twice.
-/

namespace Runbook.Arguments

inductive Stop
  | help
  | version
  | misuse
deriving DecidableEq

inductive Use
  | switch
  | value (accepts : String → Bool)
  | stop (reason : Stop)

structure OptionForm where
  long : String
  short : Option Char
  use : Use

/-- What has been taken in so far. Switches have an empty value. -/
structure Taken where
  options : List (String × String)
  others : List String

namespace Taken

def empty : Taken := ⟨[], []⟩

def addOption (t : Taken) (name value : String) : Except Stop Taken :=
  if (t.options.lookup name).isSome then .error .misuse
  else .ok { t with options := (name, value) :: t.options }

def value? (t : Taken) (name : String) : Option String := t.options.lookup name

def has (t : Taken) (name : String) : Bool := (t.value? name).isSome

end Taken

def takeValue (t : Taken) (o : OptionForm) (value : String) : Except Stop Taken :=
  match o.use with
  | .value accepts => if accepts value then t.addOption o.long value else .error .misuse
  | _ => .error .misuse

def takeBare (t : Taken) (o : OptionForm) : Except Stop (Taken × Option OptionForm) :=
  match o.use with
  | .switch => (t.addOption o.long "").map fun t => (t, none)
  | .value _ => .ok (t, some o)
  | .stop reason => .error reason

/-- Options by single letters. What follows the letter of an option with a value is that value,
with or without an equals sign. -/
def takeLetters (forms : List OptionForm) (t : Taken) :
    List Char → Except Stop (Taken × Option OptionForm)
  | [] => .ok (t, none)
  | c :: rest =>
      match forms.find? (·.short = some c) with
      | none => .error .misuse
      | some o =>
          match o.use, rest with
          | .value _, '=' :: value => (takeValue t o (.ofList value)).map fun t => (t, none)
          | .value _, _ :: _ => (takeValue t o (.ofList rest)).map fun t => (t, none)
          | _, _ =>
              match takeBare t o with
              | .error stop => .error stop
              | .ok (t, some o) => .ok (t, some o)
              | .ok (t, none) => takeLetters forms t rest

def takeName (forms : List OptionForm) (t : Taken) (s : List Char) :
    Except Stop (Taken × Option OptionForm) :=
  let name := String.ofList (s.takeWhile (· ≠ '='))
  match forms.find? (·.long = name) with
  | none => .error .misuse
  | some o =>
      match s.dropWhile (· ≠ '=') with
      | [] => takeBare t o
      | _ :: value => (takeValue t o (.ofList value)).map fun t => (t, none)

def isOther (arg : String) : Bool :=
  match arg.toList with
  | '-' :: _ :: _ => false
  | _ => true

def takeOthers (t : Taken) : List (String → Bool) → List String → Except Stop Taken
  | _, [] => .ok t
  | [], _ :: _ => .error .misuse
  | accepts :: places, arg :: rest =>
      if accepts arg then takeOthers { t with others := t.others ++ [arg] } places rest
      else .error .misuse

/-- Takes in arguments, where `awaiting` is an option that still has to get its value. -/
def take (forms : List OptionForm) (places : List (String → Bool)) (t : Taken)
    (awaiting : Option OptionForm) : List String → Except Stop Taken
  | [] => if awaiting.isSome then .error .misuse else .ok t
  | arg :: rest =>
      match awaiting, arg.toList with
      | some o, _ =>
          if isOther arg then
            match takeValue t o arg with
            | .error stop => .error stop
            | .ok t => take forms places t none rest
          else .error .misuse
      | none, ['-', '-'] => takeOthers t places rest
      | none, '-' :: '-' :: name =>
          match takeName forms t name with
          | .error stop => .error stop
          | .ok (t, awaiting) => take forms places t awaiting rest
      | none, '-' :: c :: letters =>
          match takeLetters forms t (c :: letters) with
          | .error stop => .error stop
          | .ok (t, awaiting) => take forms places t awaiting rest
      | none, _ =>
          match places with
          | [] => .error .misuse
          | accepts :: places =>
              if accepts arg then
                take forms places { t with others := t.others ++ [arg] } none rest
              else .error .misuse

def read (forms : List OptionForm) (places : List (String → Bool)) (args : List String) :
    Except Stop Taken :=
  take forms places .empty none args

end Runbook.Arguments
